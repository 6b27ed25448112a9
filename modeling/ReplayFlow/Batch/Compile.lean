import ReplayFlow.Alias.Generation
import ReplayFlow.Batch.Context
import ReplayFlow.Flow.Assembly
import ReplayFlow.Flow.Graph
import ReplayFlow.Flow.Sequence
import ReplayFlow.Path
import ReplayFlow.Recording.Document
import ReplayFlow.Storage.Source

/-!
Compilation: the alias table of a whole batch, and a flow for each transaction
with what is wrong in it. Documents are compiled as they are given; a source is
read first, and a file that holds no document is skipped.
-/

namespace ReplayFlow

/-- What a compilation is asked for beside its recordings. -/
structure CompileOptions where
  today : String
  created : Json := .null
  mainFlow : Bool := false
  mainFlowInfo : Entries Json := []

namespace CompileOptions

/-- The date that legacy flows carry. -/
def date (options : CompileOptions) : Json := options.created.orElse (.str options.today)

end CompileOptions

structure CompileResult where
  flows : OrderedMap Json
  table : AliasTable String
  violations : OrderedMap (List Violation)
  skipped : List Skipped
  mainFlow : Option Json

namespace Skipped

def toJson (s : Skipped) : Json :=
  .obj [("tcode", .str s.tcode), ("source", .str s.source), ("reason", .str s.reason)]

end Skipped

namespace CompileResult

def toJson (r : CompileResult) : Json :=
  .obj ([("flows", .obj r.flows.entries)] ++ r.table.stored.fields ++
    [r.table.stored.conflictField,
      ("violations", .obj (Entries.mapValues (fun vs => .arr (vs.map Violation.toJson))
        r.violations.entries)),
      ("skipped", .arr (r.skipped.map Skipped.toJson))] ++
    match r.mainFlow with
    | some document => [("mainFlow", document)]
    | none => [])

end CompileResult

namespace Batch

/-- The violations of a flow. -/
def violationsOf (flow : Json) : List Violation := (Flow.validate flow).toOption.getD []

/-- A flow with its violations and with what was reported about it. -/
structure Compiled where
  flow : Json
  violations : List Violation
  notices : List Notice

def compileOne (date : Json) (t : Transaction) : Compiled :=
  let flow := Flow.assemble date t
  let violations := violationsOf flow.document
  ⟨flow.document, violations,
    flow.notices ++ violations.map fun v => .violation t.tcode v.defect.message v.step⟩

/-- The batch with names on its steps, and the result of its compilation. -/
structure Assembled where
  batch : Batch
  result : CompileResult
  notices : List Notice

def assemble (options : CompileOptions) (b : Batch) : Assembled :=
  let named := Alias.generate b.transactions
  let compiled := named.transactions.mapValues (compileOne options.date)
  let violations : OrderedMap (List Violation) :=
    .ofList ((Entries.mapValues Compiled.violations compiled.entries).filter
      fun entry => !entry.2.isEmpty)
  ⟨{ b with transactions := named.transactions },
    { flows := compiled.mapValues Compiled.flow
      table := named.table
      violations
      skipped := b.skipped
      mainFlow :=
        if options.mainFlow then
          some (Sequence.document options.today compiled.keys named.table.stored
            options.mainFlowInfo)
        else none },
    named.notices ++ compiled.values.flatMap Compiled.notices⟩

/-- Takes in entries and compiles the batch. -/
def compile (options : CompileOptions) (b : Batch) (entries : List Entry) :
    CompileResult × List Notice :=
  let (b, notices) := b.addAll entries
  let assembled := b.assemble options
  (assembled.result, notices ++ assembled.notices)

end Batch

/-- Compiles documents by their sources. -/
def compileDocuments (options : CompileOptions) (documents : OrderedMap Json) :
    CompileResult × List Notice :=
  Batch.compile options {} (documents.entries.map fun document =>
    ⟨document.1, tcodeOfSource document.1, document.2⟩)

/-- Reads the recordings of a source. A file that holds no document is skipped; anything
else that goes wrong stops the run. -/
def readEntries (source : RecordingSource) (b : Batch) (entries : List Entry) :
    List String → Run (Batch × List Entry)
  | [] => .pure (b, entries)
  | path :: rest => do
    let tcode := tcodeOfSource path
    match (source.read path).bind fun bytes => Recording.parseBytes bytes tcode with
    | .ok document => readEntries source b (entries ++ [⟨path, tcode, document⟩]) rest
    | .error (.malformed cause) =>
      Run.report [.skipped path cause.message]
      readEntries source (b.skip ⟨tcode, path, cause.message⟩) entries rest
    | .error fault => .fail fault

/-- Compiles the recordings of a source. -/
def compileSource (options : CompileOptions) (source : RecordingSource) : Run CompileResult := do
  let paths ← Run.ofExcept source.list
  let (b, entries) ← readEntries source {} [] paths
  let (result, notices) := b.compile options entries
  Run.report notices
  return result

end ReplayFlow
