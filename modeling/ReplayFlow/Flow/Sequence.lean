import ReplayFlow.Alias.Table
import ReplayFlow.Fault
import ReplayFlow.Flow.Body
import ReplayFlow.Text.Case
import ReplayFlow.Transaction

/-!
The flow that runs the flows of a batch one after the other.
-/

namespace ReplayFlow.Sequence

def version : String := "1.0"

def title : String := "mainFlow generated automatically"

/-- The step that runs a transaction. -/
def runStep (tcode : String) : String :=
  String.ofList ("run".toList ++ Text.capitalize tcode.toList)

def runBody (tcode next : String) : Body :=
  [("action", .str "callSubflow"), ("subflow", .str tcode), ("next", .str next)]

/-- Adds a step for each transaction; the last goes on to the end. -/
def addRuns (steps : OrderedMap Body) : List String → OrderedMap Body
  | [] => steps
  | tcode :: rest =>
    let next := (rest.head?.map runStep).getD endStep
    addRuns (steps.insert (runStep tcode) (runBody tcode next)) rest

def steps (tcodes : List String) : OrderedMap Body := (addRuns ∅ tcodes).insert endStep Body.exit

/-- What is to be said about the flow: an object, or nothing. -/
def infoOf (v : Json) : Except Fault (Entries Json) :=
  if !v.isGiven then .ok []
  else
    match v with
    | .obj fields => .ok fields
    | _ => .error .notObject

/-- The document of the flow, with the alias table of its batch. -/
def document (today : String) (tcodes : List String) (table : AliasTable Json)
    (info : Entries Json) : Json :=
  .obj ([("$meta", .obj [("version", (Entries.field info "version").orElse (.str version)),
      ("tx", (Entries.field info "tx").orElse (.str title)),
      ("created", (Entries.field info "created").orElse (.str today))])] ++
    table.fields ++
    [("$mainFlow", .obj [("steps", .obj (Entries.mapValues .obj (steps tcodes).entries))])])

end ReplayFlow.Sequence
