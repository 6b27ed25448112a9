import ReplayFlow.Batch.Compile
import ReplayFlow.Storage.Sink

/-!
The documents a compilation writes: one for each flow under its transaction code,
the alias table, and the main flow if there is one.
-/

namespace ReplayFlow

def aliasesFile : String := "aliases.json"

def mainFlowFile : String := "mainFlow.json"

def flowFile (tcode : String) : String := tcode ++ ".json"

namespace CompileResult

/-- The documents of a result in the order they are written. -/
def outputs (r : CompileResult) : List Output :=
  (r.flows.entries.map fun flow => ⟨flowFile flow.1, flow.2⟩) ++
    [⟨aliasesFile, r.table.stored.toJson⟩] ++
    match r.mainFlow with
    | some document => [⟨mainFlowFile, document⟩]
    | none => []

/-- The names of what is written. -/
def written (r : CompileResult) : List String := r.outputs.map Output.name

/-- Writes a result into memory. -/
def writeTo (r : CompileResult) (memory : OrderedMap Json) : OrderedMap Json :=
  Storage.writeAllTo memory r.outputs

/-- Writes a result into a directory. -/
def writeInto (r : CompileResult) (t : FileTree) (directory : List String) :
    FileTree × Except Fault (List String) :=
  match Storage.writeAllInto t directory r.outputs with
  | (t, .ok ()) => (t, .ok r.written)
  | (t, .error fault) => (t, .error fault)

end CompileResult

end ReplayFlow
