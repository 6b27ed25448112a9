import ReplayFlow.Json.Basic
import ReplayFlow.Text.Case

/-!
The bodies of requests. A field that is missing takes its default, and one of
the wrong kind makes the body unreadable.
-/

namespace ReplayFlow.Service

/-- A switch may be written as a boolean, as one or zero, or as a word for them. -/
def switch? : Json → Option Bool
  | .bool b => some b
  | .int n => if n = 1 then some true else if n = 0 then some false else none
  | .float x =>
    if x.equalsInt 1 then some true else if x.equalsInt 0 then some false else none
  | .str s =>
    let word := s.map Char.toLower
    if word ∈ ["1", "t", "true", "y", "yes", "on"] then some true
    else if word ∈ ["0", "f", "false", "n", "no", "off"] then some false
    else none
  | _ => none

/-- A text or null. -/
def textOrNull? : Json → Option (Option String)
  | .null => some none
  | .str s => some (some s)
  | _ => none

structure CompileBody where
  recordings : OrderedMap Json
  mainFlow : Bool

def CompileBody.ofJson? : Json → Option CompileBody
  | .obj fields =>
    match Entries.field fields "recordings", Entries.get? fields "mainFlow" with
    | .obj recordings, none => some ⟨.ofList recordings, false⟩
    | .obj recordings, some v => (switch? v).map fun mainFlow => ⟨.ofList recordings, mainFlow⟩
    | _, _ => none
  | _ => none

structure ProcessBody where
  inputDirectory : Option String
  outputDirectory : Option String
  mainFlow : Option Bool

def ProcessBody.ofJson? : Json → Option ProcessBody
  | .obj fields => do
    let inputDirectory ← textOrNull? (Entries.field fields "inputDir")
    let outputDirectory ← textOrNull? (Entries.field fields "outputDir")
    match Entries.field fields "mainFlow" with
    | .null => some ⟨inputDirectory, outputDirectory, none⟩
    | v => (switch? v).map fun mainFlow => ⟨inputDirectory, outputDirectory, some mainFlow⟩
  | _ => none

/-- An edited flow: its steps and the other fields in their order. -/
structure FlowBody where
  steps : Entries Json
  others : Entries Json

namespace FlowBody

def ofJson? : Json → Option FlowBody
  | .obj fields =>
    match Entries.field fields "steps" with
    | .obj steps => some ⟨steps, Entries.erase fields "steps"⟩
    | _ => none
  | _ => none

/-- The document of a flow, steps first. -/
def document (b : FlowBody) : Json := .obj (("steps", .obj b.steps) :: b.others)

end FlowBody

end ReplayFlow.Service
