import ReplayFlow.Json.Basic

/-!
The fields of a step of a flow.
-/

namespace ReplayFlow

/-- The fields of one step of a flow. -/
abbrev Body := Entries Json

/-- The fields of a step that name other steps. -/
def referenceKeys : List String := ["next", "true", "false"]

namespace Body

def hasAction (body : Body) (action : String) : Bool :=
  (Entries.field body "action").string? = some action

def isExit (body : Body) : Bool := hasAction body "exit"

def exit : Body := [("action", .str "exit")]

end Body

end ReplayFlow
