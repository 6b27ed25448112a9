import ReplayFlow.Fault
import ReplayFlow.Json.Basic

/-!
Catalogs of captured controls: groups of controls, of which those with an id count.
-/

namespace ReplayFlow

namespace Catalog

/-- Adds the id of a control; a control without one adds nothing. -/
def addId (ids : List Json) (control : Json) : Except Fault (List Json) :=
  match control with
  | .obj fields =>
    let id := Entries.field fields "Id"
    if !id.isGiven then .ok ids
    else if id.isContainer then .error .containerAsKey
    else .ok (if ids.any (Json.sameMember · id) then ids else ids ++ [id])
  | _ => .ok ids

def addIds (ids : List Json) : List Json → Except Fault (List Json)
  | [] => .ok ids
  | control :: rest => do addIds (← addId ids control) rest

/-- The controls of a group; the members of a text or an object are no controls. -/
def members (group : Json) : Except Fault (List Json) :=
  if !group.isGiven then .ok []
  else
    match group with
    | .arr controls => .ok controls
    | .obj _ => .ok []
    | .str _ => .ok []
    | _ => .error .notIterable

def addGroups (ids : List Json) : List (String × Json) → Except Fault (List Json)
  | [] => .ok ids
  | (_, group) :: rest => do addGroups (← addIds ids (← members group)) rest

/-- The ids of the controls of a catalog, each once. -/
def ids (catalog : Json) : Except Fault (List Json) :=
  match catalog with
  | .obj fields =>
    match (Entries.field fields "TargetControls").orElse (.obj []) with
    | .obj groups => addGroups [] groups
    | _ => .error .notObject
  | _ => .error .notObject

end Catalog

end ReplayFlow
