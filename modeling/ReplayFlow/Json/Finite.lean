import ReplayFlow.Json.Basic

/-!
Documents between programs: their numbers are finite. One that is not stops a
document on its way in, and becomes null on its way out.
-/

namespace ReplayFlow.Json

mutual

/-- Whether every number in a value is finite. -/
def isFinite : Json → Bool
  | .float x => x.isFinite
  | .arr items => areFinite items
  | .obj fields => haveFinite fields
  | _ => true

def areFinite : List Json → Bool
  | [] => true
  | v :: rest => isFinite v && areFinite rest

def haveFinite : List (String × Json) → Bool
  | [] => true
  | (_, v) :: rest => isFinite v && haveFinite rest

end

mutual

/-- A value in which null stands for each number that is not finite. -/
def finite : Json → Json
  | .float x => if x.isFinite then .float x else .null
  | .arr items => .arr (finiteItems items)
  | .obj fields => .obj (finiteFields fields)
  | v => v

def finiteItems : List Json → List Json
  | [] => []
  | v :: rest => finite v :: finiteItems rest

def finiteFields : List (String × Json) → List (String × Json)
  | [] => []
  | (k, v) :: rest => (k, finite v) :: finiteFields rest

end

end ReplayFlow.Json
