import ReplayFlow.Data.Binary64
import ReplayFlow.Data.OrderedMap

/-!
Documents. An object is a sequence of fields in the order of the text. The type
leaves open whether their keys are distinct (`Json.Distinct`).
-/

namespace ReplayFlow

/-- A document value. Integers have no bound and are told apart from floats. -/
inductive Json where
  | null
  | bool (b : Bool)
  | int (n : Int)
  | float (x : Binary64)
  | str (s : String)
  | arr (items : List Json)
  | obj (fields : List (String × Json))

namespace Json

instance : Inhabited Json := ⟨.null⟩

/-- Whether a value counts as given: null, false, zero and all that is empty do not. -/
def isGiven : Json → Bool
  | null => false
  | bool b => b
  | int n => n ≠ 0
  | float x => !x.isZero
  | str s => s ≠ ""
  | arr items => !items.isEmpty
  | obj fields => !fields.isEmpty

def isNull : Json → Bool
  | null => true
  | _ => false

def isObject : Json → Bool
  | obj _ => true
  | _ => false

/-- Arrays and objects have no key of their own: they cannot be members of a set. -/
def isContainer : Json → Bool
  | arr _ => true
  | obj _ => true
  | _ => false

def string? : Json → Option String
  | str s => some s
  | _ => none

def object? : Json → Option (Entries Json)
  | obj fields => some fields
  | _ => none

/-- The value if it is given, else another. -/
def orElse (v other : Json) : Json := if v.isGiven then v else other

/-- The name of the kind of a value, as messages give it. -/
def kindName : Json → String
  | null => "NoneType"
  | bool _ => "bool"
  | int _ => "int"
  | float _ => "float"
  | str _ => "str"
  | arr _ => "list"
  | obj _ => "dict"

def ofOption : Option String → Json
  | some s => str s
  | none => null

/-- A number value; booleans count as one and zero. -/
def integer? : Json → Option Int
  | bool b => some (if b then 1 else 0)
  | int n => some n
  | _ => none

/-- Equality of two values that are neither arrays nor objects: numbers compare by value,
whatever their kind. -/
def sameScalar (v w : Json) : Bool :=
  match v, w with
  | null, null => true
  | str s, str t => s = t
  | float x, float y => x.sameNumber y
  | float x, w => (w.integer?.map x.equalsInt).getD false
  | v, float y => (v.integer?.map y.equalsInt).getD false
  | v, w =>
    match v.integer?, w.integer? with
    | some m, some n => m = n
    | _, _ => false

/-- Whether two values are both not-a-number, which no number equals. -/
def bothUndefined : Json → Json → Bool
  | float x, float y => x.view = .nan && y.view = .nan
  | _, _ => false

mutual

/-- Equality of values: arrays item by item, objects key by key in any order. -/
def same : Json → Json → Bool
  | arr xs, w =>
    match w with
    | arr ys => sameItems xs ys
    | _ => false
  | obj fs, w =>
    match w with
    | obj gs => fs.length = gs.length && sameFields fs gs
    | _ => false
  | v, w => sameScalar v w

def sameItems : List Json → List Json → Bool
  | [], ys => ys.isEmpty
  | x :: xs, ys =>
    match ys with
    | [] => false
    | y :: ys => (bothUndefined x y || same x y) && sameItems xs ys

def sameFields : List (String × Json) → List (String × Json) → Bool
  | [], _ => true
  | (k, v) :: rest, gs =>
    match Entries.get? gs k with
    | some w => (bothUndefined v w || same v w) && sameFields rest gs
    | none => false

end

/-- Equality of members of a collection, where not-a-number is a member like others. -/
def sameMember (v w : Json) : Bool := bothUndefined v w || same v w

mutual

/-- No object in the value has two fields of one key. -/
def Distinct : Json → Prop
  | arr items => DistinctItems items
  | obj fields => (Entries.keys fields).Nodup ∧ DistinctFields fields
  | _ => True

def DistinctItems : List Json → Prop
  | [] => True
  | v :: rest => Distinct v ∧ DistinctItems rest

def DistinctFields : List (String × Json) → Prop
  | [] => True
  | (_, v) :: rest => Distinct v ∧ DistinctFields rest

end

end Json

/-- The field of an object; a missing one is null. -/
def Entries.field (fields : Entries Json) (key : String) : Json :=
  (Entries.get? fields key).getD .null

end ReplayFlow
