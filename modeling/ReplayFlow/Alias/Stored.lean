import ReplayFlow.Alias.Promotion
import ReplayFlow.Flow.Targets

/-!
Alias tables as they are stored: documents that may hold anything. What is
missing counts as empty, and a name is looked up as in a table; a value of the
wrong shape is found out only when a name leads to it.
-/

namespace ReplayFlow

namespace AliasTable

/-- A stored table of nothing but texts is a table as it is made. -/
def texts? (t : AliasTable Json) : Option (AliasTable String) :=
  let holdTexts (d : OrderedMap Json) : Bool := d.values.all fun v => v.string?.isSome
  if holdTexts t.heads && t.spaces.values.all holdTexts && t.conflicts.values.all holdTexts then
    some (t.map fun v => v.string?.getD "")
  else none

/-- Whether the paths that transactions give to one name can be compared; arrays and objects
cannot. -/
def isComparable (paths : OrderedMap Json) : Bool :=
  paths.size < 2 || !paths.values.any Json.isContainer

/-- Shares the names of a table that was read from a document, up to the first name whose
paths cannot be compared. -/
def consolidateStored (t : AliasTable Json) : AliasTable Json × Except Fault (List Notice) :=
  let named := (uses t.ownSpaces).entries
  if t.ownSpaces.length < 2 then (t, .ok [])
  else
    let (t, notices) :=
      (t.openSpace sharedSpace).promoteAll Json.sameMember (named.takeWhile (isComparable ·.2))
    (t, if named.all (isComparable ·.2) then .ok notices else .error .containerAsKey)

end AliasTable

structure StoredTable where
  heads : Json
  spaces : Json

namespace StoredTable

def ofTable (t : AliasTable Json) : StoredTable := ⟨.obj t.heads.entries, t.nestedSpaces⟩

/-- The table that the fields of a document hold. -/
def ofFields (fields : Entries Json) : StoredTable where
  heads := (Entries.field fields "prefixes").orElse (.obj [])
  spaces := (Entries.field fields "aliases").orElse (.obj [(sharedSpace, .obj [])])

/-- The text of a piece of a written path; the token of a null head vanishes. -/
def expandPiece (heads : Json) : Alias.Piece → Except Fault (List Char)
  | .char c => .ok [c]
  | .token key =>
    match heads with
    | .obj fields =>
      match Entries.get? fields (String.ofList key) with
      | none => .ok (Alias.tokenChars key)
      | some .null => .ok []
      | some (.str head) => .ok head.toList
      | some _ => .error .notText
    | _ => .error .notObject

def expand (t : StoredTable) (path : String) : Except Fault String := do
  let parts ← (Alias.scan path.toList).mapM (expandPiece t.heads)
  .ok (String.ofList parts.flatten)

/-- What a name stands for in one space. An array or a text may hold the name, but gives no
path for it. -/
def find? (t : StoredTable) (space name : String) : Except Fault (Option Json) :=
  match t.spaces with
  | .obj spaces =>
    match (Entries.get? spaces space).getD (.obj []) with
    | .obj names => .ok (Entries.get? names name)
    | .arr items => if items.any (·.string? = some name) then .error .notText else .ok none
    | .str text => if Text.occursIn name.toList text.toList then .error .notText else .ok none
    | _ => .error .notIterable
  | _ => .error .notObject

/-- The control path of a name in the first of some spaces that has it. -/
def resolveIn (t : StoredTable) (name : String) : List String → Except Fault (Option String)
  | [] => .ok none
  | space :: rest => do
    match ← t.find? space name with
    | none => resolveIn t name rest
    | some (.str path) => (t.expand path).map some
    | some _ => .error .notText

/-- How a stored table turns a target into a control path. -/
def resolver (t : StoredTable) (tcode : Option String) : Flow.Resolver := fun target =>
  if Alias.hasToken target then (t.expand target).map some
  else do
    match ← t.resolveIn target (AliasTable.spacesFor tcode) with
    | some path => .ok (some (if path = "" then target else path))
    | none => .ok (some target)

end StoredTable

end ReplayFlow
