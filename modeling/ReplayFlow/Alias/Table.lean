import ReplayFlow.Alias.Shortening
import ReplayFlow.Json.Basic

/-!
Alias tables: for each transaction and for all together, the written path of
each name; the heads that written paths refer to; and the names that different
transactions give to different paths. A name is looked up in the space of its
transaction first and in the shared space after it.

The paths of a table made from recordings are texts; those of a table that was
read from a document may be any value.
-/

namespace ReplayFlow

/-- The space of names that all transactions share. -/
def sharedSpace : String := "main"

structure AliasTable (Path : Type) where
  heads : OrderedMap Path
  spaces : OrderedMap (OrderedMap Path)
  conflicts : OrderedMap (OrderedMap Path)

namespace AliasTable

variable {Path Other : Type}

def empty : AliasTable Path := ⟨∅, .singleton sharedSpace ∅, ∅⟩

def space (t : AliasTable Path) (name : String) : OrderedMap Path := (t.spaces.get? name).getD ∅

/-- Makes sure that a space is there. -/
def openSpace (t : AliasTable Path) (name : String) : AliasTable Path :=
  { t with spaces := t.spaces.insert name (t.space name) }

def put (t : AliasTable Path) (space name : String) (path : Path) : AliasTable Path :=
  { t with spaces := t.spaces.insert space ((t.space space).insert name path) }

def remove (t : AliasTable Path) (space name : String) : AliasTable Path :=
  { t with spaces := t.spaces.insert space ((t.space space).erase name) }

/-- The written path of a name in one space. -/
def find? (t : AliasTable Path) (space name : String) : Option Path := (t.space space).get? name

/-- The spaces a transaction looks into; an empty code names none. -/
def spacesFor : Option String → List String
  | none => [sharedSpace]
  | some tcode => if tcode = "" then [sharedSpace] else [tcode, sharedSpace]

/-- The control path of a name. -/
def resolve (t : AliasTable String) (name : String) (tcode : Option String) : Option String :=
  ((spacesFor tcode).findSome? fun space => t.find? space name).map (Alias.expand t.heads)

/-- The table with each of its paths replaced. -/
def map (f : Path → Other) (t : AliasTable Path) : AliasTable Other :=
  ⟨t.heads.mapValues f, t.spaces.mapValues (OrderedMap.mapValues f),
    t.conflicts.mapValues (OrderedMap.mapValues f)⟩

/-- The table as documents hold it. -/
def stored (t : AliasTable String) : AliasTable Json := t.map .str

def nestedObject (d : OrderedMap (OrderedMap Json)) : Json :=
  .obj (Entries.mapValues (fun inner => .obj inner.entries) d.entries)

def nestedSpaces (t : AliasTable Json) : Json := nestedObject t.spaces

/-- The heads and the spaces as fields of a document. -/
def fields (t : AliasTable Json) : Entries Json :=
  [("prefixes", .obj t.heads.entries), ("aliases", t.nestedSpaces)]

/-- The names given to different paths, as a field of a document. -/
def conflictField (t : AliasTable Json) : String × Json := ("conflicts", nestedObject t.conflicts)

/-- The document of a table with its conflicts. -/
def toJson (t : AliasTable Json) : Json := .obj (t.fields ++ [t.conflictField])

end AliasTable

end ReplayFlow
