import ReplayFlow.Alias.Table
import ReplayFlow.Notice
import ReplayFlow.Text.Basic

/-!
Sharing of names. A name that at least two transactions give to one path moves
to the shared space; a name that they give to different paths stays where it is
and is reported.
-/

namespace ReplayFlow.AliasTable

variable {Path : Type}

/-- The spaces of single transactions. -/
def ownSpaces (t : AliasTable Path) : Entries (OrderedMap Path) :=
  t.spaces.entries.filter fun space => space.1 ≠ sharedSpace

/-- Notes that a transaction gives a name to a path. -/
def noteUse (uses : OrderedMap (OrderedMap Path)) (tcode : String) (entry : String × Path) :
    OrderedMap (OrderedMap Path) :=
  uses.insert entry.1 (((uses.get? entry.1).getD ∅).insert tcode entry.2)

/-- For each name the transactions that define it, with their paths. -/
def uses (spaces : Entries (OrderedMap Path)) : OrderedMap (OrderedMap Path) :=
  spaces.foldl (fun acc space => space.2.entries.foldl (fun acc e => noteUse acc space.1 e) acc) ∅

/-- Whether all the paths are one. -/
def agree (same : Path → Path → Bool) : List Path → Bool
  | [] => true
  | path :: rest => rest.all (same path)

/-- Treats one name with its uses. -/
def promote (same : Path → Path → Bool) (t : AliasTable Path) (name : String)
    (paths : OrderedMap Path) : AliasTable Path × List Notice :=
  match paths.values with
  | path :: _ :: _ =>
    if agree same paths.values then
      (paths.keys.foldl (fun acc tcode => acc.remove tcode name) (t.put sharedSpace name path), [])
    else
      ({ t with conflicts := t.conflicts.insert name paths },
        [.aliasConflict name (Text.sorted paths.keys)])
  | _ => (t, [])

def promoteAll (same : Path → Path → Bool) (t : AliasTable Path) :
    Entries (OrderedMap Path) → AliasTable Path × List Notice
  | [] => (t, [])
  | (name, paths) :: rest =>
    let (t, notices) := t.promote same name paths
    let (t, more) := promoteAll same t rest
    (t, notices ++ more)

/-- Shares the names of a table; with fewer than two transactions there is nothing to share. -/
def consolidateBy (same : Path → Path → Bool) (t : AliasTable Path) :
    AliasTable Path × List Notice :=
  if t.ownSpaces.length < 2 then (t, [])
  else (t.openSpace sharedSpace).promoteAll same (uses t.ownSpaces).entries

def consolidate (t : AliasTable String) : AliasTable String × List Notice :=
  t.consolidateBy (· = ·)

end ReplayFlow.AliasTable
