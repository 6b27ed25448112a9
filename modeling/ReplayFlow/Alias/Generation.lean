import ReplayFlow.Alias.Name
import ReplayFlow.Alias.Promotion
import ReplayFlow.Transaction

/-!
The alias table of a batch: one head for the usable area and one for the popup,
a name of its own for each registered control, and the sharing of names.
-/

namespace ReplayFlow.Alias

def defaultUsable : String := "/app/con[0]/ses[0]/wnd[0]/usr/"

def defaultPopup : String := "/app/con[0]/ses[0]/wnd[1]/usr/"

/-- The first main area and the first popup area that the transactions use. -/
def chooseHeads (transactions : List Transaction) : OrderedMap String :=
  let areas := collectAreas transactions
  let usable := (areas.find? Area.isMain).getD defaultUsable
  let popup := (areas.find? Area.isPopup).getD defaultPopup
  .ofList [("usr", usable), ("popup", popup)]

/-- The candidates for a name: the name itself, then with the numbers from two on. -/
def candidates (name : String) (count : Nat) : List String :=
  name :: (List.range count).map fun i => name ++ toString (i + 2)

def isFree (space : OrderedMap String) (path candidate : String) : Bool :=
  match space.get? candidate with
  | some taken => taken = path
  | none => true

/-- The first candidate that is not taken by another path. A space of `n` names cannot take
`n + 1` candidates. -/
def uniqueName (space : OrderedMap String) (name path : String) : String :=
  ((candidates name space.size).find? (isFree space path)).getD name

/-- Names given within a transaction: the space of written paths, and the name of each path. -/
structure Naming where
  space : OrderedMap String := ∅
  names : OrderedMap String := ∅

namespace Naming

def add (heads : OrderedMap String) (naming : Naming) (control : String × ControlInfo) : Naming :=
  let written := shorten heads control.1
  let name := uniqueName naming.space (nameOf control.1 control.2.kind) written
  ⟨naming.space.insert name written, naming.names.insert control.1 name⟩

def ofTransaction (heads : OrderedMap String) (t : Transaction) : Naming :=
  t.controls.entries.foldl (add heads) {}

/-- A step with the name of its target, when the target has one. -/
def nameStep (naming : Naming) (step : Step) : Step :=
  match step.target.bind fun path => if path = "" then none else naming.names.get? path with
  | some name => { step with aliasName := some name }
  | none => step

def nameSteps (naming : Naming) (t : Transaction) : Transaction :=
  { t with steps := t.steps.map naming.nameStep }

end Naming

/-- What naming a batch gives: the table, and the transactions with names on their steps. -/
structure Named where
  table : AliasTable String
  transactions : OrderedMap Transaction
  notices : List Notice

/-- Names the controls of a batch, keyed by transaction code. -/
def generate (transactions : OrderedMap Transaction) : Named :=
  let heads := chooseHeads transactions.values
  let spaces := transactions.entries.foldl
    (fun acc t => acc.insert t.1 (Naming.ofTransaction heads t.2).space) AliasTable.empty.spaces
  let (table, notices) := AliasTable.consolidate ⟨heads, spaces, ∅⟩
  ⟨table, transactions.mapValues fun t => (Naming.ofTransaction heads t).nameSteps t, notices⟩

end ReplayFlow.Alias
