import ReplayFlow.Control.Area
import ReplayFlow.Control.Name
import ReplayFlow.Json.Basic
import ReplayFlow.Recording.Format

/-!
Transactions: the ordered steps of one recording, with the registry of the
controls they touch, the areas of the control paths and the kinds of control.
-/

namespace ReplayFlow

/-- The step that starts every synthesized flow. -/
def startStep : String := "startTransaction"

/-- The step that ends a flow. -/
def endStep : String := "end"

def startMethod : String := "sapSession.StartTransaction"

/-- A registered control: what it was called and of what kind it was at first, and how often
it was registered. -/
structure ControlInfo where
  displayName : String
  kind : Option String
  occurrences : Nat
  deriving DecidableEq

/-- One step between recording and flow. `fields` holds the source record of a step that is
carried through, without its id and action. -/
structure Step where
  id : String
  action : String
  target : Option String := none
  method : Json := .null
  paramKey : Json := .null
  paramValue : Json := .null
  timeout : Json := .null
  operator : Json := .null
  next : Json := .null
  ifTrue : Json := .null
  ifFalse : Json := .null
  context : Option String := none
  name : Option String := none
  kind : Option String := none
  isCheckbox : Bool := false
  value : Json := .null
  aliasName : Option String := none
  fields : Entries Json := []

structure Transaction where
  tcode : String
  format : Format
  steps : List Step := []
  controls : OrderedMap ControlInfo := ∅
  areas : List String := []
  kinds : List String := []
  header : Entries Json := []
  targetContext : Entries Json := []

namespace Step

/-- The step of a source record. -/
def ofRecord (id action : String) (record : Entries Json) : Step where
  id
  action
  target := (Entries.field record "target").string?
  method := Entries.field record "method"
  paramKey := Entries.field record "paramKey"
  paramValue := Entries.field record "paramValue"
  timeout := Entries.field record "timeout"
  operator := Entries.field record "operator"
  next := Entries.field record "next"
  ifTrue := Entries.field record "true"
  ifFalse := Entries.field record "false"
  kind := (Entries.field record "controlType").string?
  value := Entries.field record "value"
  fields := record.filter fun field => field.1 ≠ "id" ∧ field.1 ≠ "action"

/-- The step that calls the transaction and goes on to another. -/
def start (next : String) : Step where
  id := startStep
  action := "callProgram"
  method := .str startMethod
  paramKey := .str "Tcode"
  next := .str next

/-- The control a step works on: a click or an input whose target is a control path. -/
def control? (step : Step) : Option String :=
  match step.target with
  | some path =>
    if (step.action = "click" ∨ step.action = "set") ∧ Text.startsWith ['/'] path.toList then
      some path
    else none
  | none => none

end Step

namespace Transaction

/-- Counts a control; its first registration gives its name and kind. -/
def registerControl (t : Transaction) (path displayName : String) (kind : Option String) :
    Transaction :=
  let info :=
    match t.controls.get? path with
    | some known => { known with occurrences := known.occurrences + 1 }
    | none => ⟨displayName, kind, 1⟩
  { t with controls := t.controls.insert path info }

def addArea (t : Transaction) (area : String) : Transaction :=
  { t with areas := Area.addNew t.areas area }

/-- Adds a kind that is not empty. -/
def addKind (t : Transaction) (kind : Option String) : Transaction :=
  match kind with
  | some k => if k = "" then t else { t with kinds := Area.addNew t.kinds k }
  | none => t

/-- Appends a step; the control it works on is registered under the given name. -/
def addStep (t : Transaction) (step : Step) (displayName : Option String) : Transaction :=
  let registered :=
    match step.control? with
    | some path => t.registerControl path (displayName.getD (Control.nameOf path)) step.kind
    | none => t
  { registered with steps := registered.steps ++ [step] }

/-- Adds the areas and the kind of one registered control. -/
def analyzeControl (t : Transaction) (path : String) (info : ControlInfo) : Transaction :=
  ((Area.ofPath path).foldl addArea t).addKind info.kind

/-- Adds the areas and kinds of all registered controls. -/
def analyze (t : Transaction) : Transaction :=
  t.controls.entries.foldl (fun acc control => acc.analyzeControl control.1 control.2) t

end Transaction

/-- The areas of several transactions, each once, in the order of first use. -/
def collectAreas (transactions : List Transaction) : List String :=
  (transactions.flatMap Transaction.areas).foldl Area.addNew []

end ReplayFlow
