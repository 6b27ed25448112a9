import ReplayFlow.Fault
import ReplayFlow.Flow.Body
import ReplayFlow.Json.Display
import ReplayFlow.Transaction

/-!
The steps of a flow document, flat or grouped by context, and the checks on its
graph: every reference names a step, every step but an exit has a successor, and
there is one exit.
-/

namespace ReplayFlow

/-- A step of a flow document with the context it stands in. -/
structure FlowStep where
  id : String
  context : Option String
  body : Body

def FlowStep.isExit (step : FlowStep) : Bool := Body.isExit step.body

/-- What is wrong with a step or a flow. -/
inductive Defect where
  | danglingReference (key reference : String)
  | missingBranch
  | noSuccessor (action : String)
  | noExit
  | manyExits (steps : List String)
  | targetNotFound (target : String)
  deriving DecidableEq

namespace Defect

def name : Defect → String
  | danglingReference .. => "dangling_reference"
  | missingBranch => "missing_next"
  | noSuccessor _ => "missing_next"
  | noExit => "missing_terminal"
  | manyExits _ => "multiple_terminals"
  | targetNotFound _ => "target_not_found"

def message : Defect → String
  | danglingReference key reference =>
    "'" ++ key ++ "' points at unknown step '" ++ reference ++ "'"
  | missingBranch => "condition step needs both 'true' and 'false'"
  | noSuccessor action => "'" ++ action ++ "' step has no successor"
  | noExit => "flow has no exit step"
  | manyExits steps =>
    "flow has " ++ toString steps.length ++ " exit steps: " ++ ", ".intercalate steps
  | targetNotFound target => "Target '" ++ target ++ "' not found in the available controls"

/-- A flow without an exit may run on; everything else is an error. -/
def isError : Defect → Bool
  | noExit => false
  | _ => true

end Defect

/-- A defect at a step. -/
structure Violation where
  step : String
  defect : Defect
  deriving DecidableEq

namespace Violation

def severity (v : Violation) : String := if v.defect.isError then "error" else "warning"

def toJson (v : Violation) : Json :=
  .obj [("stepId", .str v.step), ("issue", .str v.defect.name),
    ("message", .str v.defect.message), ("severity", .str v.severity)]

end Violation

namespace Flow

/-- The fields of a step: an object with an action. -/
def stepBody? : Json → Option Body
  | .obj body => if Entries.contains body "action" then some body else none
  | _ => none

/-- The steps of a context. -/
def contextSteps (context : String) (members : List (String × Json)) : List FlowStep :=
  members.filterMap fun member =>
    (stepBody? member.2).map fun body => ⟨context ++ "." ++ member.1, some context, body⟩

/-- The steps at an entry of the step map: the entry itself, or the members of a context. -/
def stepsAt (entry : String × Json) : List FlowStep :=
  match stepBody? entry.2, entry.2 with
  | some body, _ => [⟨entry.1, none, body⟩]
  | none, .obj members => contextSteps entry.1 members
  | none, _ => []

/-- The steps of a flow document in order. -/
def steps (flow : Json) : Except Fault (List FlowStep) :=
  match flow with
  | .obj fields =>
    match (Entries.field fields "steps").orElse (.obj []) with
    | .obj entries => .ok (entries.flatMap stepsAt)
    | _ => .error .notObject
  | _ => .error .notObject

/-- Whether a reference names the end, a step, or a step of the same context. -/
def linkResolves (ids : List String) (context : Option String) (reference : Json) : Bool :=
  match reference with
  | .str r =>
    r = endStep || r ∈ ids ||
      match context with
      | some c => c ++ "." ++ r ∈ ids
      | none => false
  | _ => false

/-- The references of a step that are not null and name nothing. -/
def danglingLinks (ids : List String) (step : FlowStep) : List Defect :=
  referenceKeys.filterMap fun key =>
    let reference := Entries.field step.body key
    if reference.isNull || linkResolves ids step.context reference then none
    else some (.danglingReference key reference.display)

/-- The successors a step lacks: both branches of a condition, `next` of any other step. -/
def missingLinks (step : FlowStep) : List Defect :=
  let lacks (key : String) : Bool := !(Entries.field step.body key).isGiven
  if Body.hasAction step.body "condition" then
    if lacks "true" || lacks "false" then [.missingBranch] else []
  else if lacks "next" then [.noSuccessor (Entries.field step.body "action").display]
  else []

def stepViolations (ids : List String) (step : FlowStep) : List Violation :=
  if step.isExit then []
  else (danglingLinks ids step ++ missingLinks step).map fun defect => ⟨step.id, defect⟩

def exitViolations (exits : List String) : List Violation :=
  match exits.getLast? with
  | none => [⟨endStep, .noExit⟩]
  | some last => if 1 < exits.length then [⟨last, .manyExits exits⟩] else []

def violationsOf (steps : List FlowStep) : List Violation :=
  steps.flatMap (stepViolations (steps.map FlowStep.id)) ++
    exitViolations ((steps.filter FlowStep.isExit).map FlowStep.id)

/-- The defects of a flow document. -/
def validate (flow : Json) : Except Fault (List Violation) := (steps flow).map violationsOf

end Flow

end ReplayFlow
