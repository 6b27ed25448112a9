import ReplayFlow.Fault
import ReplayFlow.Flow.Body
import ReplayFlow.Json.Display
import ReplayFlow.Notice
import ReplayFlow.Transaction

/-!
Step maps: the ordered steps of a flow that is not grouped by context, and their
repair. A reference that names no step is sent to the step that follows, a step
without a successor goes on to the one that follows, and an exit step named
`end` closes the map.
-/

namespace ReplayFlow

/-- The steps of a flow by their ids. -/
abbrev StepMap := OrderedMap Body

/-- A step map after repair, with what was repaired. -/
structure Repaired where
  steps : StepMap
  notices : List Notice

namespace Body

/-- A reference that is given and is an array or object. -/
def hasContainerReference (body : Body) : Bool :=
  referenceKeys.any fun key =>
    (Entries.field body key).isGiven && (Entries.field body key).isContainer

/-- Whether a reference names a step or the end. -/
def resolves (ids : List String) : Json → Bool
  | .str s => s = endStep || s ∈ ids
  | _ => false

/-- Sends the references of one field that name no step to the following step. -/
def repairReference (ids : List String) (step following : String) (body : Body) (key : String) :
    Body × List Notice :=
  let reference := Entries.field body key
  if reference.isGiven && !resolves ids reference then
    (Entries.insert body key (.str following),
      [.unknownReference step reference.display key following])
  else (body, [])

def repairReferences (ids : List String) (step following : String) (body : Body) :
    List String → Body × List Notice
  | [] => (body, [])
  | key :: keys =>
    let (body, notices) := repairReference ids step following body key
    let (body, more) := repairReferences ids step following body keys
    (body, notices ++ more)

/-- Gives a step that is no exit a successor. -/
def ensureNext (following : String) (body : Body) : Body :=
  if !isExit body && !(Entries.field body "next").isGiven then
    Entries.insert body "next" (.str following)
  else body

def repair (ids : List String) (step following : String) (body : Body) : Body × List Notice :=
  let (body, notices) := repairReferences ids step following body referenceKeys
  (ensureNext following body, notices)

end Body

namespace StepMap

/-- Reads the steps of a document: each is an object, and no reference is an array or object. -/
def ofFields : List (String × Json) → Except Fault (List (String × Body))
  | [] => .ok []
  | (id, .obj body) :: rest =>
    if Body.hasContainerReference body then .error .containerAsKey
    else (ofFields rest).map ((id, body) :: ·)
  | _ => .error .notObject

/-- What is wrong with an array in place of steps, each item of which is taken for the place of
a step: a place must be an integer inside the array, and lead to an object. -/
def arrayFault (all : List Json) : List Json → Fault
  | [] => .notObject
  | place :: rest =>
    match place.integer? with
    | none => .notIterable
    | some n =>
      match all[(if n < 0 then n + all.length else n).toNat]?, decide (n + all.length < 0) with
      | some (.obj _), false => arrayFault all rest
      | some _, false => .notObject
      | _, _ => .outOfRange

def ofJson? (steps : Json) : Except Fault StepMap :=
  match steps with
  | .obj fields => (ofFields fields).map OrderedMap.ofList
  | .str text => .error (if text = "" then .notObject else .notIterable)
  | .arr items => .error (arrayFault items items)
  | _ => .error .notIterable

/-- Refuses a map in which a reference is an array or object. -/
def check (steps : StepMap) : Except Fault Unit :=
  if steps.values.any Body.hasContainerReference then .error .containerAsKey else .ok ()

def toJson (steps : StepMap) : Json := .obj (Entries.mapValues .obj steps.entries)

/-- Repairs each step in order; the last is followed by the end. -/
def repairSteps (ids : List String) : List (String × Body) → List (String × Body) × List Notice
  | [] => ([], [])
  | (id, body) :: rest =>
    let following := (rest.head?.map Prod.fst).getD endStep
    let (body, notices) := Body.repair ids id following body
    let (rest, more) := repairSteps ids rest
    ((id, body) :: rest, notices ++ more)

theorem keys_repairSteps (ids : List String) (steps : List (String × Body)) :
    Entries.keys (repairSteps ids steps).1 = Entries.keys steps := by
  induction steps with
  | nil => rfl
  | cons entry rest ih => simpa [repairSteps, Entries.keys] using ih

/-- Makes the step named `end` an exit, adding it last when it is missing. -/
def close (steps : StepMap) : Repaired :=
  match steps.get? endStep with
  | none => ⟨steps.insert endStep Body.exit, []⟩
  | some body =>
    if Body.isExit body then ⟨steps, []⟩
    else
      ⟨steps.insert endStep (Entries.erase (Entries.insert body "action" (.str "exit")) "next"),
        [.notExitStep endStep]⟩

/-- Every reference names a step, every step but an exit has a successor, and the map has
an exit named `end`. -/
def repair (steps : StepMap) : Repaired :=
  let repaired := repairSteps steps.keys steps.entries
  let closed := close ⟨repaired.1, by
    rw [keys_repairSteps]; exact steps.nodup⟩
  ⟨closed.steps, repaired.2 ++ closed.notices⟩

end StepMap

end ReplayFlow
