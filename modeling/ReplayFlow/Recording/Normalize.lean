import ReplayFlow.Fault
import ReplayFlow.ParameterKey
import ReplayFlow.Recording.Event
import ReplayFlow.Transaction

/-!
From a recording to its transaction, one reading for each shape. A legacy
recording becomes a chain of steps between a start and an end; a steps-only
recording keeps its steps; a contextual recording is flattened to steps named
`context.step` behind a start.
-/

namespace ReplayFlow

namespace Action

/-- The flow action of a recorded action in small letters. -/
def recorded? : String → Option String
  | "input" => some "set"
  | "set" => some "set"
  | "select" => some "set"
  | "check" => some "set"
  | "uncheck" => some "set"
  | "click" => some "click"
  | "dblclick" => some "click"
  | _ => none

def flowActions : List String :=
  ["set", "click", "waitFor", "condition", "callProgram", "callSubflow", "exit"]

/-- The action of a carried step: a flow action stays, a recorded one in any case is
turned into its flow action, and any other text stays. -/
def normalize (action : Json) : String :=
  let text := String.ofList (Text.strip ((action.orElse (.str "")).display.toList))
  if text ∈ flowActions then text else (recorded? (lowercase text)).getD text

end Action

namespace Recording

def checkboxKind : String := "GuiCheckBox"

def eventTextFields : List String := ["ControlId", "ControlName", "ControlType"]

/-- The first of the text fields of an event that is neither missing nor a string. -/
def wrongField? (fields : Entries Json) : Option (String × String) :=
  eventTextFields.findSome? fun key =>
    match Entries.field fields key with
    | .null => none
    | .str _ => none
    | v => some (key, v.kindName)

/-- Refuses the first event with a wrong field; positions count from one. -/
def checkEvents (tcode : String) : Nat → List Json → Except Fault Unit
  | _, [] => .ok ()
  | position, .obj fields :: rest =>
    match wrongField? fields with
    | some (key, kind) => .error (.malformed (.eventField tcode position key kind))
    | none => checkEvents tcode (position + 1) rest
  | position, _ :: rest => checkEvents tcode (position + 1) rest

/-- The kinds that events name, as they come. -/
def eventKind? : Json → Option String
  | .obj fields => (Entries.field fields "ControlType").string?
  | _ => none

/-- What a checkbox holds: a truth value, or the text `true` in any case. -/
def checkboxState (value : Json) : Bool :=
  match value with
  | .bool b => b
  | v => Text.lower (Text.strip v.display.toList) = "true".toList

/-- The value an event leaves in its control; checking and unchecking without a value
leave true and false. -/
def eventValue (e : Event) : Json :=
  if e.value.isNull && (e.action = "check" || e.action = "uncheck") then
    .bool (e.action = "check")
  else e.value

def eventDisplayName (e : Event) : String :=
  match e.controlName.orElse .null with
  | .str name => name
  | _ => Control.nameOf (e.controlId.string?.getD "")

/-- The step of a group of events. Only an input with a value has a parameter. -/
def legacyStep (e : Event) (index : Nat) (next : String) : Step :=
  let action := (Action.recorded? e.action).getD "click"
  let step : Step :=
    { id := "step" ++ toString index
      action
      target := e.controlId.string?
      next := .str next
      kind := e.controlType.string? }
  let value := eventValue e
  if action ≠ "set" || value.isNull || value.string? = some "" then step
  else
    let key := Json.str (ParameterKey.ofName (eventDisplayName e))
    if e.controlType.string? = some checkboxKind then
      { step with paramKey := key, paramValue := .bool (checkboxState value), isCheckbox := true }
    else { step with paramKey := key, paramValue := value }

/-- Appends the steps of groups, numbered on from an index; the last goes on to the end. -/
def addLegacySteps (t : Transaction) (index : Nat) : List Event → Transaction
  | [] => t
  | e :: rest =>
    let next := if rest.isEmpty then endStep else "step" ++ toString (index + 1)
    addLegacySteps (t.addStep (legacyStep e index next) (some (eventDisplayName e))) (index + 1)
      rest

def legacyTransaction (tcode : String) (events : List Json) : Transaction :=
  let groups := Event.groupsOf events
  let kinds := (events.map eventKind?).foldl Transaction.addKind { tcode, format := .legacy }
  let first := if groups.isEmpty then endStep else "step1"
  let started := kinds.addStep (Step.start first) none
  (addLegacySteps started 1 groups).addStep { id := endStep, action := "exit" } none

def normalizeLegacy (document : Json) (tcode : String) : Except Fault Transaction :=
  match document with
  | .obj fields =>
    let tcode := lowercase ((Entries.field fields "Tcode").orElse (.str tcode)).display
    match (Entries.field fields "Steps").orElse (.arr []) with
    | .arr events => do
      checkEvents tcode 1 events
      .ok (legacyTransaction tcode events)
    | _ => .error (.malformed (.eventsNotArray tcode))
  | v => .error (.malformed (.recordingNotObject tcode v.kindName))

/-- Appends the steps of source records in order, each made from its name and record. -/
def addRecords (make : String → Entries Json → Step) (t : Transaction) :
    List (String × Json) → Except Fault Transaction
  | [] => .ok t
  | (name, .obj record) :: rest => addRecords make (t.addStep (make name record) none) rest
  | (name, _) :: _ => .error (.malformed (.stepNotObject t.tcode (make name []).id))

def carriedStep (name : String) (record : Entries Json) : Step :=
  Step.ofRecord name (Action.normalize (Entries.field record "action")) record

def contextStep (context name : String) (record : Entries Json) : Step :=
  { Step.ofRecord (context ++ "." ++ name) (Action.normalize (Entries.field record "action")) record
    with context := some context, name := some name }

def normalizeStepsOnly (document : Json) (tcode : String) : Except Fault Transaction :=
  match document with
  | .obj fields =>
    match Entries.field fields "steps" with
    | .obj steps =>
      addRecords carriedStep { tcode := lowercase tcode, format := .stepsOnly } steps
    | _ => .error (.malformed (.stepsNotObject (lowercase tcode)))
  | _ => .error .notObject

/-- The contexts of a document, when each is an object of steps. -/
def contextsOf? : List (String × Json) → Option (List (String × Entries Json))
  | [] => some []
  | (context, .obj steps) :: rest => (contextsOf? rest).map ((context, steps) :: ·)
  | _ => none

/-- The first step of the first context that has one. -/
def firstStep (contexts : List (String × Entries Json)) : String :=
  match contexts with
  | [] => endStep
  | (context, (name, _) :: _) :: _ => context ++ "." ++ name
  | (_, []) :: rest => firstStep rest

def addContexts (t : Transaction) : List (String × Entries Json) → Except Fault Transaction
  | [] => .ok t
  | (context, steps) :: rest => do
    let t ← addRecords (contextStep context) t steps
    addContexts t rest

def normalizeContextual (document : Json) (tcode : String) : Except Fault Transaction :=
  match document with
  | .obj fields =>
    match (Entries.field fields "$meta").orElse (.obj []),
        (Entries.field fields "targetContext").orElse (.obj []) with
    | .obj header, .obj targetContext =>
      let tcode := lowercase ((Entries.field header "tcode").orElse (.str tcode)).display
      match (Entries.field fields "steps").orElse (.obj []) with
      | .obj steps =>
        match contextsOf? steps with
        | some contexts =>
          if Entries.contains contexts startStep then
            .error (.malformed (.reservedContext tcode startStep))
          else
            let t : Transaction := { tcode, format := .contextual, header, targetContext }
            addContexts (t.addStep (Step.start (firstStep contexts)) none) contexts
        | none => .error (.malformed (.contextsNotObjects tcode))
      | _ => .error (.malformed (.contextsNotObjects tcode))
    | _, _ => .error (.malformed (.headersNotObjects tcode))
  | _ => .error .notObject

/-- The transaction of a recording, read by its shape. -/
def normalize (recording : Recording) : Except Fault Transaction :=
  match recording.format with
  | .contextual => normalizeContextual recording.document recording.tcode
  | .stepsOnly => normalizeStepsOnly recording.document recording.tcode
  | .legacy => normalizeLegacy recording.document recording.tcode

end Recording

end ReplayFlow
