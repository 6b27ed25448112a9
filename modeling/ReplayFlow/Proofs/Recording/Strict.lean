import ReplayFlow.Proofs.Recording.Grouping
import ReplayFlow.Proofs.Recording.Records
import ReplayFlow.Proofs.Strict

/-!
Recordings strictly read. What tells the control of an event has to be a text or null,
and whatever is shown has to be writable: codes, actions and the states of checkboxes.
The check of the events lets through such events alone (`checkEvents_eq_ok_iff`), so
the strict reading of a document that can be written out comes to what the reading of
the program comes to (`normalize_eq`). It is stricter than need be: the program gets by
without some of what stops it.
-/

namespace ReplayFlow

/-! ## Events that have passed the check -/

namespace Recording

/-- What tells the control of an event is a text or null. -/
def HasTexts (record : Json) : Prop :=
  ∀ fields, record = .obj fields → ∀ key ∈ eventTextFields,
    Entries.field fields key = .null ∨ ∃ s, Entries.field fields key = .str s

theorem wrongField?_eq_none_iff {fields : Entries Json} :
    wrongField? fields = none ↔ HasTexts (.obj fields) := by
  simp only [wrongField?, List.findSome?_eq_none_iff, HasTexts, Json.obj.injEq, forall_eq']
  refine forall₂_congr fun key _ => ?_
  cases Entries.field fields key <;> simp

/-- **The events that the check lets through** have texts or null where a control is told. -/
theorem checkEvents_eq_ok_iff {tcode : String} {position : Nat} {events : List Json} :
    checkEvents tcode position events = .ok () ↔ ∀ record ∈ events, HasTexts record := by
  fun_induction checkEvents tcode position events with
  | case1 => simp
  | case2 position fields rest key kind hwrong =>
    refine iff_of_false (by simp) fun h => ?_
    rw [wrongField?_eq_none_iff.2 (h _ (List.mem_cons_self ..))] at hwrong
    cases hwrong
  | case3 position fields rest hright ih =>
    rw [ih, List.forall_mem_cons, ← wrongField?_eq_none_iff]
    simp [hright]
  | case4 position record rest hother ih =>
    rw [ih, List.forall_mem_cons]
    exact (and_iff_right fun fields h => absurd h (hother fields)).symm

end Recording

/-! ## The strict reading -/

namespace Strict

section

variable (limit : Nat)

/-- The event of a record. -/
def readEvent (record : Json) : Except Stop (Option Event) :=
  match record with
  | .obj fields => do
    let action := Entries.field fields "Action"
    let control := Entries.field fields "ControlId"
    if action.isGiven && control.isGiven then
      let action ← display limit action
      let controlId ← text? control
      let controlName ← text? (Entries.field fields "ControlName")
      let controlType ← text? (Entries.field fields "ControlType")
      return some ⟨lowercase action, .ofOption controlId, .ofOption controlName,
        .ofOption controlType, Entries.field fields "Value"⟩
    else return none
  | _ => .ok none

/-- The kind that an event names. -/
def eventKind : Json → Except Stop (Option String)
  | .obj fields => text? (Entries.field fields "ControlType")
  | _ => .ok none

/-- The step of a group of events; the state of a checkbox is told from the text of its value. -/
def legacyStep (e : Event) (index : Nat) (next : String) : Except Stop Step :=
  if e.controlType.string? = some Recording.checkboxKind then
    (display limit (Recording.eventValue e)).map fun _ => Recording.legacyStep e index next
  else .ok (Recording.legacyStep e index next)

def addLegacySteps (t : Transaction) (index : Nat) : List Event → Except Stop Transaction
  | [] => .ok t
  | e :: rest => do
    let next := if rest.isEmpty then endStep else "step" ++ toString (index + 1)
    let step ← legacyStep limit e index next
    addLegacySteps (t.addStep step (some (Recording.eventDisplayName e))) (index + 1) rest

def legacyTransaction (tcode : String) (events : List Json) : Except Stop Transaction := do
  let kinds ← events.mapM eventKind
  let read ← events.mapM (readEvent limit)
  let groups := Event.group (read.filterMap id)
  let first := if groups.isEmpty then endStep else "step1"
  let started := (kinds.foldl Transaction.addKind { tcode, format := .legacy }).addStep
    (Step.start first) none
  let t ← addLegacySteps limit started 1 groups
  return t.addStep { id := endStep, action := "exit" } none

def normalizeLegacy (document : Json) (tcode : String) : Except Stop Transaction :=
  match document with
  | .obj fields => do
    let code ← display limit ((Entries.field fields "Tcode").orElse (.str tcode))
    match (Entries.field fields "Steps").orElse (.arr []) with
    | .arr events => do
      (Recording.checkEvents (lowercase code) 1 events).mapError Stop.fault
      legacyTransaction limit (lowercase code) events
    | _ => .error (.fault (.malformed (.eventsNotArray (lowercase code))))
  | v => .error (.fault (.malformed (.recordingNotObject tcode v.kindName)))

/-- The action of a record. -/
def actionOf (record : Entries Json) : Except Stop String :=
  (display limit ((Entries.field record "action").orElse (.str ""))).map fun action =>
    Action.normalize (.str action)

/-- Appends the steps of source records, each made from its name, its action and its record. -/
def addRecords (make : String → String → Entries Json → Step) (t : Transaction) :
    List (String × Json) → Except Stop Transaction
  | [] => .ok t
  | (name, .obj record) :: rest => do
    let action ← actionOf limit record
    addRecords make (t.addStep (make name action record) none) rest
  | (name, _) :: _ => .error (.fault (.malformed (.stepNotObject t.tcode (make name "" []).id)))

def contextStep (context name action : String) (record : Entries Json) : Step :=
  { Step.ofRecord (context ++ "." ++ name) action record
    with context := some context, name := some name }

def addContexts (t : Transaction) : List (String × Entries Json) → Except Stop Transaction
  | [] => .ok t
  | (context, steps) :: rest => do
    let t ← addRecords limit (contextStep context) t steps
    addContexts t rest

def normalizeStepsOnly (document : Json) (tcode : String) : Except Stop Transaction :=
  match document with
  | .obj fields =>
    match Entries.field fields "steps" with
    | .obj steps =>
      addRecords limit Step.ofRecord { tcode := lowercase tcode, format := .stepsOnly } steps
    | _ => .error (.fault (.malformed (.stepsNotObject (lowercase tcode))))
  | _ => .error (.fault .notObject)

def normalizeContextual (document : Json) (tcode : String) : Except Stop Transaction :=
  match document with
  | .obj fields =>
    match (Entries.field fields "$meta").orElse (.obj []),
        (Entries.field fields "targetContext").orElse (.obj []) with
    | .obj header, .obj targetContext => do
      let code ← display limit ((Entries.field header "tcode").orElse (.str tcode))
      let tcode := lowercase code
      match (Entries.field fields "steps").orElse (.obj []) with
      | .obj steps =>
        match Recording.contextsOf? steps with
        | some contexts =>
          if Entries.contains contexts startStep then
            .error (.fault (.malformed (.reservedContext tcode startStep)))
          else
            let t : Transaction := { tcode, format := .contextual, header, targetContext }
            addContexts limit (t.addStep (Step.start (Recording.firstStep contexts)) none) contexts
        | none => .error (.fault (.malformed (.contextsNotObjects tcode)))
      | _ => .error (.fault (.malformed (.contextsNotObjects tcode)))
    | _, _ => .error (.fault (.malformed (.headersNotObjects tcode)))
  | _ => .error (.fault .notObject)

/-- The transaction of a recording, read by its shape. -/
def normalize (recording : Recording) : Except Stop Transaction :=
  match recording.format with
  | .contextual => normalizeContextual limit recording.document recording.tcode
  | .stepsOnly => normalizeStepsOnly limit recording.document recording.tcode
  | .legacy => normalizeLegacy limit recording.document recording.tcode

end

/-! ## Where it ends -/

variable {limit : Nat} {fields : Entries Json} {events : List Json} {record : Json}

theorem readEvent_eq (htexts : Recording.HasTexts record) (h : record.Showable limit) :
    readEvent limit record = .ok (Event.read? record) := by
  cases record with
  | obj fields =>
    have hid := htexts fields rfl "ControlId" (by decide)
    have hname := htexts fields rfl "ControlName" (by decide)
    have hkind := htexts fields rfl "ControlType" (by decide)
    unfold readEvent Event.read?
    dsimp only
    split
    · rw [display_eq (h.field "Action"), text?_eq hid, text?_eq hname, text?_eq hkind]
      simp only [bind, Except.bind, pure, Except.pure, ofOption_string? hid,
        ofOption_string? hname, ofOption_string? hkind]
    · rfl
  | _ => rfl

/-- A control that is told by a number stops the strict reading. -/
example : readEvent 1 (.obj [("Action", .str "click"), ("ControlId", .int 7)]) =
    .error (.fault .notText) := rfl

theorem eventKind_eq (htexts : Recording.HasTexts record) :
    eventKind record = .ok (Recording.eventKind? record) := by
  cases record with
  | obj fields => exact text?_eq (htexts fields rfl "ControlType" (by decide))
  | _ => rfl

/-- The events of a document hold values that can be written out, and so do their groups. -/
theorem showable_group (h : ∀ record ∈ events, record.Showable limit) :
    ∀ e ∈ Event.groupsOf events, e.value.Showable limit := by
  refine Event.forall_group (fun _ _ _ he => he) fun e he => ?_
  obtain ⟨record, hrecord, hread⟩ := List.mem_filterMap.1 he
  cases record with
  | obj fields =>
    rw [Event.read?_obj] at hread
    split at hread <;> cases hread
    exact (h _ hrecord).field "Value"
  | _ => cases hread

theorem legacyStep_eq {e : Event} (h : e.value.Showable limit) (index : Nat) (next : String) :
    legacyStep limit e index next = .ok (Recording.legacyStep e index next) := by
  have hvalue : (Recording.eventValue e).Showable limit := by
    unfold Recording.eventValue
    split
    · exact ⟨Nat.zero_le _, Nat.zero_le _⟩
    · exact h
  unfold legacyStep
  split
  · rw [display_eq hvalue]
    rfl
  · rfl

theorem addLegacySteps_eq {groups : List Event} (h : ∀ e ∈ groups, e.value.Showable limit)
    (t : Transaction) (index : Nat) :
    addLegacySteps limit t index groups = .ok (Recording.addLegacySteps t index groups) := by
  induction groups generalizing t index with
  | nil => rfl
  | cons e rest ih =>
    obtain ⟨he, hrest⟩ := List.forall_mem_cons.1 h
    rw [addLegacySteps, legacyStep_eq he]
    exact ih hrest ..

theorem legacyTransaction_eq (htexts : ∀ record ∈ events, Recording.HasTexts record)
    (h : ∀ record ∈ events, record.Showable limit) (tcode : String) :
    legacyTransaction limit tcode events = .ok (Recording.legacyTransaction tcode events) := by
  have hkinds := Except.mapM_eq_ok fun record hrecord => eventKind_eq (htexts record hrecord)
  have hread := Except.mapM_eq_ok fun record hrecord =>
    readEvent_eq (htexts record hrecord) (h record hrecord)
  have hgroups : Event.group ((events.map Event.read?).filterMap id) = Event.groupsOf events := by
    rw [Event.groupsOf, List.filterMap_map]
    rfl
  unfold legacyTransaction
  simp only [hkinds, hread, bind, Except.bind, hgroups, addLegacySteps_eq (showable_group h)]
  rfl

theorem normalizeLegacy_eq {document : Json} (h : document.Showable limit) (tcode : String) :
    normalizeLegacy limit document tcode =
      (Recording.normalizeLegacy document tcode).mapError .fault := by
  cases document with
  | obj fields =>
    obtain ⟨n, rfl⟩ := h.exists_succ_of_obj
    have hcode := (h.field "Tcode").orElse (Json.showable_str (n + 1) tcode)
    have hevents := (h.field "Steps").orElse (Json.showable_arr_iff.2 (List.forall_mem_nil _))
    unfold normalizeLegacy Recording.normalizeLegacy
    simp only [display_eq hcode, bind, Except.bind]
    generalize (Entries.field fields "Steps").orElse (.arr []) = steps at hevents ⊢
    cases steps with
    | arr events =>
      dsimp only
      cases hcheck : Recording.checkEvents _ 1 events with
      | error fault => rfl
      | ok _ =>
        exact legacyTransaction_eq (Recording.checkEvents_eq_ok_iff.1 hcheck)
          (fun record hrecord => hevents.item hrecord) _
    | _ => rfl
  | _ => rfl

theorem actionOf_eq {record : Entries Json} (h : (Json.obj record).Showable limit) :
    actionOf limit record = .ok (Action.normalize (Entries.field record "action")) := by
  have hshown (s : String) : (Json.str s).orElse (.str "") = .str s := by
    by_cases hs : s = ""
    · subst hs
      rfl
    · simp [Json.orElse, Json.isGiven, hs]
  have hsame (v : Json) :
      Action.normalize (.str (v.orElse (.str "")).display) = Action.normalize v := by
    rw [Action.normalize, hshown]
    rfl
  rw [actionOf, display_eq ((h.field "action").orElse (Json.showable_str limit ""))]
  exact congrArg Except.ok (hsame _)

theorem addRecords_eq {make : String → String → Entries Json → Step}
    {records : List (String × Json)} (h : ∀ record ∈ records, record.2.Showable limit)
    (t : Transaction) :
    addRecords limit make t records =
      (Recording.addRecords (fun name record =>
        make name (Action.normalize (Entries.field record "action")) record) t records).mapError
        .fault := by
  induction records generalizing t with
  | nil => rfl
  | cons record rest ih =>
    obtain ⟨hrecord, hrest⟩ := List.forall_mem_cons.1 h
    obtain ⟨name, v⟩ := record
    cases v with
    | obj record =>
      rw [addRecords, actionOf_eq hrecord]
      exact ih hrest _
    | _ =>
      have hnone : Action.normalize (Entries.field [] "action") = "" := by decide
      simp only [addRecords, Recording.addRecords, hnone, Except.mapError]

theorem addContexts_eq {contexts : Entries (Entries Json)}
    (h : ∀ context ∈ contexts, ∀ record ∈ context.2, record.2.Showable limit) (t : Transaction) :
    addContexts limit t contexts = (Recording.addContexts t contexts).mapError .fault := by
  induction contexts generalizing t with
  | nil => rfl
  | cons context rest ih =>
    obtain ⟨hcontext, hrest⟩ := List.forall_mem_cons.1 h
    rw [addContexts, Recording.addContexts, addRecords_eq hcontext]
    change (Except.mapError _ (Recording.addRecords (Recording.contextStep context.1) t context.2) >>=
      _) = _
    cases Recording.addRecords (Recording.contextStep context.1) t context.2 with
    | error fault => rfl
    | ok t => exact ih hrest t

theorem normalizeStepsOnly_eq {document : Json} (h : document.Showable limit) (tcode : String) :
    normalizeStepsOnly limit document tcode =
      (Recording.normalizeStepsOnly document tcode).mapError .fault := by
  cases document with
  | obj fields =>
    have hsteps := h.field "steps"
    unfold normalizeStepsOnly Recording.normalizeStepsOnly
    dsimp only
    generalize Entries.field fields "steps" = steps at hsteps ⊢
    cases steps with
    | obj records => exact addRecords_eq (fun record hrecord => hsteps.member hrecord) _
    | _ => rfl
  | _ => rfl

theorem normalizeContextual_eq {document : Json} (h : document.Showable limit) (tcode : String) :
    normalizeContextual limit document tcode =
      (Recording.normalizeContextual document tcode).mapError .fault := by
  cases document with
  | obj fields =>
    obtain ⟨n, rfl⟩ := h.exists_succ_of_obj
    have hempty : (Json.obj []).Showable (n + 1) :=
      Json.showable_obj_iff.2 (List.forall_mem_nil _)
    have hheader := (h.field "$meta").orElse hempty
    have hsteps := (h.field "steps").orElse hempty
    unfold normalizeContextual Recording.normalizeContextual
    dsimp only
    generalize (Entries.field fields "$meta").orElse (.obj []) = header at hheader ⊢
    generalize (Entries.field fields "targetContext").orElse (.obj []) = target
    generalize (Entries.field fields "steps").orElse (.obj []) = steps at hsteps ⊢
    cases header with
    | obj header =>
      cases target with
      | obj target =>
        have hcode := (hheader.field "tcode").orElse (Json.showable_str (n + 1) tcode)
        simp only [display_eq hcode, bind, Except.bind]
        cases steps with
        | obj steps =>
          dsimp only
          cases hcontexts : Recording.contextsOf? steps with
          | none => rfl
          | some contexts =>
            have hrecords : ∀ context ∈ contexts, ∀ record ∈ context.2,
                record.2.Showable (n + 1) := by
              intro context hcontext record hrecord
              rw [Recording.eq_of_contextsOf? hcontexts] at hsteps
              exact (hsteps.member (List.mem_map_of_mem hcontext)).member hrecord
            dsimp only
            split
            · rfl
            · exact addContexts_eq hrecords _
        | _ => rfl
      | _ => rfl
    | _ => rfl
  | _ => rfl

/-- **The strict reading comes to what the program reads**, of a document that can be written
out. -/
theorem normalize_eq {recording : Recording} (h : recording.document.Showable limit) :
    normalize limit recording = recording.normalize.mapError .fault := by
  unfold normalize Recording.normalize
  cases recording.format with
  | contextual => exact normalizeContextual_eq h _
  | stepsOnly => exact normalizeStepsOnly_eq h _
  | legacy => exact normalizeLegacy_eq h _

end Strict

end ReplayFlow
