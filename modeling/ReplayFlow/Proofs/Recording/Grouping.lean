import Mathlib.Data.List.Chain
import ReplayFlow.Proofs.Data.OrderedMap
import ReplayFlow.Proofs.Json.Display
import ReplayFlow.Proofs.Recording.Registry
import ReplayFlow.Proofs.Text.Case

/-!
What grouping keeps of a recording. Records are performed on a form: an input
writes a value, and any other event is observed together with the form that it
meets. Groups are records again (`Event.read?_toJson`), and performing them
shows the same observations and leaves the same form as performing the records
that they are made from (`performAll_groups`).
-/

namespace ReplayFlow

/-- What has been written into controls, by their ids. -/
abbrev Form := OrderedMap Json

/-- An event that is no input, with the form that it meets. -/
structure Observation where
  action : String
  control : String
  value : Json
  form : Form

namespace Form

/-- Performs a record. What is no object, or lacks its action or its control, has no effect. -/
def perform (form : Form) (record : Json) : Form × List Observation :=
  match record with
  | .obj fields =>
    let action := Entries.field fields "Action"
    let value := Entries.field fields "Value"
    match action.isGiven, Entries.field fields "ControlId" with
    | true, .str control =>
      if control = "" then (form, [])
      else if lowercase action.display = "input" ∨ lowercase action.display = "set" then
        (form.insert control value, [])
      else (form, [⟨lowercase action.display, control, value, form⟩])
    | _, _ => (form, [])
  | _ => (form, [])

/-- Takes steps one after the other: the form at the end, and all that was observed. -/
def runAll {α : Type} (step : Form → α → Form × List Observation) (form : Form) :
    List α → Form × List Observation
  | [] => (form, [])
  | x :: rest =>
    ((runAll step (step form x).1 rest).1, (step form x).2 ++ (runAll step (step form x).1 rest).2)

def performAll (form : Form) (records : List Json) : Form × List Observation :=
  runAll perform form records

end Form

/-- A control that a record names is named by a text. -/
def HasTextControl (record : Json) : Prop :=
  ∀ fields, record = .obj fields → (Entries.field fields "ControlId").isGiven = true →
    ∃ control, Entries.field fields "ControlId" = .str control

namespace Event

variable {e before : Event} {events : List Event} {record : Json} {records : List Json}

/-! ## Groups as records -/

/-- An event as it is read: its action in small letters, its control named by a text. -/
structure Settled (e : Event) : Prop where
  small : lowercase e.action = e.action
  given : e.action ≠ ""
  control : ∃ control, control ≠ "" ∧ e.controlId = .str control

theorem Settled.withValue (h : e.Settled) (value : Json) : Settled { e with value } :=
  ⟨h.small, h.given, h.control⟩

theorem read?_obj (fields : Entries Json) :
    read? (.obj fields) =
      if (Entries.field fields "Action").isGiven && (Entries.field fields "ControlId").isGiven then
        some ⟨lowercase (Entries.field fields "Action").display, Entries.field fields "ControlId",
          Entries.field fields "ControlName", Entries.field fields "ControlType",
          Entries.field fields "Value"⟩
      else none := rfl

theorem settled_of_read? (h : HasTextControl record) (he : read? record = some e) : e.Settled := by
  cases record with
  | obj fields =>
    rw [read?_obj] at he
    split at he
    · rename_i hgiven
      rw [Bool.and_eq_true] at hgiven
      cases he
      obtain ⟨control, hcontrol⟩ := h fields rfl hgiven.2
      refine ⟨lowercase_lowercase _, lowercase_ne_empty (Json.display_ne_empty hgiven.1), control,
        ?_, hcontrol⟩
      rintro rfl
      rw [hcontrol] at hgiven
      exact absurd hgiven.2 (by decide)
    · cases he
  | _ => cases he

/-- **A group is the record of an event**, which is the group again. -/
theorem read?_toJson (h : e.Settled) : read? e.toJson = some e := by
  obtain ⟨hsmall, hgiven, control, hne, hcontrol⟩ := h
  obtain ⟨action, controlId, controlName, controlType, value⟩ := e
  dsimp only at hsmall hgiven hcontrol
  subst hcontrol
  simp [toJson, read?_obj, Entries.field, Entries.get?, Json.isGiven, Json.display, hgiven, hne,
    hsmall]

/-- Records of events hold these events. -/
theorem filterMap_toJson (h : ∀ e ∈ events, e.Settled) :
    (events.map toJson).filterMap read? = events := by
  rw [List.filterMap_map]
  exact (List.filterMap_congr fun e he => read?_toJson (h e he)).trans List.filterMap_some

/-! ## Groups as events -/

section

variable {P : Event → Prop}
  (hvalue : ∀ before e : Event, P before → P e → P { before with value := e.value })

include hvalue in
/-- What holds of events, whichever values they leave, holds of their groups. -/
theorem forall_groupFrom (hbefore : P before) (h : ∀ e ∈ events, P e) :
    ∀ e ∈ groupFrom before events, P e := by
  induction events generalizing before with
  | nil =>
    intro e he
    exact List.mem_singleton.1 he ▸ hbefore
  | cons next rest ih =>
    have hnext := h next (List.mem_cons_self ..)
    have hrest := fun e he => h e (List.mem_cons_of_mem _ he)
    rw [groupFrom]
    split
    · exact ih (hvalue before next hbefore hnext) hrest
    · intro e he
      rcases List.mem_cons.1 he with rfl | he
      · exact hbefore
      · exact ih hnext hrest e he

include hvalue in
theorem forall_group (h : ∀ e ∈ events, P e) : ∀ e ∈ group events, P e := by
  cases events with
  | nil =>
    intro e he
    cases he
  | cons first rest =>
    exact forall_groupFrom hvalue (h first (List.mem_cons_self ..))
      fun e he => h e (List.mem_cons_of_mem _ he)

end

theorem settled_group (h : ∀ e ∈ events, e.Settled) : ∀ e ∈ group events, e.Settled :=
  forall_group (fun _ e hbefore _ => hbefore.withValue e.value) h

/-- Two events go on with each other when both are inputs into one control. -/
theorem continues_iff (hbefore : before.Settled) (he : e.Settled) :
    continues before e = true ↔
      before.isInput = true ∧ e.isInput = true ∧ before.controlId = e.controlId := by
  obtain ⟨control, _, hcontrol⟩ := hbefore.control
  obtain ⟨control', _, hcontrol'⟩ := he.control
  simp [continues, hcontrol, hcontrol', Json.same, Json.sameScalar, and_assoc]

/-! ## Neighbouring groups -/

/-- The first group is the open event, with some value. -/
theorem exists_groupFrom_eq (before : Event) (events : List Event) :
    ∃ value rest, groupFrom before events = { before with value } :: rest := by
  induction events generalizing before with
  | nil => exact ⟨before.value, [], rfl⟩
  | cons e rest ih =>
    rw [groupFrom]
    split
    · exact ih { before with value := e.value }
    · exact ⟨before.value, _, rfl⟩

theorem isChain_groupFrom (before : Event) (events : List Event) :
    (groupFrom before events).IsChain fun before e => continues before e = false := by
  induction events generalizing before with
  | nil => exact List.isChain_singleton before
  | cons e rest ih =>
    rw [groupFrom]
    split
    · exact ih _
    · rename_i hcloses
      have hrest := ih e
      obtain ⟨value, more, heq⟩ := exists_groupFrom_eq e rest
      rw [heq] at hrest ⊢
      -- a group differs from the event that opened it in its value only
      have hsame : continues before { e with value } = continues before e := rfl
      exact List.isChain_cons_cons.2 ⟨hsame.trans (Bool.eq_false_iff.2 hcloses), hrest⟩

theorem isChain_group (events : List Event) :
    (group events).IsChain fun before e => continues before e = false := by
  cases events with
  | nil => exact List.isChain_nil
  | cons first rest => exact isChain_groupFrom first rest

end Event

namespace Form

open Event

variable {form : Form} {e before : Event} {events : List Event}
variable {record : Json} {records : List Json}

/-! ## Records as events -/

/-- What an event does to a form. -/
def meet (form : Form) (e : Event) : Form × List Observation :=
  match e.controlId with
  | .str control =>
    if e.isInput then (form.insert control e.value, [])
    else (form, [⟨e.action, control, e.value, form⟩])
  | _ => (form, [])

/-- Steps without effect can be left out. -/
theorem runAll_filterMap {α β : Type} {step : Form → α → Form × List Observation}
    {step' : Form → β → Form × List Observation} {f : α → Option β} {xs : List α}
    (h : ∀ x ∈ xs, ∀ form, step form x = ((f x).map (step' form)).getD (form, [])) (form : Form) :
    runAll step form xs = runAll step' form (xs.filterMap f) := by
  induction xs generalizing form with
  | nil => rfl
  | cons x rest ih =>
    have hrest := ih fun y hy => h y (List.mem_cons_of_mem _ hy)
    have hx := h x (List.mem_cons_self ..) form
    cases hf : f x with
    | none =>
      rw [hf] at hx
      rw [List.filterMap_cons_none hf, runAll, hx, ← hrest]
      rfl
    | some y =>
      rw [hf] at hx
      rw [List.filterMap_cons_some hf, runAll, hx, hrest]
      rfl

theorem perform_eq (h : HasTextControl record) (form : Form) :
    form.perform record = ((read? record).map form.meet).getD (form, []) := by
  cases record with
  | obj fields =>
    rw [read?_obj]
    simp only [perform]
    generalize hgiven : (Entries.field fields "Action").isGiven = given
    cases given with
    | false => rfl
    | true =>
      generalize hcontrol : Entries.field fields "ControlId" = controlId
      by_cases hnamed : controlId.isGiven = true
      · obtain ⟨control, heq⟩ := h fields rfl (by rw [hcontrol]; exact hnamed)
        have hsame : controlId = .str control := hcontrol.symm.trans heq
        subst hsame
        have hne : control ≠ "" := by simpa [Json.isGiven] using hnamed
        simp [meet, hne, hnamed, isInput]
      · have hnone : ∀ control, controlId = .str control → control = "" := by
          rintro control rfl
          simpa [Json.isGiven] using hnamed
        rw [Bool.not_eq_true] at hnamed
        simp only [hnamed, Bool.and_false, Bool.false_eq_true, if_false]
        split
        · rename_i control _
          simp [hnone control rfl]
        · rfl
  | _ => rfl

/-- Performing records is meeting the events that they hold. -/
theorem performAll_eq (h : ∀ record ∈ records, HasTextControl record) (form : Form) :
    form.performAll records = runAll meet form (records.filterMap read?) :=
  runAll_filterMap (fun record hrecord => perform_eq (h record hrecord)) form

theorem performAll_toJson (h : ∀ e ∈ events, e.Settled) (form : Form) :
    form.performAll (events.map toJson) = runAll meet form events := by
  have htext : ∀ record ∈ events.map toJson, HasTextControl record := by
    intro record hr
    obtain ⟨e, he, rfl⟩ := List.mem_map.1 hr
    obtain ⟨control, _, hcontrol⟩ := (h e he).control
    intro fields hfields _
    cases hfields
    exact ⟨control, hcontrol⟩
  rw [performAll_eq htext, filterMap_toJson h]

/-! ## Merged inputs -/

theorem meet_of_isInput {control : String} (h : e.isInput = true)
    (hcontrol : e.controlId = .str control) (form : Form) :
    form.meet e = (form.insert control e.value, []) := by
  simp [meet, hcontrol, h]

/-- Of two inputs into one control the value of the second is left, and neither is observed. -/
theorem meet_of_continues (hbefore : before.Settled) (he : e.Settled)
    (h : continues before e = true) (form : Form) :
    (form.meet before).2 = [] ∧
      (form.meet before).1.meet e = form.meet { before with value := e.value } := by
  obtain ⟨hinput, hinput', hsame⟩ := (continues_iff hbefore he).1 h
  obtain ⟨control, _, hcontrol⟩ := hbefore.control
  have hmerged : form.meet { before with value := e.value } =
      (form.insert control e.value, []) :=
    meet_of_isInput (e := { before with value := e.value }) hinput hcontrol form
  rw [meet_of_isInput hinput hcontrol, meet_of_isInput hinput' (hsame.symm.trans hcontrol),
    hmerged, OrderedMap.insert_insert]
  exact ⟨rfl, rfl⟩

theorem runAll_groupFrom (hbefore : before.Settled) (h : ∀ e ∈ events, e.Settled) (form : Form) :
    runAll meet form (groupFrom before events) = runAll meet form (before :: events) := by
  induction events generalizing before form with
  | nil => rfl
  | cons e rest ih =>
    have he := h e (List.mem_cons_self ..)
    have hrest := fun e hmem => h e (List.mem_cons_of_mem _ hmem)
    rw [groupFrom]
    split
    · rename_i hcontinues
      obtain ⟨hsilent, hmerged⟩ := meet_of_continues hbefore he hcontinues form
      rw [ih (hbefore.withValue e.value) hrest, runAll, runAll, runAll, hsilent, hmerged]
      rfl
    · rw [runAll, ih he hrest]
      rfl

theorem runAll_group (h : ∀ e ∈ events, e.Settled) (form : Form) :
    runAll meet form (group events) = runAll meet form events := by
  cases events with
  | nil => rfl
  | cons first rest =>
    exact runAll_groupFrom (h first (List.mem_cons_self ..))
      (fun e he => h e (List.mem_cons_of_mem _ he)) form

/-- **Grouping keeps what a recording does.** Its groups show the same observations and leave
the same form, and no two neighbouring groups are inputs into one control. -/
theorem performAll_groups (records : List Json) (h : ∀ record ∈ records, HasTextControl record)
    (form : Form) :
    form.performAll ((groupsOf records).map toJson) = form.performAll records ∧
      (groupsOf records).IsChain fun before e =>
        ¬ (before.isInput = true ∧ e.isInput = true ∧ before.controlId = e.controlId) := by
  have hread : ∀ e ∈ records.filterMap read?, e.Settled := by
    intro e he
    obtain ⟨record, hrecord, hread⟩ := List.mem_filterMap.1 he
    exact settled_of_read? (h record hrecord) hread
  have hgroups : ∀ e ∈ groupsOf records, e.Settled := settled_group hread
  constructor
  · rw [performAll_toJson hgroups, performAll_eq h, groupsOf, runAll_group hread]
  · refine (isChain_group (records.filterMap read?)).imp_of_mem_imp ?_
    intro before e hbefore he hcloses hboth
    rw [(continues_iff (hgroups before hbefore) (hgroups e he)).2 hboth] at hcloses
    cases hcloses

end Form

namespace Sample

/-- Two inputs into one control with noise between them, a click, and a third input. -/
def typed : List Json :=
  [event "Input" "/usr/ctxtA" "1", .str "noise", .obj [("Action", .str "Input")],
    event "SET" "/usr/ctxtA" "2", event "Click" "/btn[8]" "", event "Input" "/usr/ctxtA" "3"]

end Sample

theorem Form.performAll_groups_typed :
    (∀ record ∈ Sample.typed, HasTextControl record) ∧
      ((∅ : Form).performAll ((Event.groupsOf Sample.typed).map Event.toJson) =
          (∅ : Form).performAll Sample.typed ∧
        (Event.groupsOf Sample.typed).IsChain fun before e =>
          ¬ (before.isInput = true ∧ e.isInput = true ∧ before.controlId = e.controlId)) ∧
      (Event.groupsOf Sample.typed).map Event.action = ["input", "click", "input"] ∧
      ((∅ : Form).performAll Sample.typed).2.map (fun seen => (seen.action, seen.form.entries)) =
        [("click", [("/usr/ctxtA", .str "2")])] := by
  have htext : ∀ record ∈ Sample.typed, HasTextControl record := by
    intro record hrecord fields hfields hgiven
    simp only [Sample.typed, List.mem_cons, List.not_mem_nil, or_false] at hrecord
    rcases hrecord with rfl | rfl | rfl | rfl | rfl | rfl
    all_goals cases hfields
    all_goals first | exact ⟨_, rfl⟩ | cases hgiven
  exact ⟨htext, Form.performAll_groups Sample.typed htext ∅, rfl, rfl⟩

end ReplayFlow
