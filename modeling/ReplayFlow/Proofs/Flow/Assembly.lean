import ReplayFlow.Proofs.Flow.Chain
import ReplayFlow.Proofs.Recording.Legacy

/-!
Legacy flows as they are assembled. The body of a step has the action, target
and successor of the step (`get?_legacyBody_target`, `goesOn_legacyBody`), so
linked steps make a chain (`chained_legacyBody`), which relinking leaves as it
is (`assembleLegacy_of_linked`).
-/

namespace ReplayFlow.Flow

open Recording (Linked)

variable {step : Step}

/-! ## Parts of a body -/

theorem get?_given (key : String) (value : Json) :
    Entries.get? (given key value) key = if value.isGiven then some value else none := by
  unfold given
  split <;> simp [Entries.get?]

theorem get?_given_of_ne {key other : String} (h : key ≠ other) (value : Json) :
    Entries.get? (given key value) other = none := by
  unfold given
  split <;> simp [Entries.get?, h]

theorem get?_parameterFields {key : String} (hmethod : "method" ≠ key)
    (hparam : "paramKey" ≠ key) : Entries.get? (parameterFields step) key = none := by
  unfold parameterFields
  split
  · simp [Entries.get?, hmethod, hparam]
  · split
    · exact get?_given_of_ne hparam _
    · rfl

theorem get?_conditionFields (h : step.action ≠ "condition") (key : String) :
    Entries.get? (conditionFields step) key = none := by
  rw [conditionFields, if_neg h]
  rfl

theorem get?_timeoutFields {key : String} (h : "timeout" ≠ key) :
    Entries.get? (if step.action = "waitFor" then given "timeout" step.timeout else []) key =
      none := by
  split
  · exact get?_given_of_ne h _
  · rfl

theorem get?_valueFields {key : String} (h : "paramValue" ≠ key) :
    Entries.get? (if step.paramValue.isNull then [] else [("paramValue", step.paramValue)]) key =
      none := by
  split
  · rfl
  · simp [Entries.get?, h]

/-! ## The body of a step -/

theorem get?_legacyBody_action (step : Step) :
    Entries.get? (legacyBody step) "action" = some (.str step.action) := by
  simp [legacyBody, Entries.get?]

theorem get?_legacyBody_target {target : String}
    (h : StepMap.expectedTarget? step = some target) (hne : target ≠ "") :
    Entries.get? (legacyBody step) "target" = some (.str target) := by
  have hgiven : (Json.str target).isGiven = true := by simp [Json.isGiven, hne]
  simp [legacyBody, Entries.get?, Entries.get?_append, get?_given, h, Json.ofOption, hgiven]

/-- A reference is the successor, or a branch of a condition. -/
theorem get?_legacyBody_link {key : String} (hkey : key ∈ referenceKeys) :
    Entries.get? (legacyBody step) key =
      (Entries.get? (given "next" step.next) key).or (Entries.get? (conditionFields step) key) := by
  have hother : ∀ other ∈ ["action", "target", "method", "paramKey", "timeout", "paramValue",
      "controlType"], other ≠ key := by
    simp only [referenceKeys, List.mem_cons, List.not_mem_nil, or_false] at hkey
    rcases hkey with rfl | rfl | rfl <;> decide
  have haction : Entries.get? [("action", Json.str step.action)] key = none := by
    simp [Entries.get?, hother "action" (by simp)]
  rw [legacyBody]
  simp only [Entries.get?_append, haction, get?_given_of_ne (hother "target" (by simp)),
    get?_parameterFields (hother "method" (by simp)) (hother "paramKey" (by simp)),
    get?_timeoutFields (hother "timeout" (by simp)),
    get?_valueFields (hother "paramValue" (by simp)),
    get?_given_of_ne (hother "controlType" (by simp)), Option.none_or, Option.or_none]

/-- Of the references a step that is no condition has only its successor. -/
theorem get?_legacyBody_reference (h : step.action ≠ "condition") {key : String}
    (hkey : key ∈ referenceKeys) :
    Entries.get? (legacyBody step) key = Entries.get? (given "next" step.next) key := by
  rw [get?_legacyBody_link hkey, get?_conditionFields h, Option.or_none]

theorem goesOn_legacyBody {next : String} (hexit : step.action ≠ "exit")
    (hcondition : step.action ≠ "condition") (hnext : step.next = .str next) (hne : next ≠ "") :
    Body.GoesOn (legacyBody step) next := by
  have hgiven : (Json.str next).isGiven = true := by simp [Json.isGiven, hne]
  refine ⟨⟨step.action, get?_legacyBody_action step, hexit, hcondition⟩, ?_, ?_, ?_⟩
  · rw [get?_legacyBody_reference hcondition (by decide), hnext, get?_given, if_pos hgiven]
  · rw [get?_legacyBody_reference hcondition (by decide), get?_given_of_ne (by decide)]
  · rw [get?_legacyBody_reference hcondition (by decide), get?_given_of_ne (by decide)]

theorem ends_legacyBody (haction : step.action = "exit") (hnext : step.next = .null) :
    Body.Ends (legacyBody step) := by
  refine ⟨by rw [get?_legacyBody_action, haction], ?_⟩
  intro key hkey
  rw [get?_legacyBody_reference (by rw [haction]; decide) hkey, hnext]
  rfl

/-! ## The flow -/

theorem chained_legacyBody {steps : List Step} (h : Linked steps) :
    StepMap.Chained (steps.map fun step => (step.id, legacyBody step)) := by
  induction h with
  | exit hid haction hnext =>
    rw [List.map_singleton, hid]
    exact .exit (ends_legacyBody haction hnext)
  | link hexit hcondition hnext hne _ ih =>
    exact .link (goesOn_legacyBody hexit hcondition hnext hne) hne ih

theorem entries_legacySteps {t : Transaction} (hn : (t.steps.map Step.id).Nodup) :
    (legacySteps t).entries = t.steps.map fun step => (step.id, legacyBody step) := by
  have hkeys : (Entries.keys (t.steps.map fun step => (step.id, legacyBody step))).Nodup := by
    rw [Entries.keys, List.map_map]
    exact hn
  rw [legacySteps, OrderedMap.ofList_entries hkeys]

theorem keys_legacySteps {t : Transaction} (hn : (t.steps.map Step.id).Nodup) :
    (legacySteps t).keys = t.steps.map Step.id := by
  rw [OrderedMap.keys, entries_legacySteps hn, Entries.keys, List.map_map]
  rfl

/-- Linked steps are written down as they are. -/
theorem assembleLegacy_of_linked {t : Transaction} (h : Linked t.steps)
    (hn : (t.steps.map Step.id).Nodup) (created : Json) :
    StepMap.Chained (legacySteps t).entries ∧
      ∃ more, (assembleLegacy created t).document = documentOf (legacySteps t) more := by
  have hchained : StepMap.Chained (legacySteps t).entries := by
    rw [entries_legacySteps hn]
    exact chained_legacyBody h
  have hkept : ∀ step ∈ t.steps, step.id ∈ (legacySteps t).keys := by
    intro step hmem
    rw [keys_legacySteps hn]
    exact List.mem_map.2 ⟨step, hmem, rfl⟩
  refine ⟨hchained, ?_⟩
  simp only [assembleLegacy, StepMap.relink_of_chained hchained hkept]
  exact ⟨_, rfl⟩

theorem check_of_bodies {t : Transaction}
    (h : ∀ entry ∈ (legacySteps t).entries, Body.hasContainerReference entry.2 = false) :
    check t = .ok () := by
  unfold check
  split
  · exact StepMap.check_of_forall h
  · rfl

theorem bodyAt?_legacySteps {t : Transaction} (hn : (t.steps.map Step.id).Nodup)
    (hmem : step ∈ t.steps) (more : Entries Json) :
    bodyAt? (documentOf (legacySteps t) more) step.id = some (legacyBody step) := by
  rw [bodyAt?_documentOf, OrderedMap.get?_eq_some_iff, entries_legacySteps hn]
  exact List.mem_map.2 ⟨step, hmem, rfl⟩

end ReplayFlow.Flow
