import ReplayFlow.Flow.Targets
import ReplayFlow.Proofs.Flow.Assembly

/-!
The report on targets, step by step. The ids of a captured catalog are those of
its controls (`Catalog.any_ids`), and with a table at hand each step is judged on
its own (`targetViolations_resolveBy`): a text for a target is reported unless a
program handles it or a control of the catalog has the path it stands for.
-/

namespace ReplayFlow

/-! ## Catalogs -/

namespace Json

/-- A text is the same member of a collection as itself alone. -/
theorem sameMember_str_iff {v : Json} {s : String} : sameMember v (.str s) = true ↔ v = .str s := by
  cases v <;> simp [sameMember, bothUndefined, same, sameScalar, integer?]

end Json

namespace Catalog

/-- A control of a catalog: an object with a text for its id. -/
def IsControl (control : Json) : Prop :=
  ∃ fields id, control = .obj fields ∧ Entries.field fields "Id" = .str id

/-- A catalog as it is captured: groups, each of them an array of controls. -/
def IsCaptured (catalog : Json) : Prop :=
  ∃ fields groups, catalog = .obj fields ∧ Entries.field fields "TargetControls" = .obj groups ∧
    ∀ group ∈ groups, ∃ controls, group.2 = .arr controls ∧ ∀ control ∈ controls, IsControl control

/-- The members of the groups of a catalog, group after group. -/
def controls (catalog : Json) : List Json :=
  match catalog with
  | .obj fields =>
    match Entries.field fields "TargetControls" with
    | .obj groups =>
      groups.flatMap fun group =>
        match group.2 with
        | .arr controls => controls
        | _ => []
    | _ => []
  | _ => []

def hasId (id : String) (control : Json) : Bool :=
  match control with
  | .obj fields => (Entries.field fields "Id").string? = some id
  | _ => false

/-- Whether a control of some group has an id. -/
def lists (catalog : Json) (id : String) : Bool := (controls catalog).any (hasId id)

/-- Whether an id is among those that were collected. -/
def isAmong (ids : List Json) (id : String) : Bool := ids.any fun other => other.string? = some id

theorem isAmong_iff {ids : List Json} {id : String} : isAmong ids id = true ↔ .str id ∈ ids := by
  simp [isAmong, Json.string?_eq_some_iff]

/-- The ids that were collected, with those of some controls. -/
def Collects (ids : List Json) (controls : List Json) (outcome : Except Fault (List Json)) : Prop :=
  ∃ more, outcome = .ok more ∧
    ∀ id, id ≠ "" → isAmong more id = (isAmong ids id || controls.any (hasId id))

theorem collects_addId {control : Json} (h : IsControl control) (ids : List Json) :
    Collects ids [control] (addId ids control) := by
  obtain ⟨fields, own, rfl, hown⟩ := h
  have hhas : ∀ id, [Json.obj fields].any (hasId id) = decide (own = id) := by
    intro id
    simp [hasId, hown, Json.string?]
  simp only [addId, hown, Json.isContainer, Bool.false_eq_true, if_false]
  by_cases hempty : own = ""
  · -- an empty id is not collected, and nothing else has it
    refine ⟨ids, by simp [Json.isGiven, hempty], fun id hid => ?_⟩
    rw [hhas, hempty]
    simp [Ne.symm hid]
  · simp only [Json.isGiven, ne_eq, hempty, not_false_eq_true, decide_true, Bool.not_true,
      Bool.false_eq_true, if_false]
    refine ⟨_, rfl, fun id _ => ?_⟩
    rw [hhas, Bool.eq_iff_iff]
    split
    · rename_i hknown
      obtain ⟨v, hv, hsame⟩ := List.any_eq_true.1 hknown
      have hmem : .str own ∈ ids := Json.sameMember_str_iff.1 hsame ▸ hv
      rw [Bool.or_eq_true, isAmong_iff, decide_eq_true_eq]
      exact ⟨.inl, fun h => h.elim (fun h => h) fun e => e ▸ hmem⟩
    · rw [Bool.or_eq_true, isAmong_iff, isAmong_iff, List.mem_append, List.mem_singleton,
        decide_eq_true_eq, Json.str.injEq]
      exact or_congr_right eq_comm

/-- Controls that are collected one part after the other. -/
theorem Collects.bind {ids before after : List Json} {outcome : Except Fault (List Json)}
    (h : Collects ids before outcome) {next : List Json → Except Fault (List Json)}
    (hnext : ∀ more, Collects more after (next more)) :
    Collects ids (before ++ after) (outcome >>= next) := by
  obtain ⟨some, rfl, hsome⟩ := h
  obtain ⟨all, hall, hlater⟩ := hnext some
  refine ⟨all, hall, fun id hid => ?_⟩
  rw [hlater id hid, hsome id hid, List.any_append, Bool.or_assoc]

theorem collects_addIds {controls : List Json} (h : ∀ control ∈ controls, IsControl control)
    (ids : List Json) : Collects ids controls (addIds ids controls) := by
  induction controls generalizing ids with
  | nil => exact ⟨ids, rfl, by simp⟩
  | cons control rest ih =>
    have hfirst := collects_addId (h control (List.mem_cons_self ..)) ids
    exact hfirst.bind fun more => ih (fun other hmem => h other (List.mem_cons_of_mem _ hmem)) more

/-- **The ids of a captured catalog** are those of its controls. -/
theorem any_ids {catalog : Json} (h : IsCaptured catalog) :
    ∃ ids, Catalog.ids catalog = .ok ids ∧
      ∀ id, id ≠ "" → isAmong ids id = lists catalog id := by
  obtain ⟨fields, groups, rfl, hfield, hgroups⟩ := h
  have hall : ∀ (groups : Entries Json), (∀ group ∈ groups, ∃ controls, group.2 = .arr controls ∧
      ∀ control ∈ controls, IsControl control) → ∀ ids,
      Collects ids (groups.flatMap fun group =>
        match group.2 with
        | .arr controls => controls
        | _ => []) (addGroups ids groups) := by
    intro groups
    induction groups with
    | nil => exact fun _ ids => ⟨ids, rfl, by simp⟩
    | cons group rest ih =>
      intro hgroups ids
      obtain ⟨name, value⟩ := group
      obtain ⟨controls, rfl, hcontrols⟩ := hgroups _ (List.mem_cons_self ..)
      have hmembers : members (.arr controls) = .ok controls := by
        cases controls <;> rfl
      have hrest := ih fun other hmem => hgroups other (List.mem_cons_of_mem _ hmem)
      simp only [addGroups, hmembers]
      exact (collects_addIds hcontrols ids).bind hrest
  obtain ⟨ids, hids, hamong⟩ := hall groups hgroups []
  have hgiven : (Json.obj groups).orElse (.obj []) = .obj groups := by
    cases groups <;> rfl
  refine ⟨ids, by simp only [Catalog.ids, hfield, hgiven, hids], fun id hid => ?_⟩
  rw [hamong id hid]
  simp [isAmong, lists, controls, hfield]

end Catalog

/-! ## Steps -/

theorem StepMap.expectedTarget?_ne_empty {step : Step} {target : String}
    (h : expectedTarget? step = some target) : target ≠ "" := by
  rintro rfl
  unfold expectedTarget? at h
  split at h
  · split at h
    · cases h
    · rename_i hpath
      split at h
      · split at h
        · exact hpath (Option.some.inj h)
        · rename_i hname
          exact hname (Option.some.inj h)
      · exact hpath (Option.some.inj h)
  · cases h

theorem StepMap.expectedTarget?_of_noTarget {step : Step} (h : step.target = none) :
    expectedTarget? step = none := by
  rw [expectedTarget?, h]

namespace Flow

/-- The target of a step as it is written. -/
def targetAt? (flow : Json) (id : String) : Option String :=
  (bodyAt? flow id).bind fun body => (Entries.field body "target").string?

/-- What is reported about one step when its target is turned into a path by a table. -/
def unfound? (table : AliasTable String) (tcode : Option String) (ids : List Json)
    (step : FlowStep) : Option Violation :=
  (Entries.field step.body "target").string?.bind fun target =>
    if isProgrammatic target || Catalog.isAmong ids (table.resolveTarget tcode target) then none
    else some ⟨step.id, .targetNotFound target⟩

variable {table : AliasTable String} {tcode : Option String} {ids : List Json} {step : FlowStep}

/-- **With a table each step is judged on its own.** -/
theorem targetViolations_resolveBy (table : AliasTable String) (tcode : Option String)
    (ids : List Json) (steps : List FlowStep) :
    targetViolations (resolveBy table tcode) ids steps =
      .ok (steps.filterMap (unfound? table tcode ids)) := by
  induction steps with
  | nil => rfl
  | cons step rest ih =>
    rw [targetViolations, List.filterMap_cons, unfound?]
    cases hfield : Entries.field step.body "target" with
    | str target =>
      have htext : (Json.str target).string? = some target := rfl
      rw [htext, Option.bind_some]
      by_cases hhandled : isProgrammatic target = true
      · simp [hhandled, ih]
      · have hany : (ids.any fun id => id.string? = some (table.resolveTarget tcode target)) =
            Catalog.isAmong ids (table.resolveTarget tcode target) := rfl
        cases hamong : Catalog.isAmong ids (table.resolveTarget tcode target) <;>
          simp [hhandled, resolveBy, ih, bind, Except.bind, hany, hamong]
    | _ => simpa [Json.string?] using ih

/-- The body of a legacy step has the target of the step, if it has one. -/
theorem field_legacyBody_target (step : Step) :
    (Entries.field (legacyBody step) "target").string? = StepMap.expectedTarget? step := by
  cases htarget : StepMap.expectedTarget? step with
  | none =>
    have hnone : Entries.get? (legacyBody step) "target" = none := by
      have hmethod : "method" ≠ "target" := by decide
      have hparam : "paramKey" ≠ "target" := by decide
      have hnext : "next" ≠ "target" := by decide
      have htimeout : "timeout" ≠ "target" := by decide
      have hvalue : "paramValue" ≠ "target" := by decide
      have hcontrol : "controlType" ≠ "target" := by decide
      rw [legacyBody, htarget]
      simp only [Entries.get?_append, get?_parameterFields hmethod hparam, get?_given_of_ne hnext,
        get?_timeoutFields htimeout, get?_valueFields hvalue, get?_given_of_ne hcontrol]
      unfold conditionFields
      split <;> simp [Entries.get?, given, Json.ofOption, Json.isGiven]
    rw [Entries.field, hnone]
    rfl
  | some target =>
    rw [Entries.field, get?_legacyBody_target htarget (StepMap.expectedTarget?_ne_empty htarget)]
    rfl

end Flow

end ReplayFlow
