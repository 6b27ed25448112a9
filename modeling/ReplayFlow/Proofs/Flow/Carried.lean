import ReplayFlow.Proofs.Alias.Naming
import ReplayFlow.Proofs.Flow.Assembly
import ReplayFlow.Proofs.Recording.Action

/-!
Bodies that a flow takes over. The body of a carried step is its source record
with a normalized action in front and without an id (`carriedBody_of_record`). A
body that is taken over as it is is canonical (`Body.Canonical`): the bodies of
carried steps are (`canonical_carriedBody`), and so are those of legacy steps
with actions of a flow (`canonical_legacyBody`). The names that a batch gives to
steps are not seen in a flow of carried steps (`assemble_nameSteps`).
-/

namespace ReplayFlow

namespace Body

variable {rest record : Body} {action : String}

/-- The fields of a record that a flow takes over as they are. -/
def otherFields (record : Body) : Body :=
  record.filter fun field => field.1 ≠ "id" ∧ field.1 ≠ "action"

/-- The body that a flow has for a source record: its action, normalized, and all its other
fields but the id. -/
def ofRecord (record : Body) : Body :=
  ("action", .str (Action.normalize (Entries.field record "action"))) :: otherFields record

/-- A body that is its own body when it is read as a record. -/
structure Canonical (body : Body) : Prop where
  nodup : (Entries.keys body).Nodup
  ofRecord_eq : ofRecord body = body

theorem not_mem_keys_otherFields (record : Body) {key : String}
    (h : key = "id" ∨ key = "action") : key ∉ Entries.keys (otherFields record) := by
  intro hmem
  obtain ⟨field, hfield, rfl⟩ := List.mem_map.1 hmem
  have hkept := (List.mem_filter.1 hfield).2
  simp only [decide_eq_true_eq] at hkept
  rcases h with hid | haction
  · exact hkept.1 hid
  · exact hkept.2 haction

/-- An action in normal form before distinct fields without an id. -/
theorem canonical_cons (haction : Action.normalize (.str action) = action)
    (hn : (Entries.keys rest).Nodup) (hid : "id" ∉ Entries.keys rest)
    (hrest : "action" ∉ Entries.keys rest) : Canonical (("action", .str action) :: rest) := by
  refine ⟨List.nodup_cons.2 ⟨hrest, hn⟩, ?_⟩
  have hothers : otherFields (("action", .str action) :: rest) = rest := by
    rw [otherFields, List.filter_cons_of_neg (by simp)]
    refine List.filter_eq_self.2 fun field hmem => ?_
    have hkey : field.1 ∈ Entries.keys rest := List.mem_map_of_mem hmem
    simp only [decide_eq_true_eq]
    exact ⟨fun e => hid (e ▸ hkey), fun e => hrest (e ▸ hkey)⟩
  have hfield : Entries.field (("action", .str action) :: rest) "action" = .str action := rfl
  rw [ofRecord, hothers, hfield, haction]

end Body

namespace Flow

open Body (Canonical)

variable {step : Step} {record : Body}

/-! ## Carried steps -/

theorem carriedBody_eq (h : step.fields = Body.otherFields record) :
    carriedBody step =
      ("action", .str step.action) :: Entries.ofList (Body.otherFields record) := by
  rw [carriedBody, h,
    Entries.insertAll_cons [] (Body.not_mem_keys_otherFields record (.inr rfl)), Entries.ofList]

/-- The body of a step is the one of its record. -/
theorem carriedBody_of_record
    (haction : step.action = Action.normalize (Entries.field record "action"))
    (hfields : step.fields = Body.otherFields record) (hn : (Entries.keys record).Nodup) :
    carriedBody step = Body.ofRecord record := by
  have hothers : (Entries.keys (Body.otherFields record)).Nodup := Entries.nodup_keys_filter hn _
  rw [carriedBody_eq hfields, Entries.ofList_of_nodup hothers, haction, Body.ofRecord]

/-- The body of a carried step is canonical, whatever its record is. -/
theorem canonical_carriedBody
    (haction : step.action = Action.normalize (Entries.field record "action"))
    (hfields : step.fields = Body.otherFields record) : Canonical (carriedBody step) := by
  have hnone : ∀ key, key = "id" ∨ key = "action" →
      key ∉ Entries.keys (Entries.ofList (Body.otherFields record)) := by
    intro key hkey hmem
    rw [Entries.keys_ofList, List.mem_eraseDups] at hmem
    exact Body.not_mem_keys_otherFields record hkey hmem
  rw [carriedBody_eq hfields]
  refine Body.canonical_cons ?_ ?_ (hnone "id" (.inl rfl)) (hnone "action" (.inr rfl))
  · rw [haction, Action.normalize_normalize]
  · exact Entries.nodup_keys_insertAll _ List.nodup_nil

/-! ## Legacy steps -/

theorem keys_given_sublist (key : String) (value : Json) :
    (Entries.keys (given key value)).Sublist [key] := by
  unfold given
  split
  · exact List.Sublist.refl _
  · exact List.nil_sublist _

theorem keys_parameterFields_sublist (step : Step) :
    (Entries.keys (parameterFields step)).Sublist ["method", "paramKey"] := by
  unfold parameterFields
  split
  · exact List.Sublist.refl _
  · split
    · exact (keys_given_sublist "paramKey" step.paramKey).cons "method"
    · exact List.nil_sublist _

theorem keys_conditionFields_sublist (step : Step) :
    (Entries.keys (conditionFields step)).Sublist ["operator", "true", "false"] := by
  unfold conditionFields
  split
  · exact List.Sublist.refl _
  · exact List.nil_sublist _

/-- The fields of a legacy body come in one order. -/
theorem keys_legacyBody_sublist (step : Step) :
    (Entries.keys (legacyBody step)).Sublist ["action", "target", "method", "paramKey", "next",
      "operator", "true", "false", "timeout", "paramValue", "controlType"] := by
  have htimeout : (Entries.keys (if step.action = "waitFor" then given "timeout" step.timeout
      else [])).Sublist ["timeout"] := by
    split
    · exact keys_given_sublist _ _
    · exact List.nil_sublist _
  have hvalue : (Entries.keys (if step.paramValue.isNull then []
      else [("paramValue", step.paramValue)])).Sublist ["paramValue"] := by
    split
    · exact List.nil_sublist _
    · exact List.Sublist.refl _
  simp only [legacyBody, Entries.keys_append]
  have hfront := (List.Sublist.refl ["action"]).append (keys_given_sublist "target"
    (.ofOption (StepMap.expectedTarget? step)))
  have hlinks := ((hfront.append (keys_parameterFields_sublist step)).append
    (keys_given_sublist "next" step.next)).append (keys_conditionFields_sublist step)
  exact ((hlinks.append htimeout).append hvalue).append
    (keys_given_sublist "controlType" (.ofOption step.kind))

/-- The body of a legacy step with an action of a flow is canonical. -/
theorem canonical_legacyBody (h : step.action ∈ Action.flowActions) :
    Canonical (legacyBody step) := by
  have hkeys := keys_legacyBody_sublist step
  have hn : (Entries.keys (legacyBody step)).Nodup := hkeys.nodup (by decide)
  have hid : "id" ∉ Entries.keys (legacyBody step) := fun hmem =>
    absurd (hkeys.subset hmem) (by decide)
  obtain ⟨rest, hbody⟩ : ∃ rest, legacyBody step = ("action", .str step.action) :: rest :=
    ⟨_, rfl⟩
  rw [hbody] at hn hid ⊢
  obtain ⟨hfresh, hrest⟩ := List.nodup_cons.1 hn
  exact Body.canonical_cons (Action.normalize_of_mem h) hrest
    (fun hmem => hid (List.mem_cons_of_mem _ hmem)) hfresh

/-! ## Reading a flow again -/

/-- Canonical steps are carried over as they are. -/
theorem carriedBody_of_canonical {body : Body} (h : Canonical body) (id : String) :
    carriedBody (Recording.carriedStep id body) = body := by
  have hcarried : carriedBody (Recording.carriedStep id body) = Body.ofRecord body :=
    carriedBody_of_record (Recording.action_carriedStep id body) rfl h.nodup
  rw [hcarried, h.ofRecord_eq]

/-! ## Names of targets -/

section Names

variable (naming : Alias.Naming) {t : Transaction}

theorem carriedBody_nameStep (step : Step) :
    carriedBody (naming.nameStep step) = carriedBody step := by
  obtain ⟨name, e⟩ := naming.nameStep_eq step
  rw [e]
  rfl

theorem add_nameStep (g : Grouped) (step : Step) :
    g.add (naming.nameStep step) = g.add step := by
  obtain ⟨name, e⟩ := naming.nameStep_eq step
  rw [e]
  rfl

/-- A flow of carried steps keeps the targets of its source. -/
theorem assemble_nameSteps (h : t.format ≠ .legacy) (created : Json) :
    assemble created (naming.nameSteps t) = assemble created t := by
  have hformat : (naming.nameSteps t).format = t.format := rfl
  have hsteps : (naming.nameSteps t).steps = t.steps.map naming.nameStep := rfl
  rw [assemble, assemble, hformat]
  cases hshape : t.format with
  | legacy => exact absurd hshape h
  | stepsOnly =>
    have hbodies : (naming.nameSteps t).steps.map (fun step => (step.id, carriedBody step)) =
        t.steps.map fun step => (step.id, carriedBody step) := by
      rw [hsteps, List.map_map]
      refine List.map_congr_left fun step _ => ?_
      simp only [Function.comp_apply, Alias.Naming.id_nameStep, carriedBody_nameStep]
    simp only [assembleStepsOnly, hbodies]
  | contextual =>
    have hgrouped : (naming.nameSteps t).steps.foldl Grouped.add {} =
        t.steps.foldl Grouped.add {} := by
      rw [hsteps, List.foldl_map]
      simp only [add_nameStep]
    simp only [assembleContextual, hgrouped]
    rfl

end Names

end Flow

end ReplayFlow
