import ReplayFlow.Flow.Graph
import ReplayFlow.Flow.StepMap
import ReplayFlow.Proofs.Data.OrderedMap

/-!
The checks on the document of a step map. A body passes when its references are
null or name a step and it has its successors (`Body.Passes`); in a map of such
bodies only the number of exits can be wrong (`Flow.validate_documentOf`).
-/

namespace ReplayFlow

theorem Json.object?_eq_some_iff {v : Json} {fields : Entries Json} :
    v.object? = some fields ↔ v = .obj fields := by
  cases v <;> simp [object?]

theorem Json.string?_eq_some_iff {v : Json} {s : String} : v.string? = some s ↔ v = .str s := by
  cases v <;> simp [string?]

theorem Json.isNull_eq_false_iff {v : Json} : v.isNull = false ↔ v ≠ .null := by
  cases v <;> simp [isNull]

namespace Flow

/-! ## Reading a flow document -/

/-- The steps of a flow document by their ids. -/
def stepEntries? (flow : Json) : Option (Entries Json) :=
  flow.object?.bind fun fields => (Entries.field fields "steps").object?

theorem stepEntries?_eq_some_iff {flow : Json} {entries : Entries Json} :
    stepEntries? flow = some entries ↔
      ∃ fields, flow = .obj fields ∧ Entries.field fields "steps" = .obj entries := by
  constructor
  · intro h
    obtain ⟨fields, hflow, hsteps⟩ := Option.bind_eq_some_iff.1 h
    exact ⟨fields, Json.object?_eq_some_iff.1 hflow, Json.object?_eq_some_iff.1 hsteps⟩
  · rintro ⟨fields, rfl, hsteps⟩
    exact congrArg Json.object? hsteps

/-- The fields of one step. -/
def bodyAt? (flow : Json) (id : String) : Option Body :=
  (stepEntries? flow).bind fun entries => (Entries.get? entries id).bind Json.object?

/-- A flow document that starts with its steps. -/
def documentOf (steps : StepMap) (more : Entries Json) : Json :=
  .obj (("steps", steps.toJson) :: more)

variable {steps : StepMap} {more : Entries Json}

theorem stepEntries?_documentOf :
    stepEntries? (documentOf steps more) = some (Entries.mapValues .obj steps.entries) := rfl

theorem bodyAt?_documentOf (id : String) : bodyAt? (documentOf steps more) id = steps.get? id := by
  rw [bodyAt?, stepEntries?_documentOf, Option.bind_some, Entries.get?_mapValues, OrderedMap.get?]
  cases Entries.get? steps.entries id <;> rfl

/-- The exits of a flow document in order. -/
def exitIds (flow : Json) : List String :=
  Entries.keys (((stepEntries? flow).getD []).filter fun entry => entry.2.object?.any Body.isExit)

theorem exitIds_documentOf (steps : StepMap) (more : Entries Json) :
    exitIds (documentOf steps more) =
      Entries.keys (steps.entries.filter fun entry => Body.isExit entry.2) := by
  rw [exitIds, stepEntries?_documentOf, Option.getD_some, Entries.mapValues, List.filter_map,
    Entries.keys, Entries.keys, List.map_map]
  rfl

end Flow

/-! ## Bodies that pass -/

namespace Body

variable {ids more : List String} {body : Body}

/-- The fields a body goes on by: the branches of a condition, `next` of any other. -/
def successorKeys (body : Body) : List String :=
  if hasAction body "condition" then ["true", "false"] else ["next"]

/-- A body the checks have nothing against among steps with some ids. -/
structure Passes (ids : List String) (body : Body) : Prop where
  action : Entries.contains body "action" = true
  references : isExit body = false → ∀ key ∈ referenceKeys,
    Entries.field body key = .null ∨ resolves ids (Entries.field body key) = true
  successors : isExit body = false → ∀ key ∈ successorKeys body,
    (Entries.field body key).isGiven = true

/-- A field that holds a text is there. -/
theorem get?_of_field {key text : String} (h : Entries.field body key = .str text) :
    Entries.get? body key = some (.str text) := by
  cases hvalue : Entries.get? body key with
  | none =>
    rw [Entries.field, hvalue] at h
    cases h
  | some value => rw [← h, Entries.field, hvalue, Option.getD_some]

theorem field_eq_str_iff {key text : String} :
    Entries.field body key = .str text ↔ Entries.get? body key = some (.str text) :=
  ⟨get?_of_field, fun h => by rw [Entries.field, h, Option.getD_some]⟩

theorem contains_of_field {key text : String} (h : Entries.field body key = .str text) :
    Entries.contains body key = true := by
  rw [Entries.contains, get?_of_field h, Option.isSome_some]

theorem get?_of_isExit (h : isExit body = true) :
    Entries.get? body "action" = some (.str "exit") := by
  rw [isExit, hasAction, decide_eq_true_eq, Json.string?_eq_some_iff] at h
  exact get?_of_field h

theorem passes_of_isExit (h : isExit body = true) : Passes ids body := by
  refine ⟨?_, by simp [h], by simp [h]⟩
  rw [Entries.contains, get?_of_isExit h, Option.isSome_some]

theorem resolves_mono (h : ids ⊆ more) {reference : Json} (hr : resolves ids reference = true) :
    resolves more reference = true := by
  cases reference with
  | str s =>
    simp only [resolves, Bool.or_eq_true, decide_eq_true_eq] at hr ⊢
    exact hr.imp id fun hs => h hs
  | _ => cases hr

theorem Passes.mono (h : ids ⊆ more) (hp : Passes ids body) : Passes more body :=
  ⟨hp.action, fun hexit key hkey => (hp.references hexit key hkey).imp id (resolves_mono h),
    hp.successors⟩

end Body

/-! ## The checks -/

namespace Flow

variable {steps : StepMap} {more : Entries Json} {ids : List String}

def stepOf (entry : String × Body) : FlowStep := ⟨entry.1, none, entry.2⟩

theorem map_id_stepOf (es : Entries Body) : (es.map stepOf).map FlowStep.id = Entries.keys es := by
  rw [List.map_map]
  rfl

theorem flatMap_stepsAt {es : Entries Body}
    (h : ∀ entry ∈ es, Entries.contains entry.2 "action" = true) :
    (Entries.mapValues Json.obj es).flatMap stepsAt = es.map stepOf := by
  induction es with
  | nil => rfl
  | cons entry rest ih =>
    have hentry : stepsAt (entry.1, .obj entry.2) = [stepOf entry] := by
      simp [stepsAt, stepBody?, h entry (List.mem_cons_self ..), stepOf]
    have hrest := ih fun other hmem => h other (List.mem_cons_of_mem _ hmem)
    rw [Entries.mapValues] at hrest ⊢
    rw [List.map_cons, List.flatMap_cons, hentry, hrest, List.map_cons, List.singleton_append]

/-- A document with an object of steps is read to its end. -/
theorem steps_of_entries {flow : Json} {entries : Entries Json}
    (h : stepEntries? flow = some entries) : Flow.steps flow = .ok (entries.flatMap stepsAt) := by
  obtain ⟨fields, rfl, hfield⟩ := stepEntries?_eq_some_iff.1 h
  have hgiven : (Json.obj entries).orElse (.obj []) = .obj entries := by
    cases entries <;> rfl
  simp only [Flow.steps, hfield, hgiven]

theorem validate_of_steps {flow : Json} {all : List FlowStep} (h : Flow.steps flow = .ok all) :
    validate flow = .ok (violationsOf all) := by
  rw [validate, h]
  rfl

theorem steps_documentOf
    (h : ∀ entry ∈ steps.entries, Entries.contains entry.2 "action" = true) :
    Flow.steps (documentOf steps more) = .ok (steps.entries.map stepOf) := by
  rw [steps_of_entries stepEntries?_documentOf, flatMap_stepsAt h]

theorem exits_stepOf (es : Entries Body) :
    ((es.map stepOf).filter FlowStep.isExit).map FlowStep.id =
      Entries.keys (es.filter fun entry => Body.isExit entry.2) := by
  rw [List.filter_map, map_id_stepOf]
  rfl

theorem linkResolves_eq_resolves (reference : Json) :
    linkResolves ids none reference = Body.resolves ids reference := by
  cases reference <;> simp [linkResolves, Body.resolves]

theorem stepViolations_of_passes {entry : String × Body} (h : Body.Passes ids entry.2) :
    stepViolations ids (stepOf entry) = [] := by
  cases hexit : Body.isExit entry.2
  · have hdangling : danglingLinks ids (stepOf entry) = [] := by
      refine List.filterMap_eq_nil_iff.2 ?_
      intro key hkey
      rcases h.references hexit key hkey with hnull | hresolves
      · simp [stepOf, hnull, Json.isNull]
      · simp [stepOf, linkResolves_eq_resolves, hresolves]
    have hmissing : missingLinks (stepOf entry) = [] := by
      have hgiven := h.successors hexit
      rw [Body.successorKeys] at hgiven
      by_cases hcondition : Body.hasAction entry.2 "condition" = true
      · rw [if_pos hcondition] at hgiven
        simp [missingLinks, stepOf, hcondition, hgiven "true" (by simp), hgiven "false" (by simp)]
      · rw [if_neg hcondition] at hgiven
        simp [missingLinks, stepOf, hcondition, hgiven "next" (by simp)]
    rw [stepViolations, hdangling, hmissing]
    simp
  · rw [stepViolations, FlowStep.isExit, stepOf, hexit, if_pos rfl]

/-- Where every body passes, the exits are all there is to find. -/
theorem validate_documentOf (h : ∀ entry ∈ steps.entries, Body.Passes steps.keys entry.2) :
    validate (documentOf steps more) =
      .ok (exitViolations (exitIds (documentOf steps more))) := by
  have hsteps : ∀ step ∈ steps.entries.map stepOf, stepViolations steps.keys step = [] := by
    intro step hmem
    obtain ⟨entry, hentry, rfl⟩ := List.mem_map.1 hmem
    exact stepViolations_of_passes (h entry hentry)
  rw [validate_of_steps (steps_documentOf fun entry hmem => (h entry hmem).action),
    violationsOf, map_id_stepOf, ← OrderedMap.keys, List.flatMap_eq_nil_iff.2 hsteps,
    exits_stepOf, exitIds_documentOf, List.nil_append]

end Flow

end ReplayFlow
