import ReplayFlow.Proofs.Flow.Checks

/-!
Walks through a flow. A runner goes from step to step by their references, and a
reference stands for the step of that id, or else for the step of that name in
the same context (`Denotes`). Where the checks have nothing against a step, each
reference it goes on by is the end or stands for a step (`leadsOn_of_clean`), so
no walk through a flow without errors ends before an exit or the end
(`validate_never_strands`).
-/

namespace ReplayFlow.Flow

variable {all : List FlowStep} {step next : FlowStep} {found : List Violation}

/-! ## Walks -/

/-- The steps a reference at a step stands for. Steps of one id are all meant; the context
counts only where no step has the reference for its id. -/
inductive Denotes (all : List FlowStep) (step : FlowStep) (reference : String) : FlowStep → Prop
  | named {next : FlowStep} : next ∈ all → next.id = reference → Denotes all step reference next
  | sibling {next : FlowStep} {context : String} : (∀ other ∈ all, other.id ≠ reference) →
      step.context = some context → next ∈ all → next.id = context ++ "." ++ reference →
      Denotes all step reference next

/-- One move of a runner: by `next`, or by a branch of a condition, and never from an exit. -/
structure Moves (all : List FlowStep) (step next : FlowStep) : Prop where
  going : step.isExit = false
  reference : ∃ key ∈ Body.successorKeys step.body, ∃ reference,
    Entries.field step.body key = .str reference ∧ Denotes all step reference next

/-- A walk from any step, the step it has come to first. -/
inductive Walk (all : List FlowStep) : List FlowStep → Prop
  | start {step : FlowStep} : step ∈ all → Walk all [step]
  | move {step next : FlowStep} {before : List FlowStep} : Walk all (step :: before) →
      Moves all step next → Walk all (next :: step :: before)

theorem mem_of_denotes {reference : String} (h : Denotes all step reference next) :
    next ∈ all := by
  cases h with
  | named hmem _ => exact hmem
  | sibling _ _ hmem _ => exact hmem

theorem mem_of_walk {before : List FlowStep} (h : Walk all (step :: before)) : step ∈ all := by
  cases h with
  | start hmem => exact hmem
  | move _ hmoves =>
    obtain ⟨_, _, _, _, hdenotes⟩ := hmoves.reference
    exact mem_of_denotes hdenotes

/-- Whichever way a step goes on, it is to the end or to a step. -/
def LeadsOn (all : List FlowStep) (step : FlowStep) : Prop :=
  ∀ key ∈ Body.successorKeys step.body, ∃ reference,
    Entries.field step.body key = .str reference ∧
      (reference = endStep ∨ ∃ next, Denotes all step reference next)

/-! ## What the checks promise -/

/-- A reference that resolves is the end or stands for a step. -/
theorem denotes_of_linkResolves {link : Json}
    (h : linkResolves (all.map FlowStep.id) step.context link = true) :
    ∃ reference, link = .str reference ∧
      (reference = endStep ∨ ∃ next, Denotes all step reference next) := by
  cases link with
  | str reference =>
    refine ⟨reference, rfl, ?_⟩
    by_cases hid : reference ∈ all.map FlowStep.id
    · obtain ⟨next, hmem, hnext⟩ := List.mem_map.1 hid
      exact .inr ⟨next, .named hmem hnext⟩
    · simp only [linkResolves, Bool.or_eq_true, decide_eq_true_eq, hid, or_false] at h
      refine h.imp id fun hsibling => ?_
      have hfresh : ∀ other ∈ all, other.id ≠ reference :=
        fun other hmem e => hid (List.mem_map.2 ⟨other, hmem, e⟩)
      cases hcontext : step.context with
      | none => simp [hcontext] at hsibling
      | some context =>
        simp only [hcontext, decide_eq_true_eq] at hsibling
        obtain ⟨next, hmem, hnext⟩ := List.mem_map.1 hsibling
        exact ⟨next, .sibling hfresh hcontext hmem hnext⟩
  | _ => cases h

theorem mem_referenceKeys {body : Body} {key : String} (h : key ∈ Body.successorKeys body) :
    key ∈ referenceKeys := by
  unfold Body.successorKeys at h
  split at h
  · exact List.mem_cons_of_mem _ h
  · exact List.mem_singleton.1 h ▸ List.mem_cons_self ..

theorem isGiven_of_missingLinks (h : missingLinks step = []) {key : String}
    (hkey : key ∈ Body.successorKeys step.body) :
    (Entries.field step.body key).isGiven = true := by
  unfold Body.successorKeys at hkey
  unfold missingLinks at h
  by_cases hcondition : Body.hasAction step.body "condition" = true
  · simp only [if_pos hcondition, List.mem_cons, List.not_mem_nil, or_false] at h hkey
    rcases hkey with rfl | rfl <;> simp_all
  · simp only [if_neg hcondition, List.mem_singleton] at h hkey
    rw [hkey]
    simpa using h

theorem leadsOn_of_clean (hgoing : step.isExit = false)
    (h : stepViolations (all.map FlowStep.id) step = []) : LeadsOn all step := by
  rw [stepViolations, hgoing, if_neg (by decide), List.map_eq_nil_iff,
    List.append_eq_nil_iff] at h
  obtain ⟨hdangling, hmissing⟩ := h
  intro key hkey
  have hgiven := isGiven_of_missingLinks hmissing hkey
  have hlink := List.filterMap_eq_nil_iff.1 hdangling key (mem_referenceKeys hkey)
  have hnull : (Entries.field step.body key).isNull = false := by
    cases hfield : Entries.field step.body key with
    | null =>
      rw [hfield] at hgiven
      cases hgiven
    | _ => rfl
  simp only [hnull, Bool.false_or, ite_eq_left_iff, reduceCtorEq, imp_false,
    Bool.not_eq_true, Bool.not_eq_false] at hlink
  exact denotes_of_linkResolves hlink

/-- What is found at a step: references that name nothing, and references it lacks. -/
theorem mem_stepViolations {ids : List String} {v : Violation} (h : v ∈ stepViolations ids step) :
    v.step = step.id ∧ ((∃ key, linkResolves ids step.context (Entries.field step.body key) = false ∧
        v.defect = .danglingReference key (Entries.field step.body key).display) ∨
      v.defect = .missingBranch ∨ ∃ action, v.defect = .noSuccessor action) := by
  unfold stepViolations at h
  split at h
  · cases h
  · obtain ⟨defect, hdefect, rfl⟩ := List.mem_map.1 h
    refine ⟨rfl, ?_⟩
    rcases List.mem_append.1 hdefect with hdangling | hmissing
    · obtain ⟨key, _, hkey⟩ := List.mem_filterMap.1 hdangling
      dsimp only at hkey
      split at hkey
      · cases hkey
      · rename_i hlink
        cases hkey
        exact .inl ⟨key, by simp_all, rfl⟩
    · unfold missingLinks at hmissing
      dsimp only at hmissing
      split at hmissing <;> split at hmissing <;> simp_all

/-- Whatever is found at a step is an error. -/
theorem error_of_mem_stepViolations {ids : List String} {v : Violation}
    (h : v ∈ stepViolations ids step) : v.severity = "error" := by
  have herror : v.defect.isError = true := by
    rcases (mem_stepViolations h).2 with ⟨_, _, e⟩ | e | ⟨_, e⟩ <;> rw [e] <;> rfl
  rw [Violation.severity, herror, if_pos rfl]

theorem clean_of_no_error (h : ∀ v ∈ violationsOf all, v.severity ≠ "error")
    (hmem : step ∈ all) : stepViolations (all.map FlowStep.id) step = [] := by
  refine List.eq_nil_iff_forall_not_mem.2 fun v hv => ?_
  refine h v (List.mem_append_left _ (List.mem_flatMap.2 ⟨step, hmem, hv⟩)) ?_
  exact error_of_mem_stepViolations hv

/-- **A flow without errors strands no runner.** Wherever a walk has come to, it is at an exit,
or each way on is the end or leads to one more step. -/
theorem validate_never_strands {flow : Json} {entries : Entries Json}
    (hsteps : stepEntries? flow = some entries) :
    ∃ all found, steps flow = .ok all ∧ validate flow = .ok found ∧
      ((∀ v ∈ found, v.severity ≠ "error") → ∀ last before, Walk all (last :: before) →
        last ∈ all ∧ (last.isExit = true ∨ ∀ key ∈ Body.successorKeys last.body,
          ∃ reference, Entries.field last.body key = .str reference ∧
            (reference = endStep ∨ ∃ next, Denotes all last reference next ∧
              Walk all (next :: last :: before)))) := by
  have hall := steps_of_entries hsteps
  refine ⟨_, _, hall, validate_of_steps hall, ?_⟩
  intro hclean last before hwalk
  have hlast := mem_of_walk hwalk
  refine ⟨hlast, ?_⟩
  cases hexit : last.isExit with
  | true => exact .inl rfl
  | false =>
    refine .inr fun key hkey => ?_
    obtain ⟨reference, hfield, hleads⟩ :=
      leadsOn_of_clean hexit (clean_of_no_error hclean hlast) key hkey
    refine ⟨reference, hfield, hleads.imp id ?_⟩
    rintro ⟨next, hdenotes⟩
    exact ⟨next, hdenotes, hwalk.move ⟨hexit, key, hkey, reference, hfield, hdenotes⟩⟩

/-- Two steps of a context that name each other, a way back out of it, and an exit. -/
def retried : Json :=
  .obj [("steps", .obj [
    ("startTransaction", .obj [("action", .str "callProgram"), ("next", .str "order.fill")]),
    ("order", .obj [("fill", .obj [("action", .str "set"), ("next", .str "check")]),
      ("check", .obj [("action", .str "condition"), ("true", .str "startTransaction"),
        ("false", .str "stop")])]),
    ("stop", .obj [("action", .str "exit")])])]

theorem validate_never_strands_retried :
    ∃ all, steps retried = .ok all ∧
      all.map FlowStep.id = ["startTransaction", "order.fill", "order.check", "stop"] ∧
      ∀ last before, Walk all (last :: before) →
        last ∈ all ∧ (last.isExit = true ∨ ∀ key ∈ Body.successorKeys last.body,
          ∃ reference, Entries.field last.body key = .str reference ∧
            (reference = endStep ∨ ∃ next, Denotes all last reference next ∧
              Walk all (next :: last :: before))) := by
  have hsteps : ∃ entries, stepEntries? retried = some entries := ⟨_, rfl⟩
  obtain ⟨entries, hentries⟩ := hsteps
  obtain ⟨all, found, hall, hfound, hwalks⟩ := validate_never_strands hentries
  have hclean : validate retried = .ok [] := by rfl
  rw [hclean] at hfound
  cases hfound
  have hids : (steps retried).map (List.map FlowStep.id) =
      .ok ["startTransaction", "order.fill", "order.check", "stop"] := by rfl
  rw [hall] at hids
  refine ⟨all, hall, Except.ok.inj hids, hwalks ?_⟩
  intro v hv
  cases hv

end ReplayFlow.Flow
