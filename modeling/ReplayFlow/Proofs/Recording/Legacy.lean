import ReplayFlow.Proofs.Recording.Registry
import ReplayFlow.Proofs.Text.Basic

/-!
The steps of a legacy recording. Between a start and an end there is one step
for each group of events, numbered from one (`steps_legacyTransaction`); each
step goes on to the one behind it, whatever the events are
(`linked_legacyTransaction`).
-/

namespace ReplayFlow

namespace Recording

/-- The ids of a chain with a number of steps between start and end. -/
def chainIds (count : Nat) : List String :=
  startStep :: ((List.range count).map fun i => "step" ++ toString (i + 1)) ++ [endStep]

theorem numbered_ne_startStep (i : Nat) : "step" ++ toString i ≠ startStep := by
  intro e
  have hlist := congrArg String.toList e
  simp [startStep] at hlist

theorem numbered_ne_endStep (i : Nat) : "step" ++ toString i ≠ endStep := by
  intro e
  have hlist := congrArg String.toList e
  simp [endStep] at hlist

theorem numbered_ne_empty (i : Nat) : "step" ++ toString i ≠ "" := by
  intro e
  exact absurd (String.append_eq_empty_iff.1 e).1 (by decide)

theorem nodup_chainIds (count : Nat) : (chainIds count).Nodup := by
  have hnumbered : ((List.range count).map fun i => "step" ++ toString (i + 1)).Nodup := by
    refine List.Pairwise.map _ ?_ List.nodup_range
    intro i j hne e
    rw [String.append_right_inj, Text.toString_inj] at e
    omega
  rw [chainIds, List.cons_append]
  refine List.nodup_cons.2 ⟨?_, List.nodup_append.2 ⟨hnumbered, by simp, ?_⟩⟩
  · intro hmem
    rcases List.mem_append.1 hmem with hmem | hmem
    · obtain ⟨i, _, e⟩ := List.mem_map.1 hmem
      exact numbered_ne_startStep _ e
    · exact absurd hmem (by decide)
  · intro id hid id' hid' e
    obtain ⟨i, _, e'⟩ := List.mem_map.1 hid
    rw [List.mem_singleton] at hid'
    exact numbered_ne_endStep _ (e'.trans (e.trans hid'))

/-! ## One group -/

section Group

variable (e : Event) (index : Nat) (next : String)

/-- What is typed in decides only the parameter of a step. -/
theorem legacyStep_eq :
    ∃ key value isCheckbox, legacyStep e index next =
      { id := "step" ++ toString index
        action := (Action.recorded? e.action).getD "click"
        target := e.controlId.string?
        next := .str next
        kind := e.controlType.string?
        paramKey := key
        paramValue := value
        isCheckbox } := by
  unfold legacyStep
  dsimp only
  split
  · exact ⟨_, _, _, rfl⟩
  · split <;> exact ⟨_, _, _, rfl⟩

theorem id_legacyStep : (legacyStep e index next).id = "step" ++ toString index := by
  obtain ⟨_, _, _, h⟩ := legacyStep_eq e index next
  rw [h]

theorem action_legacyStep :
    (legacyStep e index next).action = (Action.recorded? e.action).getD "click" := by
  obtain ⟨_, _, _, h⟩ := legacyStep_eq e index next
  rw [h]

theorem target_legacyStep : (legacyStep e index next).target = e.controlId.string? := by
  obtain ⟨_, _, _, h⟩ := legacyStep_eq e index next
  rw [h]

theorem kind_legacyStep : (legacyStep e index next).kind = e.controlType.string? := by
  obtain ⟨_, _, _, h⟩ := legacyStep_eq e index next
  rw [h]

theorem next_legacyStep : (legacyStep e index next).next = .str next := by
  obtain ⟨_, _, _, h⟩ := legacyStep_eq e index next
  rw [h]

end Group

theorem recorded?_getD (action : String) :
    (Action.recorded? action).getD "click" = "click" ∨
      (Action.recorded? action).getD "click" = "set" := by
  unfold Action.recorded?
  split <;> simp

/-- A group works on the control that its events name by a control path. -/
theorem control?_legacyStep {e : Event} {path : String} (hcontrol : e.controlId = .str path)
    (hpath : Alias.IsRooted path) (index : Nat) (next : String) :
    (legacyStep e index next).control? = some path := by
  rw [Step.control?_eq_some_iff, target_legacyStep, action_legacyStep, hcontrol]
  exact ⟨rfl, recorded?_getD e.action, hpath⟩

/-! ## The chain -/

/-- Each step but the last goes on to the one behind it, and the last is the exit. -/
inductive Linked : List Step → Prop
  | exit {step : Step} : step.id = endStep → step.action = "exit" → step.next = .null →
      Linked [step]
  | link {step next : Step} {rest : List Step} : step.action ≠ "exit" →
      step.action ≠ "condition" → step.next = .str next.id → next.id ≠ "" →
      Linked (next :: rest) → Linked (step :: next :: rest)

/-- The steps of groups that are numbered on from an index. -/
def groupSteps (index : Nat) : List Event → List Step
  | [] => []
  | e :: rest =>
    legacyStep e index (if rest.isEmpty then endStep else "step" ++ toString (index + 1)) ::
      groupSteps (index + 1) rest

def exitStep : Step := { id := endStep, action := "exit" }

theorem steps_addLegacySteps (t : Transaction) (index : Nat) (groups : List Event) :
    (addLegacySteps t index groups).steps = t.steps ++ groupSteps index groups := by
  induction groups generalizing t index with
  | nil => simp [addLegacySteps, groupSteps]
  | cons e rest ih => simp [addLegacySteps, groupSteps, ih, Transaction.steps_addStep]

theorem steps_legacyTransaction (tcode : String) (events : List Json) :
    (legacyTransaction tcode events).steps =
      Step.start (if (Event.groupsOf events).isEmpty then endStep else "step1") ::
        (groupSteps 1 (Event.groupsOf events) ++ [exitStep]) := by
  have hkinds := Transaction.sameSteps_addKinds { tcode, format := .legacy }
    (events.map eventKind?)
  simp only [legacyTransaction, Transaction.steps_addStep, steps_addLegacySteps, hkinds.steps]
  rfl

theorem ids_groupSteps (index : Nat) (groups : List Event) :
    (groupSteps index groups).map Step.id =
      (List.range groups.length).map fun i => "step" ++ toString (i + index) := by
  induction groups generalizing index with
  | nil => rfl
  | cons e rest ih =>
    rw [groupSteps, List.map_cons, ih, id_legacyStep, List.length_cons, List.range_succ_eq_map,
      List.map_cons, List.map_map, Nat.zero_add]
    simp only [Function.comp_def, Nat.succ_eq_add_one, Nat.add_assoc, Nat.add_comm 1]

theorem ids_legacyTransaction (tcode : String) (events : List Json) :
    (legacyTransaction tcode events).steps.map Step.id =
      chainIds (Event.groupsOf events).length := by
  rw [steps_legacyTransaction, List.map_cons, List.map_append, ids_groupSteps]
  rfl

theorem linked_groupSteps (index : Nat) (groups : List Event) :
    Linked (groupSteps index groups ++ [exitStep]) := by
  have haction : ∀ e index next, (legacyStep e index next).action ≠ "exit" ∧
      (legacyStep e index next).action ≠ "condition" := by
    intro e index next
    rw [action_legacyStep]
    rcases recorded?_getD e.action with h | h <;> rw [h] <;> decide
  induction groups generalizing index with
  | nil => exact .exit rfl rfl rfl
  | cons e rest ih =>
    have hrest := ih (index + 1)
    cases rest with
    | nil =>
      refine .link (haction e _ _).1 (haction e _ _).2 ?_ (by decide) hrest
      rw [next_legacyStep]
      rfl
    | cons e' more =>
      refine .link (haction e _ _).1 (haction e _ _).2 ?_ ?_ hrest
      · rw [next_legacyStep, id_legacyStep]
        rfl
      · rw [id_legacyStep]
        exact numbered_ne_empty _

/-- **The chain.** Whatever was recorded, each step goes on to the one behind it. -/
theorem linked_legacyTransaction (tcode : String) (events : List Json) :
    Linked (legacyTransaction tcode events).steps := by
  have hgroups := linked_groupSteps 1 (Event.groupsOf events)
  have hstart : ∀ next, (Step.start next).action ≠ "exit" ∧
      (Step.start next).action ≠ "condition" := fun next => by simp [Step.start]
  rw [steps_legacyTransaction]
  cases hevents : Event.groupsOf events with
  | nil => exact .link (hstart _).1 (hstart _).2 rfl (by decide) (.exit rfl rfl rfl)
  | cons e rest =>
    rw [hevents] at hgroups
    refine .link (hstart _).1 (hstart _).2 ?_ ?_ hgroups
    · rw [id_legacyStep]
      rfl
    · rw [id_legacyStep]
      exact numbered_ne_empty _

theorem exists_group_of_mem {groups : List Event} {index : Nat} {step : Step}
    (h : step ∈ groupSteps index groups) :
    ∃ k group next, groups[k]? = some group ∧ step = legacyStep group (k + index) next := by
  induction groups generalizing index with
  | nil => cases h
  | cons first rest ih =>
    rcases List.mem_cons.1 h with rfl | hrest
    · exact ⟨0, first, _, rfl, by rw [Nat.zero_add]⟩
    · obtain ⟨k, group, next, hgroup, rfl⟩ := ih hrest
      exact ⟨k + 1, group, next, hgroup, by rw [Nat.add_right_comm, Nat.add_assoc]⟩

/-- A step of a legacy recording is the start, the exit, or the step of a group. -/
theorem legacyTransaction_cases {tcode : String} {events : List Json} {step : Step}
    (h : step ∈ (legacyTransaction tcode events).steps) :
    (∃ next, step = Step.start next) ∨ step = exitStep ∨
      ∃ k group next, (Event.groupsOf events)[k]? = some group ∧
        step = legacyStep group (k + 1) next := by
  rw [steps_legacyTransaction] at h
  rcases List.mem_cons.1 h with hstart | hmore
  · exact .inl ⟨_, hstart⟩
  rcases List.mem_append.1 hmore with hgroup | hexit
  · exact .inr (.inr (exists_group_of_mem hgroup))
  · exact .inr (.inl (List.mem_singleton.1 hexit))

/-- Every step of a legacy recording has an action of a flow. -/
theorem action_legacyTransaction {tcode : String} {events : List Json} {step : Step}
    (h : step ∈ (legacyTransaction tcode events).steps) : step.action ∈ Action.flowActions := by
  rcases legacyTransaction_cases h with ⟨next, rfl⟩ | rfl | ⟨k, group, next, _, rfl⟩
  · exact (by decide : "callProgram" ∈ Action.flowActions)
  · exact (by decide : "exit" ∈ Action.flowActions)
  · rw [action_legacyStep]
    rcases recorded?_getD group.action with haction | haction <;> rw [haction] <;> decide

/-- The step of a group has the number of the group. -/
theorem mem_groupSteps {groups : List Event} {k : Nat} {e : Event} (h : groups[k]? = some e)
    (index : Nat) : ∃ next, legacyStep e (k + index) next ∈ groupSteps index groups := by
  induction groups generalizing k index with
  | nil => simp at h
  | cons first rest ih =>
    cases k with
    | zero =>
      rw [List.getElem?_cons_zero, Option.some.injEq] at h
      rw [h, Nat.zero_add]
      exact ⟨_, List.mem_cons_self ..⟩
    | succ k =>
      rw [List.getElem?_cons_succ] at h
      obtain ⟨next, hmem⟩ := ih h (index + 1)
      have hnumber : k + 1 + index = k + (index + 1) := by omega
      rw [hnumber]
      exact ⟨next, List.mem_cons_of_mem _ hmem⟩

end Recording

/-! ## From documents -/

theorem Entry.eq_analyze_of_transaction {e : Entry} {t : Transaction} (h : e.transaction = .ok t)
    (hformat : Format.detect e.document = .legacy) :
    ∃ code, t = (Recording.legacyTransaction code (Recording.legacyEvents e.document)).analyze := by
  obtain ⟨u, hu, rfl⟩ := transaction_eq_ok_iff.1 h
  have hnormalize : (Recording.ofDocument e.document e.tcode).normalize =
      Recording.normalizeLegacy e.document e.tcode := by
    simp [Recording.normalize, Recording.ofDocument, hformat]
  rw [hnormalize] at hu
  obtain ⟨code, rfl⟩ := Recording.normalizeLegacy_eq hu
  exact ⟨_, rfl⟩

/-- An accepted legacy recording is the chain of its events. -/
theorem Entry.legacy_of_transaction {e : Entry} {t : Transaction} (h : e.transaction = .ok t)
    (hformat : Format.detect e.document = .legacy) :
    ∃ code, (Recording.legacyTransaction code (Recording.legacyEvents e.document)).SameSteps t := by
  obtain ⟨code, rfl⟩ := eq_analyze_of_transaction h hformat
  exact ⟨_, Transaction.sameSteps_analyze _⟩

end ReplayFlow
