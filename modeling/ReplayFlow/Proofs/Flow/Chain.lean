import ReplayFlow.Flow.Assembly
import ReplayFlow.Proofs.Flow.Checks
import ReplayFlow.Proofs.Flow.Relink

/-!
Linear chains of steps. A chain is a map in which each step goes on to the one
behind it and the last, named `end`, is the exit (`Chained`). Such a map needs
no repair (`settled_of_chained`); its flow is a linear chain to a reader of the
document (`linearChain_document`), and the checks on its graph find nothing
(`validate_document`).
-/

namespace ReplayFlow

namespace Flow

/-- Following `next` from the first of some steps visits all of them and stops at the last. -/
inductive Trail (flow : Json) : List String → Prop
  | stop {id : String} {body : Body} : bodyAt? flow id = some body →
      Entries.get? body "next" = none → Trail flow [id]
  | step {id next : String} {body : Body} {rest : List String} : bodyAt? flow id = some body →
      Entries.get? body "next" = some (.str next) → Trail flow (next :: rest) →
      Trail flow (id :: next :: rest)

/-- The flow has just these steps in this order, `next` leads through all of them once, only
`end` is an exit and only it has no `next`, and every reference names a step. -/
structure LinearChain (flow : Json) (ids : List String) : Prop where
  keys : (stepEntries? flow).map Entries.keys = some ids
  once : ids.Nodup
  trail : Trail flow ids
  exit_iff : ∀ id body, bodyAt? flow id = some body →
    (Body.isExit body = true ↔ id = endStep)
  last_iff : ∀ id body, bodyAt? flow id = some body →
    (Entries.get? body "next" = none ↔ id = endStep)
  closed : ∀ id body, bodyAt? flow id = some body → ∀ key ∈ referenceKeys, ∀ reference,
    Entries.get? body key = some reference → ∃ target ∈ ids, reference = .str target

end Flow

/-! ## Bodies of a chain -/

namespace Body

variable {body : Body} {next : String}

/-- A body that does something and goes on to one step. -/
structure GoesOn (body : Body) (next : String) : Prop where
  action : ∃ action, Entries.get? body "action" = some (.str action) ∧ action ≠ "exit" ∧
    action ≠ "condition"
  next : Entries.get? body "next" = some (.str next)
  noTrue : Entries.get? body "true" = none
  noFalse : Entries.get? body "false" = none

/-- A body that exits and goes nowhere. -/
structure Ends (body : Body) : Prop where
  action : Entries.get? body "action" = some (.str "exit")
  references : ∀ key ∈ referenceKeys, Entries.get? body key = none

theorem hasAction_of_get? {action : String} (h : Entries.get? body "action" = some (.str action))
    (other : String) : hasAction body other = decide (action = other) := by
  simp [hasAction, Entries.field, h, Json.string?]

namespace GoesOn

theorem not_isExit (h : GoesOn body next) : isExit body = false := by
  obtain ⟨action, hget, hne, _⟩ := h.action
  rw [isExit, hasAction_of_get? hget, decide_eq_false hne]

theorem not_condition (h : GoesOn body next) : hasAction body "condition" = false := by
  obtain ⟨action, hget, _, hne⟩ := h.action
  rw [hasAction_of_get? hget, decide_eq_false hne]

/-- Its only reference is `next`. -/
theorem reference (h : GoesOn body next) {key : String} (hkey : key ∈ referenceKeys) :
    (key = "next" ∧ Entries.field body key = .str next) ∨
      (key ≠ "next" ∧ Entries.get? body key = none) := by
  simp only [referenceKeys, List.mem_cons, List.not_mem_nil, or_false] at hkey
  rcases hkey with rfl | rfl | rfl
  · exact .inl ⟨rfl, by rw [Entries.field, h.next, Option.getD_some]⟩
  · exact .inr ⟨by decide, h.noTrue⟩
  · exact .inr ⟨by decide, h.noFalse⟩

end GoesOn

theorem Ends.isExit (h : Ends body) : isExit body = true := by
  rw [Body.isExit, hasAction_of_get? h.action, decide_eq_true rfl]

end Body

/-! ## Chains -/

namespace StepMap

open Body (GoesOn Ends)

/-- Each step but the last goes on to the one behind it, and the last is the end. -/
inductive Chained : Entries Body → Prop
  | exit {body : Body} : Ends body → Chained [(endStep, body)]
  | link {id : String} {body : Body} {next : String × Body} {rest : Entries Body} :
      GoesOn body next.1 → next.1 ≠ "" → Chained (next :: rest) →
      Chained ((id, body) :: next :: rest)

variable {es : Entries Body} {steps : StepMap}

theorem exists_end (h : Chained es) : ∃ body, (endStep, body) ∈ es ∧ Ends body := by
  induction h with
  | exit hends => exact ⟨_, List.mem_singleton_self _, hends⟩
  | link _ _ _ ih =>
    obtain ⟨body, hmem, hends⟩ := ih
    exact ⟨body, List.mem_cons_of_mem _ hmem, hends⟩

/-- A step of a chain is the end, or goes on to another step of the chain. -/
theorem chained_cases (h : Chained es) (hn : (Entries.keys es).Nodup) {entry : String × Body}
    (hmem : entry ∈ es) :
    (entry.1 = endStep ∧ Ends entry.2) ∨
      (entry.1 ≠ endStep ∧ ∃ next ∈ Entries.keys es, next ≠ "" ∧ GoesOn entry.2 next) := by
  induction h with
  | exit hends =>
    rw [List.mem_singleton] at hmem
    exact .inl ⟨congrArg Prod.fst hmem, hmem ▸ hends⟩
  | @link id body next rest hgoes hne htail ih =>
    obtain ⟨hfresh, hrest⟩ := List.nodup_cons.1 hn
    rcases List.mem_cons.1 hmem with rfl | hlater
    · refine .inr ⟨?_, next.1, by simp [Entries.keys], hne, hgoes⟩
      rintro (rfl : id = endStep)
      obtain ⟨body', hend, _⟩ := exists_end htail
      exact hfresh (Entries.mem_keys_of_mem hend)
    · rcases ih hrest hlater with hend | ⟨hne', next', hnext', hothers⟩
      · exact .inl hend
      · exact .inr ⟨hne', next', List.mem_cons_of_mem _ hnext', hothers⟩

theorem settled_of_chained (h : Chained steps.entries) :
    ∀ entry ∈ steps.entries, Body.Settled steps.keys entry.2 := by
  intro entry hmem
  rcases chained_cases h steps.nodup hmem with ⟨_, hends⟩ | ⟨_, next, hnext, hne, hgoes⟩
  · refine ⟨?_, .inl hends.isExit⟩
    intro key hkey hgiven
    rw [Entries.field, hends.references key hkey] at hgiven
    cases hgiven
  · refine ⟨?_, .inr ?_⟩
    · intro key hkey hgiven
      rcases hgoes.reference hkey with ⟨_, hfield⟩ | ⟨_, hnone⟩
      · have hmemKeys : next ∈ steps.keys := hnext
        simp [hfield, Body.resolves, hmemKeys]
      · rw [Entries.field, hnone] at hgiven
        cases hgiven
    · simp [Entries.field, hgoes.next, Json.isGiven, hne]

/-- Relinking leaves a chain of the parsed steps as it is. -/
theorem relink_of_chained {parsed : List Step} (h : Chained steps.entries)
    (hkept : ∀ step ∈ parsed, step.id ∈ steps.keys) : steps.relink parsed = ⟨steps, []⟩ := by
  obtain ⟨body, hmem, hends⟩ := exists_end h
  exact relink_eq_self hkept (settled_of_chained h) (OrderedMap.get?_eq_some_iff.2 hmem)
    hends.isExit

end StepMap

/-! ## The document of a chain -/

namespace Flow

open Body (GoesOn Ends)

open StepMap (Chained)

variable {steps : StepMap}

theorem trail_of_chained {flow : Json} {es : Entries Body} (h : Chained es)
    (hbody : ∀ entry ∈ es, bodyAt? flow entry.1 = some entry.2) :
    Trail flow (Entries.keys es) := by
  induction h with
  | exit hends =>
    exact .stop (hbody _ (List.mem_singleton_self _)) (hends.references _ (by decide))
  | link hgoes _ _ ih =>
    exact .step (hbody _ (List.mem_cons_self ..)) hgoes.next
      (ih fun entry hmem => hbody entry (List.mem_cons_of_mem _ hmem))

theorem linearChain_document (h : Chained steps.entries) (more : Entries Json) :
    LinearChain (documentOf steps more) steps.keys := by
  have hcases : ∀ {id body}, bodyAt? (documentOf steps more) id = some body →
      (id = endStep ∧ Ends body) ∨
        (id ≠ endStep ∧ ∃ next ∈ steps.keys, next ≠ "" ∧ GoesOn body next) := by
    intro id body hbody
    rw [bodyAt?_documentOf, OrderedMap.get?_eq_some_iff] at hbody
    exact StepMap.chained_cases h steps.nodup hbody
  refine ⟨?_, steps.nodup, ?_, ?_, ?_, ?_⟩
  · rw [stepEntries?_documentOf, Option.map_some, Entries.keys_mapValues]
    rfl
  · refine trail_of_chained h ?_
    intro entry hmem
    rw [bodyAt?_documentOf]
    exact OrderedMap.get?_eq_some_iff.2 hmem
  · intro id body hbody
    rcases hcases hbody with ⟨hid, hends⟩ | ⟨hid, next, _, _, hgoes⟩
    · simp [hid, hends.isExit]
    · simp [hid, hgoes.not_isExit]
  · intro id body hbody
    rcases hcases hbody with ⟨hid, hends⟩ | ⟨hid, next, _, _, hgoes⟩
    · simp [hid, hends.references "next" (by decide)]
    · simp [hid, hgoes.next]
  · intro id body hbody key hkey reference hget
    rcases hcases hbody with ⟨_, hends⟩ | ⟨_, next, hnext, _, hgoes⟩
    · rw [hends.references key hkey] at hget
      cases hget
    · rcases hgoes.reference hkey with ⟨_, hfield⟩ | ⟨_, hnone⟩
      · rw [Entries.field, hget, Option.getD_some] at hfield
        exact ⟨next, hnext, hfield⟩
      · rw [hnone] at hget
        cases hget

/-! ## The checks on a chain -/

theorem passes_of_chained (h : Chained steps.entries) :
    ∀ entry ∈ steps.entries, Body.Passes steps.keys entry.2 := by
  intro entry hmem
  rcases StepMap.chained_cases h steps.nodup hmem with ⟨_, hends⟩ | ⟨_, next, hnext, hne, hgoes⟩
  · exact Body.passes_of_isExit hends.isExit
  · have hkey : next ∈ steps.keys := hnext
    obtain ⟨action, haction, _⟩ := hgoes.action
    refine ⟨by rw [Entries.contains, haction, Option.isSome_some], fun _ => ?_, fun _ => ?_⟩
    · intro key hreference
      rcases hgoes.reference hreference with ⟨_, hfield⟩ | ⟨_, hnone⟩
      · simp [hfield, Body.resolves, hkey]
      · exact .inl (by rw [Entries.field, hnone, Option.getD_none])
    · simp [Body.successorKeys, hgoes.not_condition, Entries.field, hgoes.next, Json.isGiven, hne]

theorem exits_of_chained {es : Entries Body} (h : Chained es) :
    Entries.keys (es.filter fun entry => Body.isExit entry.2) = [endStep] := by
  induction h with
  | exit hends => simp [Entries.keys, hends.isExit]
  | @link id body next rest hgoes _ _ ih =>
    rw [List.filter_cons_of_neg (by simp [hgoes.not_isExit]), ih]

/-- **The checks find nothing in a chain.** -/
theorem validate_document (h : Chained steps.entries) (more : Entries Json) :
    validate (documentOf steps more) = .ok [] := by
  rw [validate_documentOf (passes_of_chained h), exitIds_documentOf, exits_of_chained h]
  rfl

end Flow

end ReplayFlow
