import ReplayFlow.Flow.Relink
import ReplayFlow.Proofs.Flow.Checks

/-!
Flows that relinking leaves alone. Steps that all keep their ids are matched
with themselves, so no reference is renamed (`rename_eq_self`). A map that ends
in an exit needs no repair if none of its bodies does, given the step behind it
(`repair_of_stable`): so it is where every reference names a step and every step
but an exit has a successor (`repair_eq_self`).
-/

namespace ReplayFlow

namespace Body

variable {ids : List String} {body : Body}

/-- A body that needs no repair among steps with some ids. -/
structure Settled (ids : List String) (body : Body) : Prop where
  references : ∀ key ∈ referenceKeys, (Entries.field body key).isGiven = true →
    resolves ids (Entries.field body key) = true
  successor : isExit body = true ∨ (Entries.field body "next").isGiven = true

theorem repairReferences_of_resolves {keys : List String}
    (h : ∀ key ∈ keys, (Entries.field body key).isGiven = true →
      resolves ids (Entries.field body key) = true) (step following : String) :
    repairReferences ids step following body keys = (body, []) := by
  induction keys with
  | nil => rfl
  | cons key rest ih =>
    have hkey : repairReference ids step following body key = (body, []) := by
      have hresolves := h key (List.mem_cons_self ..)
      unfold repairReference
      dsimp only
      split
      · rename_i hbroken
        simp only [Bool.and_eq_true, Bool.not_eq_true'] at hbroken
        rw [hresolves hbroken.1] at hbroken
        cases hbroken.2
      · rfl
    rw [repairReferences, hkey]
    simp only [ih fun key hmem => h key (List.mem_cons_of_mem _ hmem), List.append_nil]

/-- A body is left alone whose references name steps, if it has a successor or is not changed by
the one it would get. -/
theorem repair_eq_self {following : String}
    (hlinks : ∀ key ∈ referenceKeys, (Entries.field body key).isGiven = true →
      resolves ids (Entries.field body key) = true)
    (hnext : isExit body = true ∨ (Entries.field body "next").isGiven = true ∨
      Entries.get? body "next" = some (.str following)) (step : String) :
    repair ids step following body = (body, []) := by
  have hkept : ensureNext following body = body := by
    unfold ensureNext
    rcases hnext with hexit | hgiven | hsame
    · simp [hexit]
    · simp [hgiven]
    · rw [Entries.insert_of_get? hsame, ite_self]
  rw [repair, repairReferences_of_resolves hlinks]
  simp only [hkept]

theorem repair_of_settled (h : Settled ids body) (step following : String) :
    repair ids step following body = (body, []) :=
  repair_eq_self h.references (h.successor.imp id .inl) step

end Body

namespace StepMap

variable {steps output : StepMap} {parsed : List Step} {mapping : OrderedMap String}

/-! ## Repair -/

/-- A map passes whose references are no arrays or objects. -/
theorem check_of_forall
    (h : ∀ entry ∈ steps.entries, Body.hasContainerReference entry.2 = false) :
    steps.check = .ok () := by
  have hnone : steps.values.any Body.hasContainerReference = false := by
    refine List.any_eq_false.2 ?_
    intro body hbody
    obtain ⟨entry, hentry, rfl⟩ := List.mem_map.1 hbody
    simp [h entry hentry]
  rw [check, hnone]
  rfl

/-- The step behind the one at a place, or the end. -/
def following (ids : List String) (i : Nat) : String := ids[i + 1]?.getD endStep

theorem following_zero (es : Entries Body) (entry : String × Body) :
    (es.head?.map Prod.fst).getD endStep = following (Entries.keys (entry :: es)) 0 := by
  cases es <;> rfl

theorem repairSteps_of_stable {ids : List String} {es : Entries Body}
    (h : ∀ i entry, es[i]? = some entry →
      Body.repair ids entry.1 (following (Entries.keys es) i) entry.2 = (entry.2, [])) :
    repairSteps ids es = (es, []) := by
  induction es with
  | nil => rfl
  | cons entry rest ih =>
    rw [repairSteps, following_zero rest entry, h 0 entry rfl,
      ih fun i other hother => h (i + 1) other hother]
    rfl

/-- A map that ends in an exit is left alone if each of its bodies is, with the step behind it
to go on to. -/
theorem repair_of_stable (h : ∀ i entry, steps.entries[i]? = some entry →
      Body.repair steps.keys entry.1 (following steps.keys i) entry.2 = (entry.2, []))
    {exit : Body} (hend : steps.get? endStep = some exit) (hexit : Body.isExit exit = true) :
    steps.repair = ⟨steps, []⟩ := by
  have hsteps : repairSteps steps.keys steps.entries = (steps.entries, []) :=
    repairSteps_of_stable h
  have hclose : close steps = ⟨steps, []⟩ := by
    simp only [close, hend, hexit, if_true]
  simp only [repair, hsteps, hclose, List.append_nil]

theorem repair_eq_self (h : ∀ entry ∈ steps.entries, Body.Settled steps.keys entry.2)
    {exit : Body} (hend : steps.get? endStep = some exit) (hexit : Body.isExit exit = true) :
    steps.repair = ⟨steps, []⟩ := by
  refine repair_of_stable ?_ hend hexit
  intro i entry hentry
  exact Body.repair_of_settled (h entry (List.mem_of_getElem? hentry)) _ _

/-! ## Matching -/

/-- Every id is matched with itself. -/
def KeepsIds (mapping : OrderedMap String) : Prop :=
  ∀ key id, mapping.get? key = some id → id = key

theorem get?_foldl_matchKept {β : Type} (output : OrderedMap β) (parsed : List Step)
    (mapping : OrderedMap String) (id : String) :
    (parsed.foldl (matchKept output) mapping).get? id =
      if id ∈ parsed.map Step.id ∧ id ∈ output.keys then some id else mapping.get? id := by
  induction parsed generalizing mapping with
  | nil => simp
  | cons step rest ih =>
    have hstep : (matchKept output mapping step).get? id =
        if step.id = id ∧ id ∈ output.keys then some id else mapping.get? id := by
      unfold matchKept
      split
      · rename_i hkept
        rw [OrderedMap.contains_iff] at hkept
        rw [OrderedMap.get?_insert]
        by_cases hid : step.id = id
        · rw [if_pos hid, if_pos ⟨hid, hid ▸ hkept⟩, hid]
        · rw [if_neg hid, if_neg fun h => hid h.1]
      · rename_i hmoved
        rw [OrderedMap.contains_iff] at hmoved
        refine (if_neg ?_).symm
        rintro ⟨rfl, hkept⟩
        exact hmoved hkept
    rw [List.foldl_cons, ih, hstep]
    by_cases hid : step.id = id
    · by_cases hkept : id ∈ output.keys <;> simp [hid, hkept]
    · simp [hid, Ne.symm hid]

theorem foldl_matchMoved_eq_self (h : ∀ step ∈ parsed, step.id ∈ mapping.keys) :
    parsed.foldl (matchMoved fits output) mapping = mapping := by
  induction parsed with
  | nil => rfl
  | cons step rest ih =>
    have hstep : matchMoved fits output mapping step = mapping := by
      rw [matchMoved, if_pos (OrderedMap.contains_iff.2 (h step (List.mem_cons_self ..)))]
    rw [List.foldl_cons, hstep, ih fun other hmem => h other (List.mem_cons_of_mem _ hmem)]

theorem keepsIds_idMapping (h : ∀ step ∈ parsed, step.id ∈ output.keys) :
    KeepsIds (idMapping output parsed) := by
  have hmatched : ∀ step ∈ parsed, step.id ∈ (parsed.foldl (matchKept output) ∅).keys := by
    intro step hstep
    have hget : (parsed.foldl (matchKept output) ∅).get? step.id = some step.id := by
      rw [get?_foldl_matchKept, if_pos ⟨List.mem_map_of_mem hstep, h step hstep⟩]
    exact OrderedMap.mem_keys_of_get? hget
  intro key id hget
  rw [idMapping, idMappingBy, foldl_matchMoved_eq_self hmatched, get?_foldl_matchKept] at hget
  split at hget
  · exact (Option.some.inj hget).symm
  · cases hget

/-! ## Renaming -/

theorem renameReference_eq_self (h : KeepsIds mapping) (body : Body) (key : String) :
    renameReference mapping body key = body := by
  unfold renameReference
  split
  · rename_i reference hfield
    split
    · rfl
    · split
      · rename_i id hget
        rw [h reference id hget, Entries.insert_of_get? (Body.get?_of_field hfield)]
      · rfl
  · rfl

theorem rename_eq_self (h : KeepsIds mapping) (steps : StepMap) : rename mapping steps = steps := by
  have hbody : ∀ body : Body, referenceKeys.foldl (renameReference mapping) body = body := by
    intro body
    simp only [referenceKeys, List.foldl_cons, List.foldl_nil, renameReference_eq_self h]
  apply OrderedMap.ext
  simp [rename, OrderedMap.mapValues, Entries.mapValues, hbody]

/-- Steps that keep their ids in a map that needs no repair are left as they are. -/
theorem relink_eq_self (hkept : ∀ step ∈ parsed, step.id ∈ output.keys)
    (hsettled : ∀ entry ∈ output.entries, Body.Settled output.keys entry.2) {exit : Body}
    (hend : output.get? endStep = some exit) (hexit : Body.isExit exit = true) :
    output.relink parsed = ⟨output, []⟩ := by
  rw [relink, rename_eq_self (keepsIds_idMapping hkept), repair_eq_self hsettled hend hexit]

end StepMap

end ReplayFlow
