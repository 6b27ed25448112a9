import Mathlib.Logic.Function.Basic
import ReplayFlow.Proofs.Flow.Conservation

/-!
The matching of steps with the steps of a flow. It is made in rounds: in round 0
the ids that the flow keeps are matched with themselves, and in round `j + 1` a
flow step is searched for the step at place `j`, if its id is not matched by then.
`Matched` says what the rounds lead to, without their loop. It follows that no
flow step is matched with two ids (`Matched.injective`), and that an id which
names a flow step is matched with no other (`Matched.eq_of_mem`). So a reference
that names a flow step is not renamed, and relinking treats it as repair does
(`StepMap.idMapping_sound`).
-/

namespace ReplayFlow

namespace StepMap

/-! ## Rounds -/

section

variable {β : Type}

/-- An id that the flow keeps: a step to match has it, and so does a step of the flow. -/
def IsKept (output : OrderedMap β) (parsed : List Step) (id : String) : Prop :=
  id ∈ parsed.map Step.id ∧ id ∈ output.keys

/-- A flow step that is free in a round: no id was matched with it in an earlier one. -/
def IsFree (mapping : OrderedMap String) (round : String → Nat) (n : Nat) (key : String) : Prop :=
  ∀ id, mapping.get? id = some key → n ≤ round id

/-- The search for a step finds the first of the free flow steps that suits it. -/
def Finds (suits : Step → β → Prop) (output : OrderedMap β) (free : String → Prop) (step : Step)
    (key : String) : Prop :=
  ∃ before value after, output.entries = before ++ (key, value) :: after ∧
    suits step value ∧ free key ∧ ∀ entry ∈ before, suits step entry.2 → ¬free entry.1

/-- The search for a step finds nothing. -/
def FindsNone (suits : Step → β → Prop) (output : OrderedMap β) (free : String → Prop)
    (step : Step) : Prop :=
  ∀ entry ∈ output.entries, suits step entry.2 → ¬free entry.1

/-- What is matched when some of the steps to match have been searched, with the round in which
each id was. A kept id is matched with itself before all searches, any other id with what the
search for a step of that id found; and where a step of an id was searched before the round of
that id, or the id is matched in no round, that search found nothing. -/
structure Matched (suits : Step → β → Prop) (output : OrderedMap β) (parsed seen : List Step)
    (mapping : OrderedMap String) (round : String → Nat) : Prop where
  kept : ∀ id, IsKept output parsed id → mapping.get? id = some id ∧ round id = 0
  moved : ∀ id key, mapping.get? id = some key → ¬IsKept output parsed id →
    ∃ j step, seen[j]? = some step ∧ step.id = id ∧ round id = j + 1 ∧
      Finds suits output (IsFree mapping round (j + 1)) step key
  vain : ∀ j step, seen[j]? = some step →
    (∀ key, mapping.get? step.id = some key → j + 1 < round step.id) →
    FindsNone suits output (IsFree mapping round (j + 1)) step

variable {suits : Step → β → Prop} {fits : Step → β → Bool} {output : OrderedMap β}
  {parsed seen : List Step} {mapping : OrderedMap String} {round : String → Nat} {step : Step}
  {id key : String}

/-! ### What follows from the rounds -/

theorem Finds.mem_keys {free : String → Prop} (h : Finds suits output free step key) :
    key ∈ output.keys := by
  obtain ⟨before, value, after, hentries, -⟩ := h
  rw [OrderedMap.keys, hentries]
  exact Entries.mem_keys_of_mem (List.mem_append_right _ (List.mem_cons_self ..))

theorem Matched.image (h : Matched suits output parsed seen mapping round)
    (hget : mapping.get? id = some key) : key ∈ output.keys := by
  by_cases hkept : IsKept output parsed id
  · rw [(h.kept id hkept).1] at hget
    exact Option.some.inj hget ▸ hkept.2
  · obtain ⟨_, _, _, _, _, hfinds⟩ := h.moved id key hget hkept
    exact hfinds.mem_keys

theorem Matched.round_le (h : Matched suits output parsed seen mapping round)
    (hget : mapping.get? id = some key) : round id ≤ seen.length := by
  by_cases hkept : IsKept output parsed id
  · rw [(h.kept id hkept).2]
    exact Nat.zero_le _
  · obtain ⟨j, _, hstep, _, hround, _⟩ := h.moved id key hget hkept
    have hj := (List.getElem?_eq_some_iff.1 hstep).1
    omega

/-- What an id is matched with is free up to the round of that id. -/
theorem Matched.round_le_round (h : Matched suits output parsed seen mapping round)
    (hget : mapping.get? id = some key) {other : String} (hother : mapping.get? other = some key) :
    round id ≤ round other := by
  by_cases hkept : IsKept output parsed id
  · rw [(h.kept id hkept).2]
    exact Nat.zero_le _
  · obtain ⟨j, _, _, _, hround, _, _, _, _, _, hfree, _⟩ := h.moved id key hget hkept
    exact hround ▸ hfree other hother

theorem Matched.round_eq_zero_iff (h : Matched suits output parsed seen mapping round)
    (hget : mapping.get? id = some key) : round id = 0 ↔ IsKept output parsed id := by
  refine ⟨fun hzero => ?_, fun hkept => (h.kept id hkept).2⟩
  by_contra hkept
  obtain ⟨j, _, _, _, hround, _⟩ := h.moved id key hget hkept
  rw [hround] at hzero
  cases hzero

/-- **A flow step is matched with one id.** -/
theorem Matched.injective (h : Matched suits output parsed seen mapping round)
    (hget : mapping.get? id = some key) {other : String} (hother : mapping.get? other = some key) :
    id = other := by
  have hround : round id = round other :=
    Nat.le_antisymm (h.round_le_round hget hother) (h.round_le_round hother hget)
  have hsame : IsKept output parsed id ↔ IsKept output parsed other := by
    rw [← h.round_eq_zero_iff hget, ← h.round_eq_zero_iff hother, hround]
  by_cases hkept : IsKept output parsed id
  · rw [(h.kept id hkept).1] at hget
    rw [(h.kept other (hsame.1 hkept)).1] at hother
    exact Option.some.inj (hget.trans hother.symm)
  -- one round searches for one step, and that has one id
  · obtain ⟨i, step, hi, rfl, hiround, _⟩ := h.moved id key hget hkept
    obtain ⟨j, next, hj, rfl, hjround, _⟩ := h.moved other key hother (mt hsame.2 hkept)
    have hplace : i = j := by omega
    rw [hplace, hj] at hi
    rw [Option.some.inj hi]

/-- An id that names a step of the flow is matched with that step, if at all. -/
theorem Matched.eq_of_mem (h : Matched suits output parsed parsed mapping round)
    (hid : id ∈ output.keys) (hget : mapping.get? id = some key) : key = id := by
  have hkept : IsKept output parsed id := by
    by_contra hkept
    obtain ⟨_, step, hstep, rfl, _⟩ := h.moved id key hget hkept
    exact hkept ⟨List.mem_map_of_mem (List.mem_of_getElem? hstep), hid⟩
  rw [(h.kept id hkept).1] at hget
  exact (Option.some.inj hget).symm

/-! ### One round -/

theorem cases_getElem?_concat {α : Type} {items : List α} {last item : α} {i : Nat}
    (h : (items ++ [last])[i]? = some item) :
    items[i]? = some item ∨ i = items.length ∧ item = last := by
  rw [List.getElem?_append] at h
  split at h
  · exact .inl h
  · obtain ⟨hi, hitem⟩ := List.getElem?_eq_some_iff.1 h
    rw [List.getElem_singleton] at hitem
    rw [List.length_singleton] at hi
    exact .inr ⟨by omega, hitem.symm⟩

/-- The flow steps without an id are the ones that are free in the next round. -/
theorem Matched.isFree_iff (h : Matched suits output parsed seen mapping round) :
    IsFree mapping round (seen.length + 1) key ↔ key ∉ mapping.values := by
  rw [OrderedMap.mem_values_iff]
  constructor
  · rintro hfree ⟨id, hget⟩
    have hlast := h.round_le hget
    have hnext := hfree id hget
    omega
  · exact fun hnone id hget => absurd ⟨id, hget⟩ hnone

/-- A match leaves what is free in the rounds up to its own, as it takes its flow step for the
rounds behind it. -/
theorem isFree_insert (hnew : mapping.get? id = none) {n r : Nat} (h : n ≤ r) :
    IsFree (mapping.insert id key) (Function.update round id r) n = IsFree mapping round n := by
  funext other
  refine propext (forall_congr' fun name => ?_)
  rw [OrderedMap.get?_insert]
  by_cases hname : name = id
  · subst hname
    rw [Function.update_self, hnew]
    exact iff_of_true (fun _ => h) (fun hget => by cases hget)
  · rw [if_neg (Ne.symm hname), Function.update_of_ne hname]

/-- A round without a match. -/
theorem Matched.pass (h : Matched suits output parsed seen mapping round)
    (hvain : (∀ key, mapping.get? step.id = some key → seen.length + 1 < round step.id) →
      FindsNone suits output (IsFree mapping round (seen.length + 1)) step) :
    Matched suits output parsed (seen ++ [step]) mapping round := by
  refine ⟨h.kept, ?_, ?_⟩
  · intro id key hget hkept
    obtain ⟨j, other, hother, hfound⟩ := h.moved id key hget hkept
    have hj := (List.getElem?_eq_some_iff.1 hother).1
    exact ⟨j, other, (List.getElem?_append_left hj).trans hother, hfound⟩
  · intro j other hother hlater
    rcases cases_getElem?_concat hother with hold | ⟨rfl, rfl⟩
    · exact h.vain j other hold hlater
    · exact hvain hlater

/-- A round with a match. -/
theorem Matched.add (h : Matched suits output parsed seen mapping round)
    (hnew : mapping.get? step.id = none)
    (hfinds : Finds suits output (IsFree mapping round (seen.length + 1)) step key) :
    Matched suits output parsed (seen ++ [step]) (mapping.insert step.id key)
      (Function.update round step.id (seen.length + 1)) := by
  have hne {id found : String} (hget : mapping.get? id = some found) : id ≠ step.id := by
    rintro rfl
    rw [hnew] at hget
    cases hget
  have hold {id : String} (hid : id ≠ step.id) :
      (mapping.insert step.id key).get? id = mapping.get? id := by
    rw [OrderedMap.get?_insert, if_neg (Ne.symm hid)]
  refine ⟨?_, ?_, ?_⟩
  · intro id hkept
    have hid := hne (h.kept id hkept).1
    rw [hold hid, Function.update_of_ne hid]
    exact h.kept id hkept
  · intro id found hget hkept
    by_cases hid : id = step.id
    · subst hid
      rw [OrderedMap.get?_insert, if_pos rfl, Option.some.injEq] at hget
      subst hget
      refine ⟨seen.length, step, List.getElem?_concat_length .., rfl, Function.update_self .., ?_⟩
      rw [isFree_insert hnew (Nat.le_refl _)]
      exact hfinds
    · rw [hold hid] at hget
      obtain ⟨j, other, hother, hname, hround, hfound⟩ := h.moved id found hget hkept
      have hj := (List.getElem?_eq_some_iff.1 hother).1
      refine ⟨j, other, (List.getElem?_append_left hj).trans hother, hname,
        (Function.update_of_ne hid ..).trans hround, ?_⟩
      rw [isFree_insert hnew (by omega)]
      exact hfound
  · intro j other hother hlater
    rcases cases_getElem?_concat hother with hbefore | ⟨rfl, rfl⟩
    · have hj := (List.getElem?_eq_some_iff.1 hbefore).1
      rw [isFree_insert hnew (by omega)]
      refine h.vain j other hbefore fun found hget => ?_
      have hround := hlater found ((hold (hne hget)).trans hget)
      rwa [Function.update_of_ne (hne hget)] at hround
    -- the step of this round is matched in it, and not later
    · have hround := hlater key (by rw [OrderedMap.get?_insert, if_pos rfl])
      rw [Function.update_self] at hround
      exact absurd hround (Nat.lt_irrefl _)

/-- **One round** of the search is one step of the loop. -/
theorem Matched.exists_matchMoved (hsuits : ∀ step value, fits step value = true ↔ suits step value)
    (h : Matched suits output parsed seen mapping round) (step : Step) :
    ∃ round', Matched suits output parsed (seen ++ [step]) (matchMoved fits output mapping step)
      round' := by
  have hopen (entry : String × β) :
      (!mapping.values.contains entry.1 && fits step entry.2) = true ↔
        suits step entry.2 ∧ IsFree mapping round (seen.length + 1) entry.1 := by
    rw [h.isFree_iff, ← hsuits, and_comm]
    simp
  unfold matchMoved
  split
  · rename_i hmatched
    obtain ⟨key, hget⟩ := OrderedMap.exists_get?_of_mem_keys (OrderedMap.contains_iff.1 hmatched)
    refine ⟨round, h.pass fun hlater => ?_⟩
    have hlast := h.round_le hget
    have hnext := hlater key hget
    omega
  · rename_i hunmatched
    have hnew : mapping.get? step.id = none :=
      OrderedMap.get?_eq_none_iff.2 fun hmem => hunmatched (OrderedMap.contains_iff.2 hmem)
    split
    · rename_i entry hfound
      obtain ⟨hentry, before, after, hentries, hbefore⟩ := List.find?_eq_some_iff_append.1 hfound
      obtain ⟨hsuits', hfree⟩ := (hopen entry).1 hentry
      refine ⟨_, h.add hnew ⟨before, entry.2, after, hentries, hsuits', hfree, ?_⟩⟩
      intro other hother hsuitable hfree'
      have hclosed := hbefore other hother
      rw [(hopen other).2 ⟨hsuitable, hfree'⟩] at hclosed
      cases hclosed
    · rename_i hnone
      refine ⟨round, h.pass fun _ entry hentry hsuitable hfree => ?_⟩
      exact List.find?_eq_none.1 hnone entry hentry ((hopen entry).2 ⟨hsuitable, hfree⟩)

/-! ### All rounds -/

theorem Matched.exists_foldl
    (hsuits : ∀ step value, fits step value = true ↔ suits step value)
    (h : Matched suits output parsed seen mapping round) (rest : List Step) :
    ∃ round', Matched suits output parsed (seen ++ rest)
      (rest.foldl (matchMoved fits output) mapping) round' := by
  induction rest generalizing seen mapping round with
  | nil => exact ⟨round, by rwa [List.append_nil]⟩
  | cons step rest ih =>
    obtain ⟨next, hnext⟩ := h.exists_matchMoved hsuits step
    rw [List.append_cons, List.foldl_cons]
    exact ih hnext

theorem matched_foldl_matchKept (suits : Step → β → Prop) (output : OrderedMap β)
    (parsed : List Step) :
    Matched suits output parsed [] (parsed.foldl (matchKept output) ∅) fun _ => 0 := by
  refine ⟨?_, ?_, ?_⟩
  · intro id hkept
    exact ⟨(get?_foldl_matchKept ..).trans (if_pos hkept), rfl⟩
  · intro id key hget hkept
    rw [(get?_foldl_matchKept ..).trans (if_neg hkept)] at hget
    cases hget
  · intro j step hstep
    cases hstep

/-- **The matching is what its rounds make it.** -/
theorem exists_matched_idMappingBy
    (hsuits : ∀ step value, fits step value = true ↔ suits step value) (output : OrderedMap β)
    (parsed : List Step) :
    ∃ round, Matched suits output parsed parsed (idMappingBy fits output parsed) round :=
  (matched_foldl_matchKept suits output parsed).exists_foldl hsuits parsed

end

/-! ## Steps of a flow -/

variable {output : StepMap} {parsed : List Step} {mapping : OrderedMap String} {step : Step}
  {body : Body} {id key reference : String}

/-- A flow step suits a step: it has its action and, if the step has a target, has that under its
alias, or else as it is. An empty target is none. -/
structure Suits (step : Step) (body : Body) : Prop where
  action : Entries.get? body "action" = some (.str step.action)
  target : ∀ target, expectedTarget? step = some target →
    Entries.get? body "target" = some (.str target)

theorem fits_iff (step : Step) (body : Body) : fits step body = true ↔ Suits step body := by
  rw [fits, Bool.and_eq_true, Body.hasAction, decide_eq_true_eq, Json.string?_eq_some_iff,
    Body.field_eq_str_iff]
  cases hexpected : expectedTarget? step with
  | none =>
    refine ⟨fun h => ⟨h.1, fun target htarget => ?_⟩, fun h => ⟨h.action, rfl⟩⟩
    rw [hexpected] at htarget
    cases htarget
  | some target =>
    simp only [decide_eq_true_eq, Json.string?_eq_some_iff, Body.field_eq_str_iff]
    refine ⟨fun h => ⟨h.1, fun other hother => ?_⟩, fun h => ⟨h.action, h.target target hexpected⟩⟩
    rw [hexpected, Option.some.injEq] at hother
    exact hother ▸ h.2

/-! ## Reading -/

theorem ofFields_mapValues {es : Entries Body}
    (h : ∀ entry ∈ es, Body.hasContainerReference entry.2 = false) :
    ofFields (Entries.mapValues .obj es) = .ok es := by
  induction es with
  | nil => rfl
  | cons entry rest ih =>
    have hrest := ih fun other hother => h other (List.mem_cons_of_mem _ hother)
    rw [Entries.mapValues] at hrest
    simp only [Entries.mapValues, List.map_cons, ofFields, h entry (List.mem_cons_self ..), hrest]
    rfl

/-- Where all flow steps have bodies, every search ends at one. -/
theorem searchBreaks_mapValues (output : StepMap) (parsed : List Step) :
    searchBreaks (Entries.mapValues .obj output.entries) parsed = false := by
  obtain ⟨round, hmatched⟩ :=
    exists_matched_idMappingBy (fun _ _ => Iff.rfl) (output.mapValues Json.obj) parsed
  refine List.any_eq_false.2 fun entry hentry => ?_
  rw [OrderedMap.ofList_mapValues] at hentry ⊢
  have himage := hmatched.image (OrderedMap.get?_eq_some_iff.2 hentry)
  rw [OrderedMap.keys_mapValues] at himage
  obtain ⟨body, hbody⟩ := OrderedMap.exists_get?_of_mem_keys himage
  simp [hbody, Json.isObject]

/-- A flow whose references are missing, null or texts can be relinked. -/
theorem ofJsonFor_toJson (h : ∀ entry ∈ output.entries, Body.TextLinks entry.2)
    (parsed : List Step) : ofJsonFor parsed output.toJson = .ok output := by
  have hfields : ofFields (Entries.mapValues .obj output.entries) = .ok output.entries :=
    ofFields_mapValues fun entry hentry => Body.hasContainerReference_of_textLinks (h entry hentry)
  simp only [toJson, ofJsonFor, searchBreaks_mapValues, hfields, Bool.false_eq_true, if_false]
  exact congrArg Except.ok (OrderedMap.ofList_entries output.nodup)

/-! ## Renamed references -/

/-- A name under a mapping. The empty name, and one that is not mapped, stay. -/
def mappedName (mapping : OrderedMap String) (name : String) : String :=
  if name = "" then "" else (mapping.get? name).getD name

theorem mappedName_eq_self (h : ∀ id, mapping.get? reference = some id → id = reference) :
    mappedName mapping reference = reference := by
  unfold mappedName
  split
  · exact Eq.symm ‹_›
  · cases hget : mapping.get? reference with
    | none => rfl
    | some id => exact h id hget

theorem get?_renameReference (mapping : OrderedMap String) (body : Body) (key other : String) :
    Entries.get? (renameReference mapping body key) other =
      if key = other then (Entries.get? body other).map (Json.renamed (mappedName mapping))
      else Entries.get? body other := by
  unfold renameReference
  by_cases hkey : key = other
  · subst hkey
    rw [if_pos rfl, Entries.field]
    cases hvalue : Entries.get? body key with
    | none => exact hvalue
    | some value =>
      rw [Option.getD_some, Option.map_some]
      cases value with
      | str name =>
        rw [Json.renamed, mappedName]
        dsimp only
        by_cases hname : name = ""
        · rw [if_pos hname, if_pos hname, hvalue, hname]
        · rw [if_neg hname, if_neg hname]
          cases mapping.get? name with
          | none => exact hvalue
          | some id => exact (Entries.get?_insert ..).trans (if_pos rfl)
      | _ => exact hvalue
  · rw [if_neg hkey]
    split
    · split
      · rfl
      · split
        · rw [Entries.get?_insert, if_neg hkey]
        · rfl
    · rfl

/-- The body of a flow step under a mapping. -/
def renamedBody (mapping : OrderedMap String) (body : Body) : Body :=
  referenceKeys.foldl (renameReference mapping) body

theorem get?_renamedBody (mapping : OrderedMap String) (body : Body) (key : String) :
    Entries.get? (renamedBody mapping body) key =
      if key ∈ referenceKeys then (Entries.get? body key).map (Json.renamed (mappedName mapping))
      else Entries.get? body key :=
  Entries.get?_foldl_edit (get?_renameReference mapping) (by decide) body key

theorem isExit_renamedBody (mapping : OrderedMap String) (body : Body) :
    Body.isExit (renamedBody mapping body) = Body.isExit body := by
  rw [Body.isExit, Body.hasAction, Entries.field, get?_renamedBody, if_neg (by decide),
    ← Entries.field, ← Body.hasAction, ← Body.isExit]

/-- A reference stays that is mapped to itself, if at all. -/
theorem get?_renamedBody_of_fixed (h : ∀ id, mapping.get? reference = some id → id = reference)
    (hkey : key ∈ referenceKeys) (hget : Entries.get? body key = some (.str reference)) :
    Entries.get? (renamedBody mapping body) key = some (.str reference) := by
  rw [get?_renamedBody, if_pos hkey, hget, Option.map_some, Json.renamed, mappedName_eq_self h]

/-- What relinking makes of a step. -/
theorem get?_relink (parsed : List Step) (hget : output.get? id = some body) :
    ∃ following, (output.relink parsed).steps.get? id =
      some (Body.settled output.keys id following
        (renamedBody (idMapping output parsed) body)) := by
  let renamed := rename (idMapping output parsed) output
  have hkeys : renamed.keys = output.keys := OrderedMap.keys_mapValues ..
  have hrenamed : renamed.get? id = some (renamedBody (idMapping output parsed) body) :=
    (OrderedMap.get?_mapValues ..).trans (congrArg _ hget)
  obtain ⟨i, hi⟩ := List.getElem?_of_mem (OrderedMap.get?_eq_some_iff.1 hrenamed)
  refine ⟨following output.keys i, OrderedMap.get?_eq_some_iff.2 ?_⟩
  rw [← hkeys]
  exact List.mem_of_getElem? (getElem?_repair hi)

/-- **The matching is injective and sound**, and so a reference that names a step of the flow is
kept. Each id is matched with a step of the flow, no two with the same one; an id that the flow
keeps is matched with itself, and any other with a step that suits the first step of that id
whose search found one (`Matched`). Where all references are missing, null or texts, relinking
then leaves each that is not empty and names a step of the flow, but for the `next` of a step
named `end` that is no exit, which is taken away. -/
theorem idMapping_sound (output : StepMap) (parsed : List Step) :
    (∀ id key, (idMapping output parsed).get? id = some key → key ∈ output.keys) ∧
      (∀ id other key, (idMapping output parsed).get? id = some key →
        (idMapping output parsed).get? other = some key → id = other) ∧
      (∀ step ∈ parsed, step.id ∈ output.keys →
        (idMapping output parsed).get? step.id = some step.id) ∧
      (∃ round, Matched Suits output parsed parsed (idMapping output parsed) round) ∧
      ((∀ entry ∈ output.entries, Body.TextLinks entry.2) →
        ofJsonFor parsed output.toJson = .ok output ∧
          ∀ id body, output.get? id = some body →
            ∃ relinked, (output.relink parsed).steps.get? id = some relinked ∧
              ∀ key ∈ referenceKeys, ∀ reference ∈ output.keys, reference ≠ "" →
                Entries.get? body key = some (.str reference) →
                Entries.get? relinked key =
                  if key = "next" ∧ Body.endsOpen id body then none else some (.str reference)) := by
  obtain ⟨round, hmatched⟩ : ∃ round, Matched Suits output parsed parsed _ round :=
    exists_matched_idMappingBy fits_iff output parsed
  refine ⟨fun _ _ => hmatched.image, fun _ _ _ h => hmatched.injective h, ?_, ⟨round, hmatched⟩, ?_⟩
  · intro step hstep hid
    exact (hmatched.kept step.id ⟨List.mem_map_of_mem hstep, hid⟩).1
  · intro hlinks
    refine ⟨ofJsonFor_toJson hlinks parsed, fun id body hbody => ?_⟩
    obtain ⟨following, hrelinked⟩ := get?_relink parsed hbody
    refine ⟨_, hrelinked, fun key hkey reference hreference hne hget => ?_⟩
    have hconserved := Body.conserved_settled output.keys id following
      (renamedBody (idMapping output parsed) body)
    have hopen : Body.endsOpen id (renamedBody (idMapping output parsed) body) =
        Body.endsOpen id body := by
      rw [Body.endsOpen, isExit_renamedBody, Body.endsOpen]
    split
    · rename_i hremoved
      obtain ⟨rfl, hends⟩ := hremoved
      exact (hconserved.exits (hopen.trans hends)).2
    · rename_i hstays
      refine hconserved.kept key hkey ?_ reference hne (.inr hreference) ?_
      · exact fun hends hnext => hstays ⟨hnext, hopen.symm.trans hends⟩
      · exact get?_renamedBody_of_fixed (fun _ => hmatched.eq_of_mem hreference) hkey hget

/-- Three flow steps that do the same, the last of them named `end`. -/
def contested : StepMap :=
  ⟨[("a", [("action", .str "click"), ("target", .str "ok"), ("next", .str "b")]),
    ("b", [("action", .str "click"), ("target", .str "ok"), ("next", .str "old")]),
    ("end", [("action", .str "click"), ("target", .str "ok"), ("next", .str "a"),
      ("true", .str "b"), ("false", .null)])], by decide⟩

/-- Steps for the contested ones. None suits the first; all suit the others, and the last of these
has a kept id. -/
def claimants : List Step :=
  [{ id := "old", action := "set", target := some "/btn", aliasName := some "ok" },
    { id := "old", action := "click", target := some "/btn", aliasName := some "ok" },
    { id := "old", action := "click", target := some "ok" },
    { id := "a", action := "click", target := some "ok" }]

theorem idMapping_sound_contested :
    (∀ entry ∈ contested.entries, Body.TextLinks entry.2) ∧
      (idMapping contested claimants).get? "a" = some "a" ∧
      (∃ body, contested.get? "b" = some body ∧ Suits claimants[1] body ∧
        (idMapping contested claimants).get? "old" = some "b") ∧
      ofJsonFor claimants contested.toJson = .ok contested ∧
      (∃ relinked, (contested.relink claimants).steps.get? "a" = some relinked ∧
        Entries.get? relinked "next" = some (.str "b")) ∧
      ∃ relinked, (contested.relink claimants).steps.get? "end" = some relinked ∧
        Entries.get? relinked "next" = none ∧ Entries.get? relinked "true" = some (.str "b") := by
  have hlinks : ∀ entry ∈ contested.entries, Body.TextLinks entry.2 := by
    simp [contested, Body.TextLinks, referenceKeys, Entries.get?]
  obtain ⟨_, _, hkept, _, hrelink⟩ := idMapping_sound contested claimants
  obtain ⟨hread, hbodies⟩ := hrelink hlinks
  obtain ⟨first, hfirst, hnext⟩ := hbodies "a" _ rfl
  obtain ⟨last, hlast, hbranch⟩ := hbodies "end" _ rfl
  refine ⟨hlinks, ?_, ⟨_, rfl, ?_, ?_⟩, hread, ⟨first, hfirst, ?_⟩, last, hlast, ?_, ?_⟩
  · exact hkept claimants[3] (by simp [claimants]) (by decide)
  · exact (fits_iff ..).1 (by decide)
  · decide
  · exact hnext "next" (by decide) "b" (by decide) (by decide) rfl
  · exact hbranch "next" (by decide) "a" (by decide) (by decide) rfl
  · exact hbranch "true" (by decide) "b" (by decide) (by decide) rfl

end StepMap

end ReplayFlow
