import ReplayFlow.Proofs.Flow.Assembly

/-!
Repair against the checks of a flow. Each has notions of its own: repair asks
whether a reference is given, the checks whether it is null, and only repair
knows the step named `end`. On a body whose references are null or given and
whose branches are there (`Body.Regular`), repair leaves nothing that the checks
object to (`Body.passes_repair`), so a repaired map has at most too many exits
(`Flow.validate_repair`). The bodies of a legacy flow are regular, whatever its
steps do and wherever they lead (`Flow.regular_legacyBody`).
-/

namespace ReplayFlow

/-! ## One body -/

namespace Body

variable {ids more : List String} {body : Body}

/-- What repair makes of a reference. -/
def mended (ids : List String) (following : String) (reference : Json) : Json :=
  if reference.isGiven && !resolves ids reference then .str following else reference

/-- A body that does something, with all its references null or given and, in a condition,
both branches given. -/
structure Regular (body : Body) : Prop where
  action : ∃ action, Entries.field body "action" = .str action
  references : ∀ key ∈ referenceKeys,
    Entries.field body key = .null ∨ (Entries.field body key).isGiven = true
  branches : hasAction body "condition" = true → ∀ key ∈ ["true", "false"],
    (Entries.field body key).isGiven = true

/-! ### What repair writes -/

theorem get?_repairReference (step following : String) (body : Body) (key other : String) :
    Entries.get? (repairReference ids step following body key).1 other =
      if key = other then (Entries.get? body other).map (mended ids following)
      else Entries.get? body other := by
  unfold repairReference
  dsimp only
  by_cases hkey : key = other
  · subst hkey
    rw [if_pos rfl]
    cases hvalue : Entries.get? body key with
    | none => simp [Entries.field, hvalue, Json.isGiven]
    | some value =>
      simp only [Entries.field, hvalue, Option.getD_some, Option.map_some, mended]
      split
      · rw [Entries.get?_insert, if_pos rfl]
      · exact hvalue
  · rw [if_neg hkey]
    split
    · rw [Entries.get?_insert, if_neg hkey]
    · rfl

theorem field_repairReference (step following : String) (body : Body) (key other : String) :
    Entries.field (repairReference ids step following body key).1 other =
      if key = other then mended ids following (Entries.field body other)
      else Entries.field body other := by
  rw [Entries.field, Entries.field, get?_repairReference]
  split
  · cases Entries.get? body other <;> rfl
  · rfl

theorem repairReferences_eq_foldl (step following : String) (body : Body) (keys : List String) :
    (repairReferences ids step following body keys).1 =
      keys.foldl (fun body key => (repairReference ids step following body key).1) body := by
  induction keys generalizing body with
  | nil => rfl
  | cons key rest ih => exact ih _

theorem get?_repairReferences (step following : String) (body : Body) {keys : List String}
    (hn : keys.Nodup) (key : String) :
    Entries.get? (repairReferences ids step following body keys).1 key =
      if key ∈ keys then (Entries.get? body key).map (mended ids following)
      else Entries.get? body key := by
  rw [repairReferences_eq_foldl]
  exact Entries.get?_foldl_edit (get?_repairReference step following) hn body key

theorem field_repairReferences (step following : String) (body : Body) {keys : List String}
    (hn : keys.Nodup) (key : String) :
    Entries.field (repairReferences ids step following body keys).1 key =
      if key ∈ keys then mended ids following (Entries.field body key)
      else Entries.field body key := by
  rw [Entries.field, Entries.field, get?_repairReferences step following body hn]
  split
  · cases Entries.get? body key <;> rfl
  · rfl

/-- A step lacks its successor where it is no exit and no `next` of it is given. -/
def lacksNext (body : Body) : Bool := !isExit body && !(Entries.field body "next").isGiven

theorem get?_ensureNext (following : String) (body : Body) (key : String) :
    Entries.get? (ensureNext following body) key =
      if key = "next" ∧ lacksNext body then some (.str following) else Entries.get? body key := by
  unfold ensureNext lacksNext
  split
  · rename_i hlacks
    rw [Entries.get?_insert, hlacks]
    by_cases hkey : key = "next"
    · simp [hkey]
    · rw [if_neg (Ne.symm hkey), if_neg fun h => hkey h.1]
  · rename_i hkept
    rw [if_neg fun h => hkept h.2]

/-- A given reference is lost only to a following step whose id is empty. -/
theorem mended_of_not_isGiven {following : String} {reference : Json}
    (hgiven : reference.isGiven = true) (h : (mended ids following reference).isGiven = false) :
    mended ids following reference = .str following := by
  unfold mended at h ⊢
  split
  · rfl
  · rename_i hkept
    rw [if_neg hkept, hgiven] at h
    cases h

theorem mended_of_isGiven_eq_false (following : String) {reference : Json}
    (h : reference.isGiven = false) : mended ids following reference = reference := by
  rw [mended, h, Bool.false_and, if_neg (by decide)]

theorem isExit_repairReferences (step following : String) (body : Body) :
    isExit (repairReferences ids step following body referenceKeys).1 = isExit body := by
  rw [isExit, hasAction, field_repairReferences _ _ _ (by decide), if_neg (by decide), isExit,
    hasAction]

/-- What repair leaves under a key of a body. -/
theorem get?_repair (step following : String) (body : Body) (key : String) :
    Entries.get? (repair ids step following body).1 key =
      if key = "next" ∧ lacksNext body then some (.str following)
      else if key ∈ referenceKeys then (Entries.get? body key).map (mended ids following)
      else Entries.get? body key := by
  have hlinks : Entries.get? (repairReferences ids step following body referenceKeys).1 key = _ :=
    get?_repairReferences step following body (by decide) key
  have hmended : Entries.field (repairReferences ids step following body referenceKeys).1 "next" =
      mended ids following (Entries.field body "next") := by
    rw [field_repairReferences _ _ _ (by decide), if_pos (by decide)]
  rw [repair]
  dsimp only
  rw [get?_ensureNext, lacksNext, isExit_repairReferences, hmended, hlinks, lacksNext]
  by_cases hkey : key = "next"
  · subst hkey
    cases hgiven : (Entries.field body "next").isGiven with
    | false => rw [mended_of_isGiven_eq_false following hgiven, hgiven]
    | true =>
      obtain ⟨reference, hget⟩ : ∃ reference, Entries.get? body "next" = some reference := by
        refine Option.ne_none_iff_exists'.1 fun hnone => ?_
        rw [Entries.field, hnone] at hgiven
        cases hgiven
      have hfield : Entries.field body "next" = reference := by
        rw [Entries.field, hget, Option.getD_some]
      rw [hfield] at hgiven ⊢
      rw [hget, if_pos (by decide : "next" ∈ referenceKeys), Option.map_some]
      simp only [Bool.not_true, Bool.and_false, Bool.false_eq_true, and_false, if_false]
      split
      · rename_i hlost
        rw [mended_of_not_isGiven hgiven (by simpa using (Bool.and_eq_true_iff.1 hlost.2).2)]
      · rfl
  · simp only [hkey, false_and, if_false]

/-- Repair touches references only. -/
theorem get?_repair_of_not_mem (step following : String) (body : Body) {key : String}
    (h : key ∉ referenceKeys) :
    Entries.get? (repair ids step following body).1 key = Entries.get? body key := by
  have hnext : key ≠ "next" := by
    rintro rfl
    exact h (by decide)
  rw [get?_repair, if_neg fun h => hnext h.1, if_neg h]

theorem field_repair_of_not_mem (step following : String) (body : Body) {key : String}
    (h : key ∉ referenceKeys) :
    Entries.field (repair ids step following body).1 key = Entries.field body key := by
  rw [Entries.field, get?_repair_of_not_mem step following body h, Entries.field]

theorem hasAction_repair (step following : String) (body : Body) (action : String) :
    hasAction (repair ids step following body).1 action = hasAction body action := by
  rw [hasAction, field_repair_of_not_mem step following body (by decide), ← hasAction]

theorem isExit_repair (step following : String) (body : Body) :
    isExit (repair ids step following body).1 = isExit body :=
  hasAction_repair step following body "exit"

theorem field_repair (step following : String) (body : Body) {key : String}
    (h : key ∈ referenceKeys) :
    Entries.field (repair ids step following body).1 key =
      if key = "next" ∧ lacksNext body then .str following
      else mended ids following (Entries.field body key) := by
  rw [Entries.field, get?_repair, if_pos h, Entries.field]
  split
  · rfl
  · cases Entries.get? body key <;> rfl

theorem field_repair_branch (step following : String) (body : Body) {key : String}
    (h : key ∈ ["true", "false"]) :
    Entries.field (repair ids step following body).1 key =
      mended ids following (Entries.field body key) := by
  have hnext : key ≠ "next" := by
    rintro rfl
    exact absurd h (by decide)
  rw [field_repair step following body (List.mem_cons_of_mem _ h), if_neg fun h => hnext h.1]

theorem field_repair_next (step following : String) (hexit : isExit body = false) :
    Entries.field (repair ids step following body).1 "next" =
      (mended ids following (Entries.field body "next")).orElse (.str following) := by
  rw [field_repair step following body (by decide), lacksNext, hexit, Json.orElse]
  cases hgiven : (Entries.field body "next").isGiven with
  | false => simp [mended_of_isGiven_eq_false following hgiven, hgiven]
  | true =>
    simp only [Bool.not_true, Bool.and_false, Bool.false_eq_true, and_false, if_false]
    split
    · rfl
    · rename_i hlost
      exact mended_of_not_isGiven hgiven (by simpa using hlost)

/-! ### Repair and the checks -/

theorem isGiven_mended {following : String} (hne : following ≠ "") {reference : Json}
    (h : reference.isGiven = true) : (mended ids following reference).isGiven = true := by
  unfold mended
  split
  · simp [Json.isGiven, hne]
  · exact h

theorem resolves_mended {following : String} (hf : resolves ids (.str following) = true)
    {reference : Json} (h : reference = .null ∨ reference.isGiven = true) :
    mended ids following reference = .null ∨
      resolves ids (mended ids following reference) = true := by
  rcases h with rfl | hgiven
  · exact .inl rfl
  · unfold mended
    cases hresolves : resolves ids reference
    · simp [hgiven, hf]
    · simp [hresolves]

/-- **Repair satisfies the checks.** -/
theorem passes_repair (h : Regular body) {step following : String} (hne : following ≠ "")
    (hf : resolves ids (.str following) = true) :
    Passes ids (repair ids step following body).1 := by
  have hnext : isExit body = false →
      (Entries.field (repair ids step following body).1 "next").isGiven = true ∧
        resolves ids (Entries.field (repair ids step following body).1 "next") = true := by
    intro hexit
    rw [field_repair_next step following hexit, Json.orElse]
    split
    · rename_i hgiven
      refine ⟨hgiven, (resolves_mended hf (h.references "next" (by decide))).resolve_left ?_⟩
      intro hnull
      rw [hnull] at hgiven
      cases hgiven
    · exact ⟨by simp [Json.isGiven, hne], hf⟩
  obtain ⟨action, haction⟩ := h.action
  refine ⟨?_, ?_, ?_⟩
  · have hkept : Entries.field (repair ids step following body).1 "action" = .str action := by
      rw [field_repair_of_not_mem step following body (by decide), haction]
    exact contains_of_field hkept
  · intro hexit key hkey
    rw [isExit_repair] at hexit
    rcases List.mem_cons.1 hkey with rfl | hbranch
    · exact .inr (hnext hexit).2
    · rw [field_repair_branch step following body hbranch]
      exact resolves_mended hf (h.references key hkey)
  · intro hexit key hkey
    rw [isExit_repair] at hexit
    rw [successorKeys, hasAction_repair] at hkey
    split at hkey
    · rename_i hcondition
      rw [field_repair_branch step following body hkey]
      exact isGiven_mended hne (h.branches hcondition key hkey)
    · rw [List.mem_singleton.1 hkey]
      exact (hnext hexit).1

end Body

/-! ## A step map -/

namespace StepMap

variable {steps : StepMap}

/-- Each step is repaired with the one behind it to go on to. -/
theorem entries_repairSteps (ids : List String) (es : Entries Body) :
    (repairSteps ids es).1 = es.mapIdx fun i entry =>
      (entry.1, (Body.repair ids entry.1 (following (Entries.keys es) i) entry.2).1) := by
  induction es with
  | nil => rfl
  | cons entry rest ih =>
    rw [repairSteps, List.mapIdx_cons, following_zero rest entry]
    dsimp only
    rw [ih]
    rfl

theorem following_cases (ids : List String) (i : Nat) :
    following ids i = endStep ∨ following ids i ∈ ids := by
  unfold following
  cases hnext : ids[i + 1]? with
  | none => exact .inl rfl
  | some next => exact .inr (List.mem_of_getElem? hnext)

theorem resolves_following (ids : List String) (i : Nat) :
    Body.resolves ids (.str (following ids i)) = true := by
  rcases following_cases ids i with hend | hmem
  · rw [hend]
    rfl
  · simp [Body.resolves, hmem]

theorem following_ne_empty {ids : List String} (h : "" ∉ ids) (i : Nat) :
    following ids i ≠ "" := by
  rcases following_cases ids i with hend | hmem
  · rw [hend]
    decide
  · exact fun e => h (e ▸ hmem)

theorem mem_repairSteps {ids : List String} {es : Entries Body} {entry : String × Body}
    (h : entry ∈ (repairSteps ids es).1) :
    ∃ i body, (entry.1, body) ∈ es ∧
      entry.2 = (Body.repair ids entry.1 (following (Entries.keys es) i) body).1 := by
  rw [entries_repairSteps] at h
  obtain ⟨i, hi, rfl⟩ := List.mem_mapIdx.1 h
  exact ⟨i, es[i].2, List.getElem_mem hi, rfl⟩

/-- The map is closed already, or its end is written anew. -/
theorem close_cases (steps : StepMap) :
    ((close steps).steps = steps ∧
        ∃ body, steps.get? endStep = some body ∧ Body.isExit body = true) ∨
      ∃ body, (close steps).steps = steps.insert endStep body ∧ Body.isExit body = true := by
  unfold close
  split
  · exact .inr ⟨Body.exit, rfl, rfl⟩
  · rename_i body hget
    split
    · rename_i hexit
      exact .inl ⟨rfl, body, hget, hexit⟩
    · refine .inr ⟨_, rfl, ?_⟩
      rw [Body.isExit, Body.hasAction, Entries.field, Entries.get?_erase_of_ne (by decide),
        Entries.get?_insert, if_pos rfl]
      rfl

theorem mem_close {entry : String × Body} (h : entry ∈ (close steps).steps.entries) :
    entry ∈ steps.entries ∨ Body.isExit entry.2 = true := by
  rcases close_cases steps with ⟨hkept, _⟩ | ⟨body, hclosed, hexit⟩
  · exact .inl (hkept ▸ h)
  · rw [hclosed] at h
    rcases Entries.mem_insert h with rfl | hold
    · exact .inr hexit
    · exact .inl hold

theorem subset_keys_close (steps : StepMap) : steps.keys ⊆ (close steps).steps.keys := by
  intro key hkey
  rcases close_cases steps with ⟨hkept, _⟩ | ⟨body, hclosed, _⟩
  · rw [hkept]
    exact hkey
  · rw [hclosed, OrderedMap.keys_insert]
    split
    · exact hkey
    · exact List.mem_append_left _ hkey

theorem exists_end_close (steps : StepMap) :
    ∃ body, (close steps).steps.get? endStep = some body ∧ Body.isExit body = true := by
  rcases close_cases steps with ⟨hkept, hend⟩ | ⟨body, hclosed, hexit⟩
  · rw [hkept]
    exact hend
  · refine ⟨body, ?_, hexit⟩
    rw [hclosed, OrderedMap.get?_insert, if_pos rfl]

theorem exists_end_repair (steps : StepMap) :
    ∃ body, steps.repair.steps.get? endStep = some body ∧ Body.isExit body = true :=
  exists_end_close _

theorem subset_keys_repair (steps : StepMap) : steps.keys ⊆ steps.repair.steps.keys := by
  intro key hkey
  refine subset_keys_close _ ?_
  rw [OrderedMap.keys, keys_repairSteps]
  exact hkey

/-- A repaired map of regular bodies passes the checks body by body. -/
theorem passes_of_mem_repair (hregular : ∀ entry ∈ steps.entries, Body.Regular entry.2)
    (hids : "" ∉ steps.keys) {entry : String × Body} (h : entry ∈ steps.repair.steps.entries) :
    Body.Passes steps.repair.steps.keys entry.2 := by
  rcases mem_close h with hmem | hexit
  · obtain ⟨i, body, hbody, hrepaired⟩ := mem_repairSteps hmem
    have hpasses : Body.Passes steps.keys
        (Body.repair steps.keys entry.1 (following steps.keys i) body).1 :=
      Body.passes_repair (hregular _ hbody) (following_ne_empty hids i) (resolves_following _ i)
    rw [hrepaired]
    exact hpasses.mono (subset_keys_repair steps)
  · exact Body.passes_of_isExit hexit

end StepMap

/-! ## The checks -/

namespace Flow

variable {steps : StepMap} {more : Entries Json} {ids : List String}

theorem one_lt_length_iff {exits : List String} (hn : exits.Nodup) {first : String}
    (hmem : first ∈ exits) : 1 < exits.length ↔ ∃ id ∈ exits, id ≠ first := by
  constructor
  · intro hlength
    match exits, hn, hlength with
    | id :: other :: rest, hn, _ =>
      have hne : id ≠ other := fun e => (List.nodup_cons.1 hn).1 (e ▸ List.mem_cons_self ..)
      by_cases hid : id = first
      · exact ⟨other, by simp, hid ▸ hne.symm⟩
      · exact ⟨id, by simp, hid⟩
  · rintro ⟨id, hid, hne⟩
    refine Nat.lt_of_not_le fun hlength => ?_
    have hone : exits.length = 1 := by
      have hpos := List.length_pos_of_mem hmem
      omega
    obtain ⟨only, rfl⟩ := List.length_eq_one_iff.1 hone
    rw [List.mem_singleton] at hid hmem
    exact hne (hid.trans hmem.symm)

/-- **A repaired map of regular bodies has no defect but exits beside its end.** -/
theorem validate_repair (hregular : ∀ entry ∈ steps.entries, Body.Regular entry.2)
    (hids : "" ∉ steps.keys) (more : Entries Json) :
    let flow := documentOf steps.repair.steps more
    ((∀ id ∈ exitIds flow, id = endStep) → validate flow = .ok []) ∧
      ((∃ id ∈ exitIds flow, id ≠ endStep) → ∃ last, (exitIds flow).getLast? = some last ∧
        validate flow = .ok [⟨last, .manyExits (exitIds flow)⟩]) := by
  intro flow
  have hvalidate : validate flow = .ok (exitViolations (exitIds flow)) :=
    validate_documentOf fun _ hmem => StepMap.passes_of_mem_repair hregular hids hmem
  have hn : (exitIds flow).Nodup := by
    rw [exitIds_documentOf]
    exact Entries.nodup_keys_filter steps.repair.steps.nodup _
  have hend : endStep ∈ exitIds flow := by
    obtain ⟨body, hget, hexit⟩ := StepMap.exists_end_repair steps
    rw [exitIds_documentOf]
    refine Entries.mem_keys_of_mem (List.mem_filter.2 ⟨OrderedMap.get?_eq_some_iff.1 hget, hexit⟩)
  obtain ⟨last, hlast⟩ : ∃ last, (exitIds flow).getLast? = some last :=
    ⟨_, List.getLast?_eq_some_getLast (List.ne_nil_of_mem hend)⟩
  rw [hvalidate, exitViolations, hlast]
  constructor
  · intro hall
    have hlength : ¬ 1 < (exitIds flow).length := by
      rw [one_lt_length_iff hn hend]
      rintro ⟨id, hid, hne⟩
      exact hne (hall id hid)
    simp only [if_neg hlength]
  · intro hother
    have hlength : 1 < (exitIds flow).length := (one_lt_length_iff hn hend).2 hother
    exact ⟨last, rfl, by simp only [if_pos hlength]⟩

/-! ## The flow of a transaction -/

variable {step : Step} {t : Transaction}

/-- The steps a step goes on to. -/
def linksOf (step : Step) : List Json := [step.next, step.ifTrue, step.ifFalse]

theorem isGiven_orElse {text : String} (h : text ≠ "") (v : Json) :
    (v.orElse (.str text)).isGiven = true := by
  unfold Json.orElse
  split
  · assumption
  · simp [Json.isGiven, h]

theorem orElse_cases (v other : Json) : v.orElse other = v ∨ v.orElse other = other := by
  unfold Json.orElse
  split
  · exact .inl rfl
  · exact .inr rfl

theorem field_legacyBody_next (step : Step) :
    Entries.field (legacyBody step) "next" = if step.next.isGiven then step.next else .null := by
  have hcondition : Entries.get? (conditionFields step) "next" = none := by
    unfold conditionFields
    split <;> rfl
  rw [Entries.field, get?_legacyBody_link (by decide), hcondition, get?_given, Option.or_none]
  split <;> rfl

theorem get?_legacyBody_branch (step : Step) {key : String} (hkey : key ∈ ["true", "false"]) :
    Entries.get? (legacyBody step) key = Entries.get? (conditionFields step) key := by
  have hnext : "next" ≠ key := by
    rintro rfl
    exact absurd hkey (by decide)
  rw [get?_legacyBody_link (List.mem_cons_of_mem _ hkey), get?_given_of_ne hnext, Option.none_or]

/-- The branches of a condition are given, those of another step are missing. -/
theorem field_legacyBody_branch (step : Step) {key : String} (hkey : key ∈ ["true", "false"]) :
    if step.action = "condition" then
      ∃ link ∈ linksOf step, Entries.field (legacyBody step) key = link.orElse (.str endStep)
    else Entries.field (legacyBody step) key = .null := by
  rw [Entries.field, get?_legacyBody_branch step hkey]
  split
  · rename_i hcondition
    rw [conditionFields, if_pos hcondition]
    simp only [List.mem_cons, List.not_mem_nil, or_false] at hkey
    rcases hkey with rfl | rfl
    · exact ⟨step.ifTrue, by simp [linksOf], rfl⟩
    · exact ⟨step.ifFalse, by simp [linksOf], rfl⟩
  · rename_i hcondition
    rw [get?_conditionFields hcondition]
    rfl

/-- A reference of a body is null, or it is given, and a link of its step or the end. -/
theorem field_legacyBody (step : Step) {key : String} (hkey : key ∈ referenceKeys) :
    Entries.field (legacyBody step) key = .null ∨
      (Entries.field (legacyBody step) key).isGiven = true ∧
        (Entries.field (legacyBody step) key ∈ linksOf step ∨
          Entries.field (legacyBody step) key = .str endStep) := by
  rcases List.mem_cons.1 hkey with rfl | hbranch
  · rw [field_legacyBody_next]
    split
    · rename_i hgiven
      exact .inr ⟨hgiven, .inl (by simp [linksOf])⟩
    · exact .inl rfl
  · have hcases := field_legacyBody_branch step hbranch
    split at hcases
    · obtain ⟨link, hlink, hfield⟩ := hcases
      rw [hfield]
      refine .inr ⟨isGiven_orElse (by decide) link, ?_⟩
      rcases orElse_cases link (.str endStep) with hkept | hend
      · rw [hkept]
        exact .inl hlink
      · exact .inr hend
    · exact .inl hcases

theorem hasAction_legacyBody (step : Step) (action : String) :
    Body.hasAction (legacyBody step) action = decide (step.action = action) :=
  Body.hasAction_of_get? (get?_legacyBody_action step) action

/-- The bodies of a legacy flow are regular, whatever its steps hold. -/
theorem regular_legacyBody (step : Step) : Body.Regular (legacyBody step) := by
  refine ⟨⟨step.action, ?_⟩, ?_, ?_⟩
  · rw [Entries.field, get?_legacyBody_action, Option.getD_some]
  · intro key hkey
    exact (field_legacyBody step hkey).imp id And.left
  · intro hcondition key hkey
    rw [hasAction_legacyBody, decide_eq_true_eq] at hcondition
    have hbranch := field_legacyBody_branch step hkey
    rw [if_pos hcondition] at hbranch
    obtain ⟨link, _, hfield⟩ := hbranch
    rw [hfield]
    exact isGiven_orElse (by decide) link

theorem hasContainerReference_legacyBody
    (h : ∀ link ∈ linksOf step, link.isContainer = false) :
    Body.hasContainerReference (legacyBody step) = false := by
  refine List.any_eq_false.2 ?_
  intro key hkey
  rcases field_legacyBody step hkey with hnull | ⟨_, hlink | hend⟩
  · simp [hnull, Json.isGiven]
  · simp [h _ hlink]
  · simp [hend, Json.isContainer]

theorem mem_legacySteps {entry : String × Body} (h : entry ∈ (legacySteps t).entries) :
    ∃ step ∈ t.steps, entry = (step.id, legacyBody step) := by
  obtain ⟨step, hstep, hentry⟩ := List.mem_map.1 (Entries.mem_of_mem_ofList h)
  exact ⟨step, hstep, hentry.symm⟩

theorem mem_keys_legacySteps {id : String} :
    id ∈ (legacySteps t).keys ↔ ∃ step ∈ t.steps, step.id = id := by
  have hkeys : (legacySteps t).keys = (t.steps.map Step.id).eraseDups := by
    rw [legacySteps, OrderedMap.keys, OrderedMap.ofList, Entries.keys_ofList, Entries.keys,
      List.map_map]
    rfl
  rw [hkeys, List.mem_eraseDups, List.mem_map]

/-- Relinking only repairs a flow whose steps keep their ids. -/
theorem assembleLegacy_eq (created : Json) (t : Transaction) :
    ∃ more, (assembleLegacy created t).document = documentOf (legacySteps t).repair.steps more := by
  have hkept : ∀ step ∈ t.steps, step.id ∈ (legacySteps t).keys :=
    fun step hstep => mem_keys_legacySteps.2 ⟨step, hstep, rfl⟩
  have hrelink : (legacySteps t).relink t.steps = (legacySteps t).repair := by
    rw [StepMap.relink, StepMap.rename_eq_self (StepMap.keepsIds_idMapping hkept)]
  simp only [assembleLegacy, hrelink]
  exact ⟨_, rfl⟩

/-- **A legacy transaction gives a graph the checks accept**, whatever its steps do and wherever
they lead, up to exits beside the end. -/
theorem validate_assembleLegacy (hformat : t.format = .legacy)
    (hids : ∀ step ∈ t.steps, step.id ≠ "")
    (hlinks : ∀ step ∈ t.steps, ∀ link ∈ linksOf step, link.isContainer = false)
    (created : Json) :
    let flow := (assemble created t).document
    check t = .ok () ∧
      ((∀ id ∈ exitIds flow, id = endStep) → validate flow = .ok []) ∧
      ((∃ id ∈ exitIds flow, id ≠ endStep) → ∃ last, (exitIds flow).getLast? = some last ∧
        validate flow = .ok [⟨last, .manyExits (exitIds flow)⟩]) := by
  intro flow
  obtain ⟨more, hdocument⟩ := assembleLegacy_eq created t
  have hflow : flow = documentOf (legacySteps t).repair.steps more := by
    simp only [flow, assemble, hformat, hdocument]
  have hcheck : check t = .ok () := by
    refine check_of_bodies ?_
    intro entry hentry
    obtain ⟨step, hstep, rfl⟩ := mem_legacySteps hentry
    exact hasContainerReference_legacyBody (hlinks step hstep)
  have hregular : ∀ entry ∈ (legacySteps t).entries, Body.Regular entry.2 := by
    intro entry hentry
    obtain ⟨step, _, rfl⟩ := mem_legacySteps hentry
    exact regular_legacyBody step
  have hempty : "" ∉ (legacySteps t).keys := by
    intro hmem
    obtain ⟨step, hstep, hid⟩ := mem_keys_legacySteps.1 hmem
    exact hids step hstep hid
  rw [hflow]
  exact ⟨hcheck, validate_repair hregular hempty more⟩

/-- A condition that leads nowhere on one side, a step named `end` that is no exit, and steps of
one id, the last of them an exit. -/
def tangled : List Step :=
  [{ id := "a", action := "set", next := .str "nowhere" },
    { id := "b", action := "condition", ifTrue := .str "a" },
    { id := "end", action := "click", next := .str "b" },
    { id := "a", action := "exit" }]

theorem validate_assembleLegacy_tangled :
    let flow (steps : List Step) :=
      (assemble .null { tcode := "VA01", format := .legacy, steps }).document
    validate (flow (tangled.take 3)) = .ok [] ∧
      validate (flow tangled) = .ok [⟨"end", .manyExits ["a", "end"]⟩] := by
  intro flow
  have hids : ∀ step ∈ tangled, step.id ≠ "" := by simp [tangled]
  have hlinks : ∀ step ∈ tangled, ∀ link ∈ linksOf step, link.isContainer = false := by
    simp [tangled, linksOf, Json.isContainer]
  have hbefore := validate_assembleLegacy
    (t := { tcode := "VA01", format := .legacy, steps := tangled.take 3 }) rfl
    (fun step hstep => hids step (List.mem_of_mem_take hstep))
    (fun step hstep => hlinks step (List.mem_of_mem_take hstep)) .null
  have hafter := validate_assembleLegacy
    (t := { tcode := "VA01", format := .legacy, steps := tangled }) rfl hids hlinks .null
  have hexits : exitIds (flow (tangled.take 3)) = ["end"] ∧
      exitIds (flow tangled) = ["a", "end"] := ⟨by rfl, by rfl⟩
  refine ⟨hbefore.2.1 ?_, ?_⟩
  · rw [hexits.1]
    simp [endStep]
  · obtain ⟨last, hlast, hvalidate⟩ := hafter.2.2 ⟨"a", by rw [hexits.2]; simp, by decide⟩
    rw [hexits.2] at hlast hvalidate
    cases hlast
    exact hvalidate

end Flow

end ReplayFlow
