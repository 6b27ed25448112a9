import ReplayFlow.Proofs.Flow.Relabel

/-!
What repair leaves alone, and that it is done after one run. Of a step it
writes references only, and of a step named `end` the action too
(`Body.Conserved`); the steps keep their places, and at most an `end` comes
behind them (`StepMap.entries_repair`). A repaired body is left alone by a
second repair with the same step behind it (`Body.repair_settled`), even where
that step has no id, and so is a repaired map (`StepMap.repair_conservative`).
-/

namespace ReplayFlow

namespace Body

variable {ids more keys : List String} {body : Body} {following : String}

/-- The references of a body are missing, null or texts. -/
def TextLinks (body : Body) : Prop :=
  ∀ key ∈ referenceKeys, ∀ value, Entries.get? body key = some value →
    value = .null ∨ ∃ reference, value = .str reference

/-- A step named `end` that is no exit. -/
def endsOpen (id : String) (body : Body) : Bool := id = endStep && !isExit body

/-- The fields of a body beside some keys, in their order. -/
def without (keys : List String) (body : Body) : Body := body.filter fun field => field.1 ∉ keys

/-- A body as an exit: with that action and without a successor, unless it is an exit already. -/
def ended (body : Body) : Body :=
  if isExit body then body
  else Entries.erase (Entries.insert body "action" (.str "exit")) "next"

/-- A step as repair leaves it, given the step behind it. -/
def settled (ids : List String) (id following : String) (body : Body) : Body :=
  if id = endStep then ended (repair ids id following body).1 else (repair ids id following body).1

/-- What repair may do to the step of an id, when a certain step is behind it. A reference counts
as sound if it is the end or the id of a step. -/
structure Conserved (ids : List String) (id following : String) (body mended : Body) : Prop where
  others : without (if endsOpen id body then "action" :: referenceKeys else referenceKeys) mended =
    without (if endsOpen id body then "action" :: referenceKeys else referenceKeys) body
  exits : endsOpen id body = true → Entries.get? mended "action" = some (.str "exit") ∧
    Entries.get? mended "next" = none
  kept : ∀ key ∈ referenceKeys, (endsOpen id body = true → key ≠ "next") → ∀ reference,
    reference ≠ "" → (reference = endStep ∨ reference ∈ ids) →
    Entries.get? body key = some (.str reference) →
    Entries.get? mended key = some (.str reference)
  redirected : ∀ key ∈ referenceKeys, (endsOpen id body = true → key ≠ "next") → ∀ reference,
    reference ≠ "" → reference ≠ endStep → reference ∉ ids →
    Entries.get? body key = some (.str reference) →
    Entries.get? mended key = some (.str following)
  supplied : isExit body = false → endsOpen id body = false →
    (Entries.get? body "next" = none ∨ Entries.get? body "next" = some .null ∨
      Entries.get? body "next" = some (.str "")) →
    Entries.get? mended "next" = some (.str following)
  leftOpen : ∀ key ∈ referenceKeys, (key = "next" → isExit body = true) →
    (Entries.get? body key = none ∨ Entries.get? body key = some .null ∨
      Entries.get? body key = some (.str "")) →
    Entries.get? mended key = Entries.get? body key

/-! ## What is beside the references -/

theorem without_insert {key : String} (h : key ∈ keys) (body : Body) (value : Json) :
    without keys (Entries.insert body key value) = without keys body := by
  unfold without
  induction body with
  | nil => simp [Entries.insert, h]
  | cons entry rest ih =>
    rw [Entries.insert]
    split
    · rename_i hkey
      subst hkey
      rw [List.filter_cons_of_neg (by simpa using h), List.filter_cons_of_neg (by simpa using h)]
    · rw [List.filter_cons, List.filter_cons, ih]

theorem without_erase {key : String} (h : key ∈ keys) (body : Body) :
    without keys (Entries.erase body key) = without keys body := by
  rw [without, without, Entries.erase, List.filter_filter]
  refine List.filter_congr fun field _ => ?_
  by_cases hkey : field.1 = key
  · simp [hkey, h]
  · simp [hkey]

theorem without_repairReferences (step following : String) (body : Body) {links : List String}
    (h : links ⊆ keys) :
    without keys (repairReferences ids step following body links).1 = without keys body := by
  induction links generalizing body with
  | nil => rfl
  | cons key rest ih =>
    rw [repairReferences]
    dsimp only
    rw [ih _ (List.subset_of_cons_subset h), repairReference]
    split
    · exact without_insert (h (List.mem_cons_self ..)) body _
    · rfl

theorem without_repair (step following : String) (body : Body) (h : referenceKeys ⊆ keys) :
    without keys (repair ids step following body).1 = without keys body := by
  have hnext : "next" ∈ keys := h (List.mem_cons_self ..)
  rw [repair]
  dsimp only
  rw [ensureNext]
  split
  · rw [without_insert hnext, without_repairReferences step following body h]
  · exact without_repairReferences step following body h

theorem ne_action_of_mem {key : String} (h : key ∈ referenceKeys) : key ≠ "action" := by
  rintro rfl
  exact absurd h (by decide)

/-! ## An end that is made an exit -/

theorem get?_ended_action (body : Body) :
    Entries.get? (ended body) "action" = some (.str "exit") := by
  unfold ended
  split
  · rename_i hexit
    exact get?_of_isExit hexit
  · rw [Entries.get?_erase_of_ne (by decide), Entries.get?_insert, if_pos rfl]

theorem isExit_ended (body : Body) : isExit (ended body) = true := by
  rw [isExit, hasAction_of_get? (get?_ended_action body), decide_eq_true rfl]

theorem get?_ended_next (h : isExit body = false) : Entries.get? (ended body) "next" = none := by
  rw [ended, h, if_neg (by decide), Entries.get?_eq_none_iff]
  simp [Entries.keys, Entries.erase]

theorem get?_ended_of_ne {key : String} (haction : key ≠ "action") (hnext : key ≠ "next") :
    Entries.get? (ended body) key = Entries.get? body key := by
  unfold ended
  split
  · rfl
  · rw [Entries.get?_erase_of_ne hnext.symm, Entries.get?_insert, if_neg haction.symm]

theorem settled_of_closed {id : String} (h : endsOpen id body = false) :
    settled ids id following body = (repair ids id following body).1 := by
  unfold settled
  split
  · rename_i hid
    have hexit : isExit body = true := by simpa [endsOpen, hid] using h
    rw [ended, isExit_repair, if_pos hexit]
  · rfl

theorem settled_of_open {id : String} (h : endsOpen id body = true) :
    settled ids id following body = ended (repair ids id following body).1 := by
  rw [endsOpen, Bool.and_eq_true, decide_eq_true_eq] at h
  rw [settled, if_pos h.1]

theorem isExit_repair_of_open {id : String} (h : endsOpen id body = true) (step : String) :
    isExit (repair ids step following body).1 = false := by
  rw [isExit_repair]
  simpa using (Bool.and_eq_true_iff.1 h).2

/-- Beside the action and the successor of an open end, a settled body is the repaired one. -/
theorem get?_settled {id key : String}
    (h : endsOpen id body = true → key ≠ "action" ∧ key ≠ "next") :
    Entries.get? (settled ids id following body) key =
      Entries.get? (repair ids id following body).1 key := by
  cases hopen : endsOpen id body with
  | false => rw [settled_of_closed hopen]
  | true => rw [settled_of_open hopen, get?_ended_of_ne (h hopen).1 (h hopen).2]

/-! ## What is kept -/

theorem mended_of_sound (following : String) {reference : String}
    (h : reference = endStep ∨ reference ∈ ids) :
    mended ids following (.str reference) = .str reference := by
  have hresolves : resolves ids (.str reference) = true := by
    rcases h with rfl | hid
    · rfl
    · simp [resolves, hid]
  rw [mended, hresolves, Bool.not_true, Bool.and_false, if_neg (by decide)]

theorem mended_of_broken (following : String) {reference : String} (hne : reference ≠ "")
    (hend : reference ≠ endStep) (hid : reference ∉ ids) :
    mended ids following (.str reference) = .str following := by
  simp [mended, Json.isGiven, resolves, hne, hend, hid]

/-- What repair leaves under a reference that has a value and is not supplied anew. -/
theorem get?_settled_link {id key : String} (hkey : key ∈ referenceKeys)
    (hopen : endsOpen id body = true → key ≠ "next") (hnext : key = "next" → lacksNext body = false) :
    Entries.get? (settled ids id following body) key =
      (Entries.get? body key).map (mended ids following) := by
  have hkept : ¬(key = "next" ∧ lacksNext body = true) := by
    rintro ⟨hkey, hlacks⟩
    rw [hnext hkey] at hlacks
    cases hlacks
  rw [get?_settled fun h => ⟨ne_action_of_mem hkey, hopen h⟩, get?_repair, if_neg hkept, if_pos hkey]

theorem lacksNext_of_str {key reference : String} (hne : reference ≠ "")
    (h : Entries.get? body key = some (.str reference)) : key = "next" → lacksNext body = false := by
  rintro rfl
  simp [lacksNext, Entries.field, h, Json.isGiven, hne]

theorem conserved_settled (ids : List String) (id following : String) (body : Body) :
    Conserved ids id following body (settled ids id following body) := by
  refine ⟨?_, ?_, ?_, ?_, ?_, ?_⟩
  · cases hopen : endsOpen id body with
    | false =>
      rw [settled_of_closed hopen]
      exact without_repair id following body (List.Subset.refl _)
    | true =>
      have hended : ended (repair ids id following body).1 =
          Entries.erase (Entries.insert (repair ids id following body).1 "action" (.str "exit"))
            "next" := by
        simp only [ended, isExit_repair_of_open hopen, Bool.false_eq_true, if_false]
      rw [settled_of_open hopen, hended, if_pos rfl, without_erase (by decide),
        without_insert (by decide)]
      exact without_repair id following body (List.subset_cons_self _ _)
  · intro hopen
    rw [settled_of_open hopen]
    exact ⟨get?_ended_action _, get?_ended_next (isExit_repair_of_open hopen id)⟩
  · intro key hkey hopen reference hne hsound hget
    rw [get?_settled_link hkey hopen (lacksNext_of_str hne hget), hget, Option.map_some,
      mended_of_sound following hsound]
  · intro key hkey hopen reference hne hend hid hget
    rw [get?_settled_link hkey hopen (lacksNext_of_str hne hget), hget, Option.map_some,
      mended_of_broken following hne hend hid]
  · intro hexit hopen hunset
    have hlacks : lacksNext body = true := by
      rcases hunset with h | h | h <;> simp [lacksNext, hexit, Entries.field, h, Json.isGiven]
    rw [settled_of_closed hopen, get?_repair, if_pos ⟨rfl, hlacks⟩]
  · intro key hkey hexit hunset
    have hopen : endsOpen id body = true → key ≠ "next" := by
      rintro hopen rfl
      simp [endsOpen, hexit rfl] at hopen
    have hnext : key = "next" → lacksNext body = false := fun h => by simp [lacksNext, hexit h]
    rw [get?_settled_link hkey hopen hnext]
    rcases hunset with h | h | h <;> rw [h] <;> rfl

/-! ## A second repair -/

theorem resolves_mended_of_isGiven (hids : ids ⊆ more) (hf : resolves more (.str following) = true)
    {reference : Json} (h : (mended ids following reference).isGiven = true) :
    resolves more (mended ids following reference) = true := by
  cases hbroken : reference.isGiven && !resolves ids reference with
  | true => rwa [mended, hbroken, if_pos rfl]
  | false =>
    rw [mended, hbroken, if_neg (by decide)] at h ⊢
    rw [h, Bool.true_and, Bool.not_eq_false'] at hbroken
    exact resolves_mono hids hbroken

theorem resolves_repair (hids : ids ⊆ more) (hf : resolves more (.str following) = true)
    (step : String) {key : String} (hkey : key ∈ referenceKeys)
    (h : (Entries.field (repair ids step following body).1 key).isGiven = true) :
    resolves more (Entries.field (repair ids step following body).1 key) = true := by
  rw [field_repair step following body hkey] at h ⊢
  split
  · exact hf
  · rename_i hkept
    rw [if_neg hkept] at h
    exact resolves_mended_of_isGiven hids hf h

/-- A repaired step has a successor, be it that of an empty id. -/
theorem next_repair (step : String) (hexit : isExit body = false) :
    (Entries.field (repair ids step following body).1 "next").isGiven = true ∨
      Entries.get? (repair ids step following body).1 "next" = some (.str following) := by
  have hfield : Entries.field (repair ids step following body).1 "next" = _ :=
    field_repair step following body (by decide)
  split at hfield
  · exact .inr (get?_of_field hfield)
  · rename_i hkept
    have hgiven : (Entries.field body "next").isGiven = true := by
      simpa [lacksNext, hexit] using hkept
    cases hlost : (mended ids following (Entries.field body "next")).isGiven with
    | true => exact .inl (hfield ▸ hlost)
    | false => exact .inr (get?_of_field (hfield.trans (mended_of_not_isGiven hgiven hlost)))

theorem isGiven_next_repair (step : String) (hne : following ≠ "") (hexit : isExit body = false) :
    (Entries.field (repair ids step following body).1 "next").isGiven = true := by
  rcases next_repair step hexit with hgiven | hfollowing
  · exact hgiven
  · rw [Entries.field, hfollowing, Option.getD_some]
    simpa [Json.isGiven] using hne

/-- A settled step is left alone by a repair with the same step behind it. -/
theorem repair_settled (hids : ids ⊆ more) (hf : resolves more (.str following) = true)
    (id step : String) (body : Body) :
    repair more step following (settled ids id following body) =
      (settled ids id following body, []) := by
  refine repair_eq_self ?_ ?_ step
  · intro key hkey hgiven
    by_cases hremoved : endsOpen id body = true ∧ key = "next"
    · obtain ⟨hopen, rfl⟩ := hremoved
      rw [Entries.field, ((conserved_settled ids id following body).exits hopen).2] at hgiven
      cases hgiven
    · have hsame : Entries.field (settled ids id following body) key =
          Entries.field (repair ids id following body).1 key := by
        rw [Entries.field, Entries.field, get?_settled fun hopen =>
          ⟨ne_action_of_mem hkey, fun hnext => hremoved ⟨hopen, hnext⟩⟩]
      rw [hsame] at hgiven ⊢
      exact resolves_repair hids hf id hkey hgiven
  · cases hopen : endsOpen id body with
    | true => exact .inl (by rw [settled_of_open hopen, isExit_ended])
    | false =>
      rw [settled_of_closed hopen, isExit_repair]
      cases hexit : isExit body with
      | true => exact .inl rfl
      | false => exact .inr (next_repair id hexit)

theorem get?_exit {key : String} (h : key ∈ referenceKeys) : Entries.get? exit key = none := by
  simpa [exit, Entries.get?] using (ne_action_of_mem h).symm

theorem repair_exit (ids : List String) (step following : String) :
    repair ids step following exit = (exit, []) := by
  refine repair_eq_self ?_ (.inl rfl) step
  intro key hkey hgiven
  rw [Entries.field, get?_exit hkey] at hgiven
  cases hgiven

/-! ## Texts for references -/

theorem hasContainerReference_of_textLinks (h : TextLinks body) :
    hasContainerReference body = false := by
  refine List.any_eq_false.2 fun key hkey => ?_
  cases hget : Entries.get? body key with
  | none => simp [Entries.field, hget, Json.isGiven]
  | some value =>
    rcases h key hkey value hget with rfl | ⟨reference, rfl⟩ <;>
      simp [Entries.field, hget, Json.isContainer]

theorem textLinks_settled (h : TextLinks body) (ids : List String) (id following : String) :
    TextLinks (settled ids id following body) := by
  intro key hkey value hget
  by_cases hremoved : endsOpen id body = true ∧ key = "next"
  · obtain ⟨hopen, rfl⟩ := hremoved
    rw [((conserved_settled ids id following body).exits hopen).2] at hget
    cases hget
  · rw [get?_settled fun hopen => ⟨ne_action_of_mem hkey, fun e => hremoved ⟨hopen, e⟩⟩,
      get?_repair, if_pos hkey] at hget
    split at hget
    · exact .inr ⟨following, (Option.some.inj hget).symm⟩
    · obtain ⟨old, hold, rfl⟩ := Option.map_eq_some_iff.1 hget
      unfold mended
      split
      · exact .inr ⟨following, rfl⟩
      · exact h key hkey old hold

end Body

namespace StepMap

variable {steps : StepMap} {i : Nat} {id : String} {body : Body}

/-! ## A map -/

/-- Closing a map changes the step named `end` alone, which comes last if it is new. -/
theorem entries_close (steps : StepMap) :
    (close steps).steps.entries = Entries.changeAt endStep Body.ended steps.entries ++
      if endStep ∈ steps.keys then [] else [(endStep, Body.exit)] := by
  unfold close
  cases hget : steps.get? endStep with
  | none =>
    have hfresh : endStep ∉ steps.keys := OrderedMap.get?_eq_none_iff.1 hget
    rw [Entries.changeAt_of_not_mem hfresh, if_neg hfresh]
    exact OrderedMap.entries_insert_of_not_mem hfresh Body.exit
  | some body =>
    have hchanged : Entries.changeAt endStep Body.ended steps.entries =
        Entries.insert steps.entries endStep body.ended :=
      Entries.changeAt_of_get? steps.nodup hget Body.ended
    rw [hchanged, if_pos (OrderedMap.mem_keys_of_get? hget), List.append_nil, Body.ended]
    dsimp only
    split
    · exact (Entries.insert_of_get? hget).symm
    · rfl

/-- **What repair makes of a map**: each step settled in its place, and an `end` behind them if
there was none. -/
theorem entries_repair (steps : StepMap) :
    steps.repair.steps.entries =
      (steps.entries.mapIdx fun i entry =>
        (entry.1, Body.settled steps.keys entry.1 (following steps.keys i) entry.2)) ++
      if endStep ∈ steps.keys then [] else [(endStep, Body.exit)] := by
  let repaired : StepMap := ⟨(repairSteps steps.keys steps.entries).1, by
    rw [keys_repairSteps]; exact steps.nodup⟩
  have hkeys : repaired.keys = steps.keys := keys_repairSteps steps.keys steps.entries
  have hentries : repaired.entries = steps.entries.mapIdx fun i entry =>
      (entry.1, (Body.repair steps.keys entry.1 (following steps.keys i) entry.2).1) :=
    entries_repairSteps steps.keys steps.entries
  show (close repaired).steps.entries = _
  rw [entries_close, hkeys, hentries]
  refine congrArg (· ++ _) (List.ext_getElem? fun i => ?_)
  rw [Entries.changeAt, Entries.mapEntries, List.getElem?_map, List.getElem?_mapIdx,
    List.getElem?_mapIdx, Option.map_map]
  rfl

theorem getElem?_repair (h : steps.entries[i]? = some (id, body)) :
    steps.repair.steps.entries[i]? =
      some (id, Body.settled steps.keys id (following steps.keys i) body) := by
  have hi : i < steps.entries.length := (List.getElem?_eq_some_iff.1 h).1
  rw [entries_repair, List.getElem?_append_left (by simpa using hi), List.getElem?_mapIdx, h,
    Option.map_some]

/-- A step of a repaired map is a settled one, or the end that was missing. -/
theorem cases_getElem?_repair (h : steps.repair.steps.entries[i]? = some (id, body)) :
    (∃ old, steps.entries[i]? = some (id, old) ∧
        body = Body.settled steps.keys id (following steps.keys i) old) ∨
      (i = steps.size ∧ endStep ∉ steps.keys ∧ id = endStep ∧ body = Body.exit) := by
  rw [entries_repair] at h
  rcases lt_or_ge i steps.entries.length with hi | hi
  · rw [List.getElem?_append_left (by simpa using hi), List.getElem?_mapIdx] at h
    obtain ⟨⟨old_id, old⟩, hold, e⟩ := Option.map_eq_some_iff.1 h
    cases e
    exact .inl ⟨old, hold, rfl⟩
  · rw [List.getElem?_append_right (by simpa using hi), List.length_mapIdx] at h
    split at h
    · cases h
    · rename_i hfresh
      obtain ⟨hplace, e⟩ := List.getElem?_eq_some_iff.1 h
      rw [List.length_singleton] at hplace
      rw [List.getElem_singleton] at e
      cases e
      exact .inr ⟨by rw [OrderedMap.size]; omega, hfresh, rfl, rfl⟩

theorem keys_repair (steps : StepMap) :
    steps.repair.steps.keys =
      steps.keys ++ if endStep ∈ steps.keys then [] else [endStep] := by
  rw [OrderedMap.keys, entries_repair, Entries.keys_append]
  congr 1
  · refine List.ext_getElem? fun i => ?_
    rw [Entries.keys, List.getElem?_map, List.getElem?_mapIdx, Option.map_map, OrderedMap.keys,
      Entries.keys, List.getElem?_map]
    rfl
  · split <;> rfl

/-! ## A second repair -/

/-- An end that comes behind the steps is what the last of them goes on to already. -/
theorem following_repair (steps : StepMap) (i : Nat) :
    following steps.repair.steps.keys i = following steps.keys i := by
  rw [keys_repair]
  split
  · rw [List.append_nil]
  · unfold following
    rcases lt_or_ge (i + 1) steps.keys.length with hi | hi
    · rw [List.getElem?_append_left hi]
    · rw [List.getElem?_append_right hi, List.getElem?_eq_none hi]
      cases hplace : i + 1 - steps.keys.length <;> rfl

/-- **A repaired map needs no repair.** -/
theorem repair_repair (steps : StepMap) :
    steps.repair.steps.repair = ⟨steps.repair.steps, []⟩ := by
  obtain ⟨exit, hend, hexit⟩ := exists_end_repair steps
  refine repair_of_stable ?_ hend hexit
  rintro i ⟨id, body⟩ hentry
  rcases cases_getElem?_repair hentry with ⟨old, _, rfl⟩ | ⟨_, _, _, rfl⟩
  · rw [following_repair]
    exact Body.repair_settled (subset_keys_repair steps)
      (Body.resolves_mono (subset_keys_repair steps) (resolves_following _ i)) id id old
  · exact Body.repair_exit _ _ _

theorem check_of_textLinks (h : ∀ entry ∈ steps.entries, Body.TextLinks entry.2) :
    steps.check = .ok () :=
  check_of_forall fun entry hentry => Body.hasContainerReference_of_textLinks (h entry hentry)

theorem textLinks_repair (h : ∀ entry ∈ steps.entries, Body.TextLinks entry.2) :
    ∀ entry ∈ steps.repair.steps.entries, Body.TextLinks entry.2 := by
  rintro ⟨id, body⟩ hentry
  obtain ⟨i, hi⟩ := List.getElem?_of_mem hentry
  rcases cases_getElem?_repair hi with ⟨old, hold, rfl⟩ | ⟨_, _, _, rfl⟩
  · exact Body.textLinks_settled (h _ (List.mem_of_getElem? hold)) _ _ _
  · intro key hkey value hget
    rw [Body.get?_exit hkey] at hget
    cases hget

/-- **Repair is conservative and idempotent.** It keeps the steps and their order, and adds at
most an exit named `end` behind them; of a step it changes only what `Body.Conserved` admits; and
a second repair changes nothing and reports nothing. -/
theorem repair_conservative (h : ∀ entry ∈ steps.entries, Body.TextLinks entry.2) :
    steps.check = .ok () ∧
      steps.repair.steps.keys =
        steps.keys ++ (if endStep ∈ steps.keys then [] else [endStep]) ∧
      (endStep ∉ steps.keys → steps.repair.steps.get? endStep = some Body.exit) ∧
      (∀ i id body, steps.entries[i]? = some (id, body) →
        ∃ mended, steps.repair.steps.entries[i]? = some (id, mended) ∧
          Body.Conserved steps.keys id (following steps.keys i) body mended) ∧
      steps.repair.steps.check = .ok () ∧
      steps.repair.steps.repair = ⟨steps.repair.steps, []⟩ := by
  refine ⟨check_of_textLinks h, keys_repair steps, ?_, ?_,
    check_of_textLinks (textLinks_repair h), repair_repair steps⟩
  · intro hfresh
    rw [OrderedMap.get?_eq_some_iff, entries_repair, if_neg hfresh]
    exact List.mem_append_right _ (List.mem_singleton_self _)
  · intro i id body hentry
    exact ⟨_, getElem?_repair hentry, Body.conserved_settled _ _ _ _⟩

/-- References that name nothing, a step without an id, and an `end` in the middle that is no
exit. -/
def crossed : StepMap :=
  ⟨[("a", [("action", .str "click"), ("next", .str "ghost")]),
    ("", [("action", .str "condition"), ("true", .str "a"), ("false", .str "")]),
    ("end", [("next", .str "a"), ("false", .str "ghost"), ("note", .int 1)]),
    ("z", [("next", .null), ("action", .str "set")])], by decide⟩

theorem repair_conservative_crossed :
    (∀ entry ∈ crossed.entries, Body.TextLinks entry.2) ∧ crossed.check = .ok () ∧
      crossed.repair.steps.keys = ["a", "", "end", "z"] ∧
      (∃ mended, crossed.repair.steps.entries[0]? = some ("a", mended) ∧
        Entries.get? mended "next" = some (.str "")) ∧
      (∃ mended, crossed.repair.steps.entries[2]? = some ("end", mended) ∧
        Entries.get? mended "action" = some (.str "exit") ∧ Entries.get? mended "next" = none ∧
        Entries.get? mended "false" = some (.str "z")) ∧
      crossed.repair.steps.check = .ok () ∧
      crossed.repair.steps.repair = ⟨crossed.repair.steps, []⟩ := by
  have hlinks : ∀ entry ∈ crossed.entries, Body.TextLinks entry.2 := by
    simp [crossed, Body.TextLinks, referenceKeys, Entries.get?]
  obtain ⟨hcheck, hkeys, _, hbodies, hagain⟩ := repair_conservative hlinks
  obtain ⟨first, hfirst, hclick⟩ := hbodies 0 _ _ rfl
  obtain ⟨last, hlast, hend⟩ := hbodies 2 _ _ rfl
  refine ⟨hlinks, hcheck, hkeys, ⟨first, hfirst, ?_⟩,
    ⟨last, hlast, (hend.exits rfl).1, (hend.exits rfl).2, ?_⟩, hagain⟩
  · exact hclick.redirected "next" (by decide) (fun hopen => absurd hopen (by decide)) "ghost"
      (by decide) (by decide) (by decide) rfl
  · exact hend.redirected "false" (by decide) (fun _ => by decide) "ghost" (by decide) (by decide)
      (by decide) rfl

end StepMap

end ReplayFlow
