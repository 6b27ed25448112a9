import ReplayFlow.Proofs.Flow.Conservation

/-!
Repaired maps whose references lead forward. Where the references of a map lead
to the end, to a later step or nowhere (`Forward`), those of the repaired map
lead to the end or to a later step (`exists_ahead`). So each move of a walk
brings it further down the map or to the end, which is an exit, and a walk has
made no more moves than there are steps before it (`place_of_walk`): no walk
runs forever, and none stops before an exit (`repair_reaches_exit`).
-/

namespace ReplayFlow.StepMap

variable {steps : StepMap} {i n : Nat} {id next key : String} {body : Body}

/-- Every reference that is given is a text, and the end, or no id, or the id of a later step. -/
def Forward (steps : StepMap) : Prop :=
  ∀ (i : Nat) id body, steps.entries[i]? = some (id, body) → ∀ key ∈ referenceKeys,
    (Entries.field body key).isGiven = true → ∃ reference, Entries.field body key = .str reference ∧
      (reference = endStep ∨ reference ∉ steps.keys ∨
        ∃ j, i < j ∧ steps.keys[j]? = some reference)

/-- One move of a walk: by any reference that is given, and never from an exit. -/
structure Moves (steps : StepMap) (id next : String) : Prop where
  going : ∃ body, steps.get? id = some body ∧ Body.isExit body = false ∧
    ∃ key ∈ referenceKeys, Entries.field body key = .str next ∧ next ≠ ""

/-- A walk from any step is at an id after a number of moves. -/
inductive Walk (steps : StepMap) : String → Nat → Prop
  | start {id : String} : id ∈ steps.keys → Walk steps id 0
  | move {id next : String} {n : Nat} : Walk steps id n → Moves steps id next →
      Walk steps next (n + 1)

/-- There is a way on from a body, and each leads to a step. -/
structure LeadsOn (steps : StepMap) (body : Body) : Prop where
  some : ∃ key ∈ referenceKeys, (Entries.field body key).isGiven = true
  all : ∀ key ∈ referenceKeys, (Entries.field body key).isGiven = true →
    ∃ next ∈ steps.keys, Entries.field body key = .str next

/-- The end, or a step behind a place. -/
def Ahead (steps : StepMap) (i : Nat) (id : String) : Prop :=
  id = endStep ∨ ∃ j, i < j ∧ steps.keys[j]? = some id

theorem ahead_following (steps : StepMap) (i : Nat) : Ahead steps i (following steps.keys i) := by
  unfold following
  cases hnext : steps.keys[i + 1]? with
  | none => exact .inl rfl
  | some next => exact .inr ⟨i + 1, by omega, hnext⟩

/-! ## One move -/

theorem ahead_mended (h : steps.Forward) (hentry : steps.entries[i]? = some (id, body))
    (hkey : key ∈ referenceKeys) (hgiven : (Entries.field body key).isGiven = true) :
    ∃ next, Body.mended steps.keys (following steps.keys i) (Entries.field body key) = .str next ∧
      Ahead steps i next := by
  obtain ⟨reference, hfield, hwhere⟩ := h i id body hentry key hkey hgiven
  rw [hfield] at hgiven ⊢
  have hne : reference ≠ "" := by simpa [Json.isGiven] using hgiven
  by_cases hsound : reference = endStep ∨ reference ∈ steps.keys
  · refine ⟨reference, Body.mended_of_sound _ hsound, ?_⟩
    rcases hwhere with hend | hunknown | hlater
    · exact .inl hend
    · exact .inl (hsound.resolve_right hunknown)
    · exact .inr hlater
  · rw [not_or] at hsound
    exact ⟨_, Body.mended_of_broken _ hne hsound.1 hsound.2, ahead_following steps i⟩

/-- A reference of a repaired step leads to the end or to a later step. -/
theorem exists_ahead (h : steps.Forward) (hentry : steps.entries[i]? = some (id, body))
    (hkey : key ∈ referenceKeys) {step : String}
    (hgiven : (Entries.field (Body.repair steps.keys step (following steps.keys i) body).1
      key).isGiven = true) :
    ∃ next, Entries.field (Body.repair steps.keys step (following steps.keys i) body).1 key =
      .str next ∧ Ahead steps i next := by
  rw [Body.field_repair step _ body hkey] at hgiven ⊢
  split
  · exact ⟨_, rfl, ahead_following steps i⟩
  · rename_i hkept
    rw [if_neg hkept] at hgiven
    refine ahead_mended h hentry hkey ?_
    cases hold : (Entries.field body key).isGiven with
    | true => rfl
    | false =>
      rw [Body.mended_of_isGiven_eq_false _ hold, hold] at hgiven
      cases hgiven

/-- A step of a repaired map is an exit, or a repaired step in its old place. -/
theorem cases_get?_repair (h : steps.repair.steps.get? id = some body) :
    Body.isExit body = true ∨ ∃ i old, steps.entries[i]? = some (id, old) ∧
      body = (Body.repair steps.keys id (following steps.keys i) old).1 := by
  obtain ⟨i, hi⟩ := List.getElem?_of_mem (OrderedMap.get?_eq_some_iff.1 h)
  rcases cases_getElem?_repair hi with ⟨old, hold, rfl⟩ | ⟨_, _, _, rfl⟩
  · cases hopen : Body.endsOpen id old with
    | true => exact .inl (by rw [Body.settled_of_open hopen, Body.isExit_ended])
    | false => exact .inr ⟨i, old, hold, Body.settled_of_closed hopen⟩
  · exact .inl rfl

theorem isExit_of_end (h : steps.repair.steps.get? endStep = some body) :
    Body.isExit body = true := by
  obtain ⟨exit, hend, hexit⟩ := exists_end_repair steps
  rw [h, Option.some.injEq] at hend
  rw [hend, hexit]

theorem eq_of_place (h : steps.keys[i]? = some id) {j : Nat} (hj : steps.keys[j]? = some id) :
    i = j := by
  have hi : i < steps.keys.length := (List.getElem?_eq_some_iff.1 h).1
  exact (List.getElem?_inj hi steps.nodup).1 (h.trans hj.symm)

/-- A move from a place leads to the end or behind that place. -/
theorem ahead_of_moves (h : steps.Forward) (hplace : steps.keys[i]? = some id)
    (hmoves : Moves steps.repair.steps id next) : Ahead steps i next := by
  obtain ⟨body, hget, hexit, key, hkey, hfield, hne⟩ := hmoves.going
  rcases cases_get?_repair hget with hexit' | ⟨j, old, hentry, rfl⟩
  · rw [hexit] at hexit'
    cases hexit'
  · have hj : steps.keys[j]? = some id := by
      rw [OrderedMap.keys, Entries.keys, List.getElem?_map, hentry, Option.map_some]
    obtain rfl := eq_of_place hplace hj
    have hgiven : (Json.str next).isGiven = true := by simpa [Json.isGiven] using hne
    obtain ⟨found, hfound, hahead⟩ := exists_ahead h hentry hkey (hfield ▸ hgiven)
    rw [hfield] at hfound
    cases hfound
    exact hahead

/-! ## A walk -/

/-- A walk has come to the end, or to a place that it cannot have reached in more moves. -/
theorem place_of_walk (h : steps.Forward) (hwalk : Walk steps.repair.steps id n) :
    (id = endStep ∧ n ≤ steps.size) ∨ ∃ i, steps.keys[i]? = some id ∧ n ≤ i := by
  induction hwalk with
  | @start id hid =>
    rw [keys_repair] at hid
    rcases List.mem_append.1 hid with hold | hnew
    · obtain ⟨i, hi⟩ := List.getElem?_of_mem hold
      exact .inr ⟨i, hi, Nat.zero_le i⟩
    · split at hnew
      · cases hnew
      · exact .inl ⟨List.mem_singleton.1 hnew, Nat.zero_le _⟩
  | @move id next n _ hmoves ih =>
    rcases ih with ⟨rfl, _⟩ | ⟨i, hi, hn⟩
    · obtain ⟨body, hget, hexit, _⟩ := hmoves.going
      rw [isExit_of_end hget] at hexit
      cases hexit
    · have hsize : i < steps.size := by
        have hlt := (List.getElem?_eq_some_iff.1 hi).1
        rwa [OrderedMap.length_keys] at hlt
      rcases ahead_of_moves h hi hmoves with hend | ⟨j, hij, hj⟩
      · exact .inl ⟨hend, by omega⟩
      · exact .inr ⟨j, hj, by omega⟩

theorem check_of_forward (h : steps.Forward) : steps.check = .ok () := by
  refine check_of_forall fun entry hentry => ?_
  obtain ⟨i, hi⟩ := List.getElem?_of_mem hentry
  refine List.any_eq_false.2 fun key hkey => ?_
  rw [Bool.and_eq_true, not_and]
  intro hgiven
  obtain ⟨reference, hfield, _⟩ := h i _ _ hi key hkey hgiven
  simp [hfield, Json.isContainer]

theorem mem_keys_of_ahead (h : Ahead steps i id) : id ∈ steps.repair.steps.keys := by
  rcases h with rfl | ⟨j, _, hj⟩
  · obtain ⟨exit, hend, _⟩ := exists_end_repair steps
    exact OrderedMap.mem_keys_of_get? hend
  · exact subset_keys_repair steps (List.mem_of_getElem? hj)

/-- There is a way on from a repaired step that is no exit, if no step behind it has an empty
id. -/
theorem leadsOn_repair (h : steps.Forward) (hids : "" ∉ steps.keys)
    (hentry : steps.entries[i]? = some (id, body)) (step : String)
    (hexit : Body.isExit body = false) :
    LeadsOn steps.repair.steps
      (Body.repair steps.keys step (following steps.keys i) body).1 := by
  refine ⟨⟨"next", by decide, ?_⟩, fun key hkey hgiven => ?_⟩
  · exact Body.isGiven_next_repair step (following_ne_empty hids i) hexit
  · obtain ⟨next, hfield, hahead⟩ := exists_ahead h hentry hkey hgiven
    exact ⟨next, mem_keys_of_ahead hahead, hfield⟩

/-- **Repair never creates a loop.** Where references lead forward, a walk through the repaired
map is always at a step; and if this is no exit, then the walk has made fewer moves than there are
steps, there is a way on, and each leads to a step. -/
theorem repair_reaches_exit (h : steps.Forward) (hids : "" ∉ steps.keys) :
    steps.check = .ok () ∧ ∀ id n, Walk steps.repair.steps id n →
      n ≤ steps.size ∧ ∃ body, steps.repair.steps.get? id = some body ∧
        (Body.isExit body = true ∨ n < steps.size ∧ LeadsOn steps.repair.steps body) := by
  refine ⟨check_of_forward h, fun id n hwalk => ?_⟩
  rcases place_of_walk h hwalk with ⟨rfl, hn⟩ | ⟨i, hi, hn⟩
  · obtain ⟨exit, hend, hexit⟩ := exists_end_repair steps
    exact ⟨hn, exit, hend, .inl hexit⟩
  · have hsize : i < steps.size := by
      have hlt := (List.getElem?_eq_some_iff.1 hi).1
      rwa [OrderedMap.length_keys] at hlt
    obtain ⟨body, hget⟩ := OrderedMap.exists_get?_of_mem_keys
      (subset_keys_repair steps (List.mem_of_getElem? hi))
    refine ⟨by omega, body, hget, ?_⟩
    rcases cases_get?_repair hget with hexit | ⟨j, old, hentry, rfl⟩
    · exact .inl hexit
    · cases hexit : Body.isExit old with
      | true => exact .inl (by rw [Body.isExit_repair, hexit])
      | false => exact .inr ⟨by omega, leadsOn_repair h hids hentry id hexit⟩

/-- A fork with one way to nowhere, and an `end` in the middle that is no exit and goes on. -/
def forked : StepMap :=
  ⟨[("a", [("action", .str "condition"), ("true", .str "c"), ("false", .str "ghost")]),
    ("end", [("action", .str "click"), ("next", .str "b")]),
    ("b", [("action", .str "set"), ("next", .null)]),
    ("c", [("action", .str "click"), ("next", .str "end")])], by decide⟩

theorem forward_forked : forked.Forward := by
  intro i id body hentry key hkey hgiven
  have hkey' : key = "next" ∨ key = "true" ∨ key = "false" := by simpa [referenceKeys] using hkey
  rcases i with _ | _ | _ | _ | i
  · cases hentry
    rcases hkey' with rfl | rfl | rfl
    · cases hgiven
    · exact ⟨"c", rfl, .inr (.inr ⟨3, by decide, rfl⟩)⟩
    · exact ⟨"ghost", rfl, .inr (.inl (by decide))⟩
  · cases hentry
    rcases hkey' with rfl | rfl | rfl
    · exact ⟨"b", rfl, .inr (.inr ⟨2, by decide, rfl⟩)⟩
    all_goals cases hgiven
  · cases hentry
    rcases hkey' with rfl | rfl | rfl <;> cases hgiven
  · cases hentry
    rcases hkey' with rfl | rfl | rfl
    · exact ⟨"end", rfl, .inl rfl⟩
    all_goals cases hgiven
  · cases hentry

/-- From `b` by the way that the repair gives it, then by its own. -/
theorem walk_forked : Walk forked.repair.steps "end" 2 := by
  have hb : Moves forked.repair.steps "b" "c" :=
    ⟨_, rfl, by decide, "next", by decide, rfl, by decide⟩
  have hc : Moves forked.repair.steps "c" "end" :=
    ⟨_, rfl, by decide, "next", by decide, rfl, by decide⟩
  exact ((Walk.start (by decide)).move hb).move hc

theorem repair_reaches_exit_forked :
    forked.Forward ∧ "" ∉ forked.keys ∧ forked.check = .ok () ∧
      Walk forked.repair.steps "end" 2 ∧ 2 ≤ forked.size ∧
      ∃ body, forked.repair.steps.get? "end" = some body ∧ Body.isExit body = true := by
  obtain ⟨hcheck, hwalks⟩ := repair_reaches_exit forward_forked (by decide)
  obtain ⟨hn, body, hget, _⟩ := hwalks _ _ walk_forked
  exact ⟨forward_forked, by decide, hcheck, walk_forked, hn, body, hget, isExit_of_end hget⟩

end ReplayFlow.StepMap
