import Mathlib.Logic.Nonempty

/-!
Outcomes of what may fail, one after the other. A run over a list ends well just
where each of its steps does.
-/

namespace ReplayFlow.Except

variable {ε α β γ : Type}

theorem map_eq_ok_iff {f : α → β} {x : Except ε α} {b : β} :
    x.map f = .ok b ↔ ∃ a, x = .ok a ∧ f a = b := by
  cases x <;> simp [Except.map]

/-- Steps that all end well. -/
theorem mapM_eq_ok {f : α → Except ε β} {g : α → β} {items : List α}
    (h : ∀ item ∈ items, f item = .ok (g item)) : items.mapM f = .ok (items.map g) := by
  induction items with
  | nil => rfl
  | cons item rest ih =>
    obtain ⟨hitem, hrest⟩ := List.forall_mem_cons.1 h
    rw [List.mapM_cons, hitem, ih hrest]
    rfl

theorem mapM_cons_eq_ok_iff {f : α → Except ε β} {item : α} {rest : List α} {results : List β} :
    (item :: rest).mapM f = .ok results ↔
      ∃ result more, f item = .ok result ∧ rest.mapM f = .ok more ∧ results = result :: more := by
  rw [List.mapM_cons]
  cases f item with
  | error cause => exact iff_of_false nofun (by rintro ⟨_, _, ⟨⟩, _⟩)
  | ok result =>
    cases rest.mapM f with
    | error cause => exact iff_of_false nofun (by rintro ⟨_, _, _, ⟨⟩, _⟩)
    | ok more =>
      constructor
      · rintro ⟨⟩
        exact ⟨result, more, rfl, rfl, rfl⟩
      · rintro ⟨_, _, ⟨⟩, ⟨⟩, rfl⟩
        rfl

/-- Steps that end well wherever others do, and in the same way. -/
theorem mapM_of_mapM {f : α → Except ε β} {g : α → Except γ β} {items : List α} {results : List β}
    (hstep : ∀ item ∈ items, ∀ result, f item = .ok result → g item = .ok result)
    (h : items.mapM f = .ok results) : items.mapM g = .ok results := by
  induction items generalizing results with
  | nil =>
    cases h
    rfl
  | cons item rest ih =>
    obtain ⟨hitem, hrest⟩ := List.forall_mem_cons.1 hstep
    obtain ⟨result, more, hresult, hmore, rfl⟩ := mapM_cons_eq_ok_iff.1 h
    exact mapM_cons_eq_ok_iff.2 ⟨result, more, hitem result hresult, ih hrest hmore, rfl⟩

/-- Runs end alike just where their steps do, one by one. -/
theorem exists_forall_mapM_iff {ι : Type} [Nonempty ι] {f : ι → α → Except ε β} {items : List α} :
    (∃ results, ∀ i, items.mapM (f i) = .ok results) ↔
      ∀ item ∈ items, ∃ result, ∀ i, f i item = .ok result := by
  induction items with
  | nil => exact iff_of_true ⟨[], fun _ => rfl⟩ (List.forall_mem_nil _)
  | cons item rest ih =>
    rw [List.forall_mem_cons, ← ih]
    constructor
    · rintro ⟨results, h⟩
      obtain ⟨result, more, -, -, rfl⟩ := mapM_cons_eq_ok_iff.1 (h (Classical.arbitrary ι))
      have hparts (i : ι) : f i item = .ok result ∧ rest.mapM (f i) = .ok more := by
        obtain ⟨_, _, hitem, hrest, heq⟩ := mapM_cons_eq_ok_iff.1 (h i)
        cases heq
        exact ⟨hitem, hrest⟩
      exact ⟨⟨result, fun i => (hparts i).1⟩, more, fun i => (hparts i).2⟩
    · rintro ⟨⟨result, hitem⟩, more, hrest⟩
      exact ⟨result :: more, fun i => mapM_cons_eq_ok_iff.2 ⟨_, _, hitem i, hrest i, rfl⟩⟩

theorem mem_flatten_of_mapM {f : α → Except ε (List β)} {items : List α} {results : List (List β)}
    (h : items.mapM f = .ok results) {b : β} :
    b ∈ results.flatten ↔ ∃ item ∈ items, ∃ result, f item = .ok result ∧ b ∈ result := by
  induction items generalizing results with
  | nil =>
    cases h
    simp
  | cons item rest ih =>
    obtain ⟨result, more, hresult, hmore, rfl⟩ := mapM_cons_eq_ok_iff.1 h
    simp [ih hmore, hresult]

theorem forM_eq_ok {f : α → Except ε PUnit} {items : List α}
    (h : ∀ item ∈ items, f item = .ok ⟨⟩) : items.forM f = .ok ⟨⟩ := by
  induction items with
  | nil => rfl
  | cons item rest ih =>
    obtain ⟨hitem, hrest⟩ := List.forall_mem_cons.1 h
    change (f item >>= fun _ => rest.forM f) = _
    rw [hitem]
    exact ih hrest

end ReplayFlow.Except
