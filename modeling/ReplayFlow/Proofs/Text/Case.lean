import ReplayFlow.Proofs.Text.Basic

/-!
Small letters stay small. Lower case is settled: the lower case of a text is its
own lower case in every script (`lower_lower`), and it is empty only if the text
is (`lower_eq_nil_iff`).
-/

namespace ReplayFlow

namespace Text

variable {c d : Char} {n : Nat} {text : List Char}

/-! ## The table of lower case partners -/

/-- Nothing in a table moves a point between two bounds; `sparse` says that only every second
point from the lower bound on counts. -/
def clear (low high : Nat) (sparse : Bool) : List (Nat × Nat × Nat × Int) → Bool
  | [] => true
  | (first, last, step, _) :: rest =>
    high.blt first ||
      ((last.blt low || (sparse && step.beq 2 && ((low + first) % 2).beq 1)) &&
        clear low high sparse rest)

theorem shiftOf_of_clear {table : List (Nat × Nat × Nat × Int)} {low high : Nat} {sparse : Bool}
    (h : clear low high sparse table = true) (hlow : low ≤ n) (hhigh : n ≤ high)
    (hsparse : sparse = true → (low + n) % 2 = 0) : shiftOf n table = 0 := by
  induction table with
  | nil => rfl
  | cons entry rest ih =>
    obtain ⟨first, last, step, shift⟩ := entry
    simp only [clear, Bool.or_eq_true, Bool.and_eq_true, Nat.blt_eq, Nat.beq_eq] at h
    rw [shiftOf]
    rcases h with hbefore | ⟨hafter | ⟨⟨heven, rfl⟩, hodd⟩, hrest⟩
    · rw [if_pos (by omega)]
    · rw [if_neg (show ¬ n ≤ last by omega), ih hrest, ite_self]
    · have hparity := hsparse heven
      split
      · rfl
      · split
        · rw [if_neg (by omega)]
        · exact ih hrest

/-- A point that moves is one of the points of a range, and moves with it. -/
theorem exists_range_of_shiftOf {table : List (Nat × Nat × Nat × Int)} (h : shiftOf n table ≠ 0) :
    ∃ range ∈ table, range.1 ≤ n ∧ n ≤ range.2.1 ∧ (n - range.1) % range.2.2.1 = 0 ∧
      shiftOf n table = range.2.2.2 := by
  induction table with
  | nil => exact absurd rfl h
  | cons range rest ih =>
    obtain ⟨first, last, step, shift⟩ := range
    simp only [shiftOf] at h ⊢
    split at h
    · exact absurd rfl h
    · rename_i hfirst
      rw [if_neg hfirst]
      split at h
      · rename_i hlast
        split at h
        · rename_i hstep
          rw [if_pos hlast, if_pos hstep]
          exact ⟨_, List.mem_cons_self .., by omega, hlast, hstep, rfl⟩
        · exact absurd rfl h
      · rename_i hlast
        obtain ⟨range, hmem, hrange⟩ := ih h
        rw [if_neg hlast]
        exact ⟨range, List.mem_cons_of_mem _ hmem, hrange⟩

/-- The points that a range of the table moves onto do not move on. They lie above the capital
letters of ASCII and beside the dotted capital `I`. -/
def Lands (range : Nat × Nat × Nat × Int) : Prop :=
  let low := ((range.1 : Int) + range.2.2.2).toNat
  let high := ((range.2.1 : Int) + range.2.2.2).toNat
  90 < low ∧ (304 < low ∨ high < 304) ∧
    clear low high (range.2.2.1.beq 2 || range.1.beq range.2.1) lowerShifts = true

instance (range : Nat × Nat × Nat × Int) : Decidable (Lands range) :=
  inferInstanceAs (Decidable (_ ∧ _ ∧ _))

theorem lands_of_mem_lowerShifts : ∀ range ∈ lowerShifts, Lands range := by decide +kernel

theorem shiftOf_lowerShifts (h : shiftOf n lowerShifts ≠ 0) :
    let moved := ((n : Int) + shiftOf n lowerShifts).toNat
    90 < moved ∧ moved ≠ 304 ∧ shiftOf moved lowerShifts = 0 := by
  obtain ⟨⟨first, last, step, shift⟩, hmem, hfirst, hlast, hstep, hshift⟩ :=
    exists_range_of_shiftOf h
  obtain ⟨habove, hbeside, hclear⟩ := lands_of_mem_lowerShifts _ hmem
  simp only at hfirst hlast hstep hshift habove hbeside hclear
  intro moved
  have hmoved : moved = ((n : Int) + shift).toNat := by rw [← hshift]
  refine ⟨by omega, by omega, shiftOf_of_clear hclear (by omega) (by omega) ?_⟩
  intro hsparse
  simp only [Bool.or_eq_true, Nat.beq_eq] at hsparse
  rcases hsparse with rfl | rfl
  · omega
  · have hone : n = first := by omega
    omega

/-! ## One character -/

/-- A character whose lower case, in any place of a text, is the character. -/
def Settled (c : Char) : Prop := c ≠ 'Σ' ∧ lowerChar c = [c]

instance (c : Char) : Decidable (Settled c) := inferInstanceAs (Decidable (_ ∧ _))

theorem forall_ascii {P : Char → Prop} (h : ∀ n < 128, P (Char.ofNat n)) (hc : c.toNat < 128) :
    P c := by
  have hpoint := h c.toNat hc
  rwa [Char.ofNat_toNat] at hpoint

theorem settled_ascii (h : c.toNat < 128) (hcapital : 90 < c.toNat) : Settled c :=
  forall_ascii (P := fun c => 90 < c.toNat → Settled c) (by decide) h hcapital

theorem settled_toLower (h : c.toNat < 128) : Settled c.toLower :=
  forall_ascii (P := fun c => Settled c.toLower) (by decide) h

theorem settled_shifted (h : c ≠ 'Σ') (hdotted : c ≠ 'İ') (hc : 128 ≤ c.toNat) :
    Settled (shifted lowerShifts c) := by
  by_cases hmoves : shiftOf c.toNat lowerShifts = 0
  · have hstays : shifted lowerShifts c = c := by simp [shifted, hmoves]
    rw [hstays]
    refine ⟨h, ?_⟩
    rw [lowerChar, if_neg (by omega), if_neg hdotted, hstays]
  · obtain ⟨habove, hbeside, hlands⟩ := shiftOf_lowerShifts hmoves
    simp only [shifted]
    generalize ((c.toNat : Int) + shiftOf c.toNat lowerShifts).toNat = moved at *
    by_cases hvalid : moved.isValidChar
    · have hpoint : (Char.ofNat moved).toNat = moved := by
        rw [Char.ofNat, dif_pos hvalid]
        rfl
      by_cases hascii : moved < 128
      · exact settled_ascii (by omega) (by omega)
      · have hsigma : Char.ofNat moved ≠ 'Σ' := by
          rintro e
          have hmoved : moved = 931 := by rw [← hpoint, e]; rfl
          subst hmoved
          exact absurd hlands (by decide +kernel)
        have hdot : Char.ofNat moved ≠ 'İ' := by
          rintro e
          exact hbeside (by rw [← hpoint, e]; rfl)
        refine ⟨hsigma, ?_⟩
        rw [lowerChar, if_neg (by omega), if_neg hdot, shifted, hpoint, hlands]
        simp
    · rw [Char.ofNat, dif_neg hvalid]
      decide

/-- The lower case of a character is settled. -/
theorem settled_of_mem_lowerChar (h : c ≠ 'Σ') (hd : d ∈ lowerChar c) : Settled d := by
  unfold lowerChar at hd
  split at hd
  · rename_i hascii
    exact List.mem_singleton.1 hd ▸ settled_toLower hascii
  · split at hd
    · rw [List.mem_cons, List.mem_singleton] at hd
      rcases hd with rfl | rfl <;> decide
    · rename_i hascii hdotted
      exact List.mem_singleton.1 hd ▸ settled_shifted h hdotted (by omega)

theorem lowerChar_ne_nil (c : Char) : lowerChar c ≠ [] := by
  unfold lowerChar
  split
  · simp
  · split <;> simp

/-! ## Texts -/

theorem settled_of_mem_lowerFrom {before : List Char} (h : d ∈ lowerFrom before text) :
    Settled d := by
  induction text generalizing before with
  | nil => cases h
  | cons c text ih =>
    rw [lowerFrom, List.mem_append] at h
    rcases h with h | h
    · split at h
      · rw [List.mem_singleton] at h
        rw [h]
        split <;> decide
      · rename_i hsigma
        exact settled_of_mem_lowerChar hsigma h
    · exact ih h

theorem lowerFrom_of_settled {before : List Char} (h : ∀ c ∈ text, Settled c) :
    lowerFrom before text = text := by
  induction text generalizing before with
  | nil => rfl
  | cons c text ih =>
    obtain ⟨hsigma, hlower⟩ := h c (List.mem_cons_self ..)
    rw [lowerFrom, if_neg hsigma, hlower, ih fun d hd => h d (List.mem_cons_of_mem _ hd)]
    rfl

/-- **Lower case is settled.** -/
theorem lower_lower (text : List Char) : lower (lower text) = lower text :=
  lowerFrom_of_settled fun _ h => settled_of_mem_lowerFrom h

theorem lower_eq_nil_iff : lower text = [] ↔ text = [] := by
  cases text with
  | nil => exact iff_of_true rfl rfl
  | cons c text =>
    refine iff_of_false ?_ (List.cons_ne_nil _ _)
    rw [lower, lowerFrom, List.append_eq_nil_iff]
    rintro ⟨hfirst, _⟩
    split at hfirst
    · exact List.cons_ne_nil _ _ hfirst
    · exact lowerChar_ne_nil c hfirst

end Text

@[simp] theorem lowercase_lowercase (s : String) : lowercase (lowercase s) = lowercase s := by
  rw [lowercase, lowercase, String.toList_ofList, Text.lower_lower]

theorem lowercase_ne_empty {s : String} (h : s ≠ "") : lowercase s ≠ "" := by
  intro e
  have hnil := congrArg String.toList e
  rw [lowercase, String.toList_ofList] at hnil
  exact h (String.toList_eq_nil_iff.1 (Text.lower_eq_nil_iff.1 hnil))

end ReplayFlow
