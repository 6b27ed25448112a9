import Mathlib.Data.List.TakeWhile
import ReplayFlow.Json.Display

/-!
A value that is given has a text. The one case with something to show is a
number that is not whole: the decimal that stands for it has a digit other than
zero, since it lies between the neighbours of the number (`digits_shortest`).
-/

namespace ReplayFlow

namespace Binary64

variable {d : Decimal} {significand : Nat} {exponent : Int}

theorem twoTo_pos (k : Nat) : 0 < twoTo k := Nat.pow_pos (by decide)

theorem tenTo_pos (k : Nat) : 0 < tenTo k := Nat.pow_pos (by decide)

/-! ## Decimals -/

/-- No decimal with zero digits is that near to a number that is not zero. -/
theorem digits_of_contains (hs : significand ≠ 0)
    (h : (Interval.around significand exponent).contains d = true) : d.digits ≠ 0 := by
  intro hzero
  have hunit : 0 < tenTo (-d.exponent).toNat * twoTo (exponent - 2).toNat :=
    Nat.mul_pos (tenTo_pos _) (twoTo_pos _)
  have hlow : 0 < (Interval.around significand exponent).low := by
    simp only [Interval.around]
    split <;> omega
  have hproduct := Nat.mul_pos hlow hunit
  have hnum : (Interval.around significand exponent).num = twoTo (exponent - 2).toNat := rfl
  unfold Interval.contains at h
  rw [hzero, hnum, Nat.zero_mul, Nat.zero_mul] at h
  split at h
  all_goals
    simp only [Bool.and_eq_true, decide_eq_true_eq] at h
    omega

theorem le_roundQuotient (num den : Nat) : num / den ≤ roundQuotient num den := by
  simp only [roundQuotient]
  split
  · exact Nat.le_refl _
  · split
    · exact Nat.le_succ _
    · split
      · exact Nat.le_refl _
      · exact Nat.le_succ _

theorem digits_of_pick? (hs : significand ≠ 0) {length : Nat}
    (h : (Interval.around significand exponent).pick? length = some d) : d.digits ≠ 0 := by
  unfold Interval.pick? at h
  dsimp only at h
  split at h
  · rename_i hbelow _
    cases h
    have hpositive := digits_of_contains hs hbelow
    exact fun hzero => hpositive (Nat.eq_zero_of_le_zero (hzero ▸ le_roundQuotient _ _))
  · rename_i hbelow _
    cases h
    exact digits_of_contains hs hbelow
  · cases h
    exact Nat.succ_ne_zero _
  · cases h

theorem digits_shortest (hs : significand ≠ 0) (exponent : Int) :
    (shortest significand exponent).digits ≠ 0 ∨
      shortest significand exponent = ⟨0, 0⟩ := by
  unfold shortest
  dsimp only
  cases hfound : (List.range 17).findSome? fun n =>
      (Interval.around significand exponent).pick? (n + 1) with
  | none => exact .inr rfl
  | some d =>
    obtain ⟨n, _, hpick⟩ := List.exists_of_findSome?_eq_some hfound
    exact .inl (digits_of_pick? hs hpick)

/-! ## Texts -/

/-- The digits of a number that is not zero are not all dropped as closing zeros. -/
theorem significantDigits_ne_nil {n : Nat} (h : n ≠ 0) :
    ((Nat.toDigits 10 n).reverse.dropWhile (· == '0')).reverse ≠ [] := by
  intro hnil
  rw [List.reverse_eq_nil_iff, List.dropWhile_eq_nil_iff] at hnil
  have hzeros : Nat.toDigits 10 n = List.replicate (Nat.toDigits 10 n).length '0' := by
    refine List.eq_replicate_iff.2 ⟨rfl, ?_⟩
    intro c hc
    exact beq_iff_eq.1 (hnil c (List.mem_reverse.2 hc))
  have hvalue : Nat.ofDigitChars 10 (Nat.toDigits 10 n) 0 = n := Nat.ofDigitChars_ten_toDigits
  rw [hzeros, Nat.ofDigitChars_replicate_zero, Nat.mul_zero] at hvalue
  exact h hvalue.symm

theorem decimalText_ne_nil (plain : PlainRange) (h : d.digits ≠ 0) : d.text plain ≠ [] := by
  have hdigits := significantDigits_ne_nil h
  unfold Decimal.text
  dsimp only
  split
  · split
    · rename_i hnil
      exact absurd hnil hdigits
    · simp
    · simp
  · split <;> simp

theorem text_ne_nil {nanText infinityText : List Char} (hnan : nanText ≠ [])
    (hinfinity : infinityText ≠ []) (x : Binary64) : x.text nanText infinityText ≠ [] := by
  unfold text
  split
  · exact hnan
  · split
    · exact List.cons_ne_nil _ _
    · exact hinfinity
  · rename_i negative significand exponent _
    dsimp only
    split
    · exact List.cons_ne_nil _ _
    · split
      · exact List.cons_ne_nil _ _
      · rename_i hs
        rcases digits_shortest hs exponent with hdigits | hzero
        · exact decimalText_ne_nil plainRange hdigits
        · rw [hzero]
          decide

end Binary64

namespace Json

theorem quotedText_ne_nil {v : Json} (h : v.isGiven = true) : quotedText v ≠ [] := by
  cases v with
  | null => cases h
  | bool b => cases b <;> decide
  | int n =>
    simp only [quotedText, Text.intText]
    split
    · exact List.cons_ne_nil _ _
    · exact Nat.toDigits_ne_nil
  | float x => exact Binary64.text_ne_nil (by decide) (by decide) x
  | str s => exact List.cons_ne_nil _ _
  | arr items => exact List.cons_ne_nil _ _
  | obj fields => exact List.cons_ne_nil _ _

/-- **A value that is given has a text.** -/
theorem display_ne_empty {v : Json} (h : v.isGiven = true) : v.display ≠ "" := by
  unfold display
  split
  · rename_i s
    simpa [isGiven] using h
  · intro e
    have hnil := congrArg String.toList e
    rw [String.toList_ofList] at hnil
    exact quotedText_ne_nil h hnil

end Json

end ReplayFlow
