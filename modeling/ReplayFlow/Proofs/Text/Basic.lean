import Mathlib.Data.List.DropRight
import ReplayFlow.Text.Basic
import ReplayFlow.Text.Case
import Std.Data.String.ToNat

/-!
What cutting and recasing a text leaves in it. No operation here brings in a
character that the text did not have, but for the digits of a number and for
letters of another case, which are never braces.
-/

namespace ReplayFlow.Text

variable {c : Char} {text marker rest : List Char}

theorem toString_inj {m n : Nat} : toString m = toString n ↔ m = n := by
  rw [← Nat.repr_inj]
  exact Iff.rfl

theorem isDigit_of_mem_toString {n : Nat} (h : c ∈ (toString n).toList) : c.isDigit = true := by
  rw [Nat.toString_eq_ofList_toDigits, String.toList_ofList] at h
  exact Nat.isDigit_of_mem_toDigits (by decide) (by decide) h

/-! ## Cutting -/

theorem after?_eq_none_iff : after? marker text = none ↔ ¬ marker <+: text := by
  rw [Option.eq_none_iff_forall_ne_some]
  constructor
  · rintro h ⟨rest, e⟩
    exact h rest (after?_eq_some_iff.2 e.symm)
  · exact fun h rest hrest => h ⟨rest, (after?_eq_some_iff.1 hrest).symm⟩

theorem mem_of_afterFirst? (h : afterFirst? marker text = some rest) :
    ∃ before, text = before ++ (marker ++ rest) := by
  induction text with
  | nil =>
    simp only [afterFirst?, after?_eq_some_iff] at h
    exact ⟨[], h⟩
  | cons c text ih =>
    simp only [afterFirst?, Option.orElse_eq_orElse, Option.orElse_eq_or,
      Option.or_eq_some_iff] at h
    rcases h with h | ⟨_, h⟩
    · exact ⟨[], by simpa using after?_eq_some_iff.1 h⟩
    · obtain ⟨before, e⟩ := ih h
      exact ⟨c :: before, by simp [e]⟩

theorem occursIn_of_not_mem (hc : c ∈ marker) (h : c ∉ text) : occursIn marker text = false := by
  cases hfirst : afterFirst? marker text with
  | none => simp [occursIn, hfirst]
  | some rest =>
    obtain ⟨before, e⟩ := mem_of_afterFirst? hfirst
    exact absurd (by simp [e, hc]) h

theorem mem_of_mem_removeFrom {skip : Nat} (h : c ∈ removeFrom marker skip text) : c ∈ text := by
  induction text generalizing skip with
  | nil => cases skip <;> simp [removeFrom] at h
  | cons d text ih =>
    cases skip with
    | succ skip => exact List.mem_cons_of_mem _ (ih h)
    | zero =>
      simp only [removeFrom] at h
      split at h
      · exact List.mem_cons_of_mem _ (ih h)
      · rcases List.mem_cons.1 h with rfl | h
        · exact List.mem_cons_self ..
        · exact List.mem_cons_of_mem _ (ih h)

theorem mem_of_mem_removeAll (h : c ∈ removeAll marker text) : c ∈ text :=
  mem_of_mem_removeFrom h

theorem mem_of_mem_lastSegment (h : c ∈ lastSegment text) : c ∈ text := by
  rw [lastSegment, List.mem_reverse] at h
  exact List.mem_reverse.1 ((List.dropWhile_suffix _).subset ((List.takeWhile_prefix _).subset h))

theorem mem_of_afterAnyCase? (hrest : afterAnyCase? marker text = some rest) (h : c ∈ rest) :
    c ∈ text := by
  induction marker generalizing text with
  | nil =>
    simp only [afterAnyCase?, Option.some.injEq] at hrest
    exact hrest ▸ h
  | cons m marker ih =>
    cases text with
    | nil => simp [afterAnyCase?] at hrest
    | cons d text =>
      simp only [afterAnyCase?] at hrest
      split at hrest
      · exact List.mem_cons_of_mem _ (ih hrest)
      · cases hrest

/-! ## Braces -/

theorem toLower_eq_brace (hc : c.toNat < 128) (h : c.toLower = '\x7b') : c = '\x7b' := by
  have hall : ∀ n < 128, (Char.ofNat n).toLower = '\x7b' → Char.ofNat n = '\x7b' := by decide
  have hself : Char.ofNat c.toNat = c := Char.ofNat_toNat c
  exact hself ▸ hall c.toNat hc (hself.symm ▸ h)

/-- No range of a table moves onto the code point of a brace. -/
def AvoidsBrace (table : List (Nat × Nat × Nat × Int)) : Prop :=
  ∀ entry ∈ table, 123 < (entry.1 : Int) + entry.2.2.2 ∨ (entry.2.1 : Int) + entry.2.2.2 < 123

instance (table : List (Nat × Nat × Nat × Int)) : Decidable (AvoidsBrace table) :=
  inferInstanceAs (Decidable (∀ entry ∈ table, _))

theorem avoidsBrace_lowerShifts : AvoidsBrace lowerShifts := by decide +kernel

theorem add_shiftOf_ne {table : List (Nat × Nat × Nat × Int)} (h : AvoidsBrace table) {n : Nat}
    (hn : n ≠ 123) : (n : Int) + shiftOf n table ≠ 123 := by
  induction table with
  | nil => simp [shiftOf]; omega
  | cons entry table ih =>
    obtain ⟨first, last, step, shift⟩ := entry
    have hrest := ih fun e he => h e (List.mem_cons_of_mem _ he)
    have hentry : 123 < (first : Int) + shift ∨ (last : Int) + shift < 123 :=
      h _ (List.mem_cons_self ..)
    simp only [shiftOf]
    split
    · omega
    · split
      · split <;> omega
      · exact hrest

theorem eq_of_ofNat_eq_brace {n : Nat} (h : Char.ofNat n = '\x7b') : n = 123 := by
  by_cases hv : n.isValidChar
  · rw [Char.ofNat, dif_pos hv] at h
    exact congrArg Char.toNat h
  · rw [Char.ofNat, dif_neg hv] at h
    exact absurd h (by decide)

theorem shifted_ne_brace {table : List (Nat × Nat × Nat × Int)} (h : AvoidsBrace table)
    (hc : 128 ≤ c.toNat) : shifted table c ≠ '\x7b' := by
  intro e
  have hshift := add_shiftOf_ne h (n := c.toNat) (by omega)
  have hpoint := eq_of_ofNat_eq_brace e
  omega

theorem brace_of_mem_lowerChar (h : '\x7b' ∈ lowerChar c) : c = '\x7b' := by
  unfold lowerChar at h
  split at h
  · rename_i hc
    exact toLower_eq_brace hc (List.mem_singleton.1 h).symm
  · split at h
    · exact absurd h (by decide)
    · exact absurd (List.mem_singleton.1 h).symm (shifted_ne_brace avoidsBrace_lowerShifts (by omega))

theorem brace_of_mem_lowerFrom {before : List Char} (h : '\x7b' ∈ lowerFrom before text) :
    '\x7b' ∈ text := by
  induction text generalizing before with
  | nil => simp [lowerFrom] at h
  | cons c text ih =>
    simp only [lowerFrom, List.mem_append] at h
    rcases h with h | h
    · split at h
      · exact absurd h (by split <;> decide)
      · rw [brace_of_mem_lowerChar h]
        exact List.mem_cons_self ..
    · exact List.mem_cons_of_mem _ (ih h)

/-- The lower case of a text has no brace of its own. -/
theorem brace_of_mem_lower (h : '\x7b' ∈ lower text) : '\x7b' ∈ text := brace_of_mem_lowerFrom h

/-! ## Stripping -/

theorem dropWhile_of_prefix {p : Char → Bool} (h : rest <+: text) (htext : text.dropWhile p = text) :
    rest.dropWhile p = rest := by
  cases rest with
  | nil => rfl
  | cons c rest =>
    obtain ⟨more, rfl⟩ := h
    refine List.dropWhile_cons_of_neg fun hc => ?_
    rw [List.cons_append, List.dropWhile_cons_of_pos hc] at htext
    have hlength := (List.dropWhile_suffix (l := rest ++ more) p).length_le
    rw [htext, List.length_cons] at hlength
    omega

/-- What is stripped has no blanks at its ends. -/
theorem strip_strip (text : List Char) : strip (strip text) = strip text := by
  have hfront : (strip text).dropWhile isBlank = strip text :=
    dropWhile_of_prefix (List.rdropWhile_prefix isBlank _) (List.dropWhile_idempotent isBlank _)
  have hend : dropEndWhile isBlank (strip text) = strip text := List.rdropWhile_idempotent isBlank _
  rw [strip, hfront, hend]

end ReplayFlow.Text
