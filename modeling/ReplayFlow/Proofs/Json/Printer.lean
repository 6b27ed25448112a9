import ReplayFlow.Json.Parser
import ReplayFlow.Json.Printer
import ReplayFlow.Proofs.Json.Spelling
import Std.Data.String.ToNat

/-!
Numbers and strings that are written and read back. A run of digits and the body
of a string end where they were written to end, whatever follows, and what is
read is what was written (`readScalar_intText`, `readString_escaped`).
-/

namespace ReplayFlow.Json

variable {c : Char} {n : Nat} {rest : List Char}

/-! ## Digits -/

theorem isDigit_of_mem_natText (h : c ∈ Text.natText n) : isDigit c = true := by
  have hdigit : c.isDigit = true := Nat.isDigit_of_mem_toDigits (by decide) (by decide) h
  simp only [Char.isDigit, Bool.and_eq_true, decide_eq_true_eq] at hdigit
  simp only [isDigit, Bool.and_eq_true, decide_eq_true_eq]
  exact hdigit

/-- A number above zero starts with another digit than zero. -/
theorem natText_of_pos (h : 0 < n) : ∃ c more, Text.natText n = c :: more ∧ c ≠ '0' := by
  induction n using Nat.strongRecOn with
  | ind n ih =>
    by_cases hsmall : n < 10
    · have hdigit : ∀ d < 10, 0 < d → Nat.digitChar d ≠ '0' := by decide
      exact ⟨n.digitChar, [], Nat.toDigits_of_lt_base hsmall, hdigit n hsmall h⟩
    · obtain ⟨c, more, hdigits, hc⟩ := ih (n / 10) (by omega) (by omega)
      have hsplit : Text.natText n = Text.natText (n / 10) ++ [(n % 10).digitChar] :=
        Nat.toDigits_of_base_le (by decide) (by omega)
      exact ⟨c, more ++ [(n % 10).digitChar], by rw [hsplit, hdigits, List.cons_append], hc⟩

theorem exists_natText_eq_cons (n : Nat) :
    ∃ c more, Text.natText n = c :: more ∧ isDigit c = true := by
  have hne : Text.natText n ≠ [] := Nat.toDigits_ne_nil
  obtain ⟨c, more, hdigits⟩ := List.exists_cons_of_ne_nil hne
  exact ⟨c, more, hdigits, isDigit_of_mem_natText (n := n) (hdigits ▸ List.mem_cons_self ..)⟩

theorem exists_intText_eq_cons (n : Int) :
    ∃ c more, Text.intText n = c :: more ∧ (c = '-' ∨ isDigit c = true) := by
  obtain ⟨c, more, hdigits, hc⟩ := exists_natText_eq_cons n.natAbs
  unfold Text.intText
  split
  · exact ⟨_, _, rfl, .inl rfl⟩
  · exact ⟨c, more, hdigits, .inr hc⟩

theorem digitsValue_natText (n : Nat) : digitsValue (Text.natText n) = n := by
  have hvalue : digitsValue (Text.natText n) = Nat.ofDigitChars 10 (Text.natText n) 0 := by
    rw [digitsValue, Text.natOfDigits, List.foldl_map]
    rfl
  rw [hvalue]
  exact Nat.ofDigitChars_toDigits (by decide) (by decide)

/-- What may follow a value that is written: nothing, a comma or the end of a line. -/
def Ends (rest : List Char) : Prop := ∀ c ∈ rest.head?, c = ',' ∨ c = '\n'

theorem Ends.takeWhile_digits (h : Ends rest) {digits : List Char}
    (hdigits : ∀ c ∈ digits, isDigit c = true) :
    (digits ++ rest).takeWhile isDigit = digits ∧ (digits ++ rest).dropWhile isDigit = rest := by
  have hrest : rest.takeWhile isDigit = [] ∧ rest.dropWhile isDigit = rest := by
    cases rest with
    | nil => exact ⟨rfl, rfl⟩
    | cons c more =>
      have hc : isDigit c = false := by
        obtain rfl | rfl := h c rfl <;> decide
      simp [hc]
  rw [List.takeWhile_append_of_pos hdigits, List.dropWhile_append_of_pos hdigits, hrest.1, hrest.2,
    List.append_nil]
  exact ⟨rfl, rfl⟩

theorem wholeDigits?_natText (n : Nat) (h : Ends rest) :
    wholeDigits? (Text.natText n ++ rest) = some (Text.natText n, rest) := by
  by_cases hn : n = 0
  · subst hn
    rfl
  · obtain ⟨c, more, hdigits, hc⟩ := natText_of_pos (Nat.pos_of_ne_zero hn)
    have hrun := h.takeWhile_digits fun d hd => isDigit_of_mem_natText (n := n) hd
    have hfirst : isDigit c = true := isDigit_of_mem_natText (n := n) (hdigits ▸ List.mem_cons_self ..)
    rw [hdigits, List.cons_append] at hrun ⊢
    unfold wholeDigits?
    split
    · rename_i heq
      exact absurd (List.cons.inj heq).1 hc
    · rename_i heq
      obtain ⟨rfl, rfl⟩ := List.cons.inj heq
      rw [if_pos hfirst, hrun.1, hrun.2]
    · rename_i heq
      cases heq

theorem fractionDigits_of_ends (h : Ends rest) : fractionDigits rest = ([], rest) := by
  unfold fractionDigits
  split
  · obtain hc | hc := h '.' rfl <;> cases hc
  · rfl

theorem exponentPart?_of_ends (h : Ends rest) : exponentPart? rest = none := by
  cases rest with
  | nil => rfl
  | cons c more =>
    have hc : ¬ (c = 'e' ∨ c = 'E') := by
      obtain rfl | rfl := h c rfl <;> decide
    unfold exponentPart?
    exact if_neg hc

theorem unsignedNumber_natText (hlimit : (Text.natText n).length ≤ Text.integerDigitLimit)
    (h : Ends rest) (negative : Bool) (opened : Nat) :
    unsignedNumber negative opened (Text.natText n ++ rest) =
      .ok (.int (if negative then -(n : Int) else n), rest) := by
  simp only [unsignedNumber, wholeDigits?_natText n h, fractionDigits_of_ends h,
    exponentPart?_of_ends h, if_neg (Nat.not_lt.2 hlimit), digitsValue_natText]

/-- An integer is read as it was written. -/
theorem readScalar_intText {n : Int}
    (hlimit : (Text.natText n.natAbs).length ≤ Text.integerDigitLimit) (h : Ends rest) :
    readScalar (Text.intText n ++ rest) = .ok (.int n, rest) := by
  obtain ⟨d, more, hdigits, hd⟩ := exists_natText_eq_cons n.natAbs
  have hunsigned (negative : Bool) (opened : Nat) :=
    unsignedNumber_natText hlimit h negative opened
  rw [hdigits, List.cons_append] at hunsigned
  unfold Text.intText
  split
  · rename_i hnegative
    have hvalue : (if true = true then -(n.natAbs : Int) else n.natAbs) = n := by
      rw [if_pos rfl]
      omega
    rw [hdigits, List.cons_append, List.cons_append, readScalar]
    · rw [hunsigned, hvalue]
    · intro other heq
      obtain ⟨rfl, _⟩ := List.cons.inj heq
      exact absurd hd (by decide)
  · rename_i hnegative
    have hvalue : (if false = true then -(n.natAbs : Int) else n.natAbs) = n := by
      rw [if_neg (by decide)]
      omega
    rw [hdigits, List.cons_append]
    unfold readScalar
    split
    case h_8 => rw [hunsigned, hvalue]
    all_goals
      rename_i heq
      obtain ⟨rfl, _⟩ := List.cons.inj heq
      exact absurd hd (by decide)

/-! ## Strings -/

/-- The digits of a control character are read as its code. -/
theorem fourHex?_hexText : ∀ n < 32, (match Text.hexText 4 n with
    | [a, b, c, d] => fourHex? a b c d
    | _ => none) = some n := by decide

/-- How a character of a string is written: by a letter after a backslash, by its code, or as it
is. -/
theorem escapedChar_cases (c : Char) :
    (∃ e, escapedChar c = ['\\', e] ∧ simpleEscape? e = some c) ∨
      (c.toNat < 32 ∧ escapedChar c = '\\' :: 'u' :: Text.hexText 4 c.toNat) ∨
      (c ≠ '"' ∧ c ≠ '\\' ∧ ¬ c.toNat < 32 ∧ escapedChar c = [c]) := by
  unfold escapedChar
  iterate 7
    split
    · rename_i hc
      exact .inl ⟨_, rfl, by rw [hc]; rfl⟩
  split
  · rename_i hcode
    exact .inr (.inl ⟨hcode, rfl⟩)
  · rename_i hquote hslash _ _ _ _ _ hcode
    exact .inr (.inr ⟨hquote, hslash, hcode, rfl⟩)

theorem stringRest_escapedChar (c : Char) (opened : Nat) (hrest : rest ≠ []) :
    stringRest opened (escapedChar c ++ rest) =
      (stringRest opened rest).map fun read => (c.toNat :: read.1, read.2) := by
  obtain ⟨e, htext, he⟩ | ⟨hcontrol, htext⟩ | ⟨hquote, hslash, hcontrol, htext⟩ :=
    escapedChar_cases c
  · have hletter : e ≠ 'u' := by
      rintro rfl
      cases he
    rw [htext]
    simp [stringRest, he, hletter]
  · have hcode := fourHex?_hexText c.toNat hcontrol
    rw [htext]
    split at hcode
    · rename_i digits a b d e hdigits
      rw [hdigits]
      simp [stringRest, hcode, hrest]
    · cases hcode
  · rw [htext, List.singleton_append]
    simp [stringRest, hslash, hcontrol]

/-- The body of a string is read up to the quote that closes it. -/
theorem stringRest_escaped (text : List Char) (opened : Nat) (rest : List Char) :
    stringRest opened (text.flatMap escapedChar ++ '"' :: rest) =
      .ok (text.map Char.toNat, rest) := by
  induction text with
  | nil => rfl
  | cons c text ih =>
    rw [List.flatMap_cons, List.append_assoc, stringRest_escapedChar c opened (by simp), ih]
    rfl

/-- A string is written without carriage returns. -/
theorem return_not_mem_stringText (s : String) : '\r' ∉ stringText s := by
  have hchar (c : Char) : '\r' ∉ escapedChar c := by
    have hdigits : ∀ n < 32, '\r' ∉ Text.hexText 4 n := by decide
    obtain ⟨e, htext, he⟩ | ⟨hcontrol, htext⟩ | ⟨_, _, hcontrol, htext⟩ := escapedChar_cases c
    · rw [htext]
      intro hmem
      have hletter : e = '\r' := by simpa [eq_comm] using hmem
      rw [hletter] at he
      cases he
    · rw [htext]
      simp [hdigits c.toNat hcontrol]
    · rw [htext, List.mem_singleton]
      rintro rfl
      exact hcontrol (by decide)
  simp [stringText, hchar]

theorem return_not_mem_intText (n : Int) : '\r' ∉ Text.intText n := by
  have hdigits : '\r' ∉ Text.natText n.natAbs := by
    intro hmem
    have hdigit := isDigit_of_mem_natText hmem
    cases hdigit
  unfold Text.intText
  split
  · simp [hdigits]
  · exact hdigits

theorem readString_escaped (spelling : Spelling) (s : String) (opened : Nat) (rest : List Char) :
    readString spelling opened (s.toList.flatMap escapedChar ++ '"' :: rest) = .ok (s, rest) := by
  rw [readString, stringRest_escaped]
  simp only [Except.map, spelling.text_toNat]

end ReplayFlow.Json
