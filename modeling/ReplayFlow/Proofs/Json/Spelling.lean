import ReplayFlow.Json.Spelling

/-!
Texts in every spelling. Those without half of a pair alone are the same in all of them,
and no other text is (`Spelling.forall_text_eq_iff`). Characters are no halves of pairs, so
whatever is printed is read back in every spelling (`Spelling.text_toNat`).
-/

namespace ReplayFlow.Json

/-- Characters are no halves of pairs. -/
theorem paired_toNat (text : List Char) :
    Paired (text.map Char.toNat) ∧ joinPairs (text.map Char.toNat) = text := by
  have hcode (c : Char) : ¬ (0xD800 ≤ c.toNat ∧ c.toNat < 0xE000) ∧
      isHighSurrogate c.toNat = false := by
    have hvalid : c.toNat < 0xD800 ∨ 0xDFFF < c.toNat ∧ c.toNat < 0x110000 := c.valid
    refine ⟨by omega, ?_⟩
    simp only [isHighSurrogate, Bool.and_eq_false_iff, decide_eq_false_iff_not]
    omega
  have hchar (c : Char) : charOfCode c.toNat = c := by
    rw [charOfCode, if_neg (hcode c).1, Char.ofNat_toNat]
  induction text with
  | nil => exact ⟨trivial, rfl⟩
  | cons c text ih =>
    cases text with
    | nil =>
      rw [List.map_singleton, Paired, joinPairs, hchar]
      exact ⟨(hcode c).1, rfl⟩
    | cons d text =>
      rw [List.map_cons, List.map_cons, Paired, joinPairs, (hcode c).2, Bool.false_and,
        if_neg Bool.false_ne_true, if_neg Bool.false_ne_true, hchar, ← List.map_cons, ih.2]
      exact ⟨⟨(hcode c).1, ih.1⟩, rfl⟩

instance decidablePaired : (codes : List Nat) → Decidable (Paired codes)
  | [] => .isTrue trivial
  | [code] => inferInstanceAs (Decidable (¬ (0xD800 ≤ code ∧ code < 0xE000)))
  | high :: low :: rest =>
    if hpair : isHighSurrogate high && isLowSurrogate low then
      have := decidablePaired rest
      decidable_of_iff (Paired rest) (by rw [Paired, if_pos hpair])
    else
      have := decidablePaired (low :: rest)
      decidable_of_iff (¬ (0xD800 ≤ high ∧ high < 0xE000) ∧ Paired (low :: rest))
        (by rw [Paired, if_neg hpair])

/-- A text with half of a pair alone gets one more replacement character. -/
def Spelling.marked : Spelling where
  text codes := String.ofList
    (if Paired codes then joinPairs codes else '\uFFFD' :: joinPairs codes)
  paired codes h := by rw [if_pos h]
  foreign codes h := ⟨'\uFFFD', by rw [if_neg h]; simp, by decide⟩

/-- The texts that are the same in every spelling are the texts of characters. -/
theorem Spelling.forall_text_eq_iff {codes : List Nat} {s : String} :
    (∀ spelling : Spelling, spelling.text codes = s) ↔
      Paired codes ∧ s = String.ofList (joinPairs codes) := by
  refine ⟨fun h => ⟨Decidable.byContradiction fun hhalf => ?_, (h plain).symm⟩,
    fun ⟨hpaired, hs⟩ spelling => ?_⟩
  · have hmarked : marked.text codes = String.ofList ('\uFFFD' :: joinPairs codes) :=
      congrArg String.ofList (if_neg hhalf)
    have hsame : '\uFFFD' :: joinPairs codes = joinPairs codes :=
      String.ofList_injective (hmarked.symm.trans ((h marked).trans (h plain).symm))
    exact absurd (congrArg List.length hsame) (Nat.succ_ne_self _)
  · rw [hs, spelling.paired codes hpaired]

/-- Texts that are made of characters are the same in every spelling. -/
theorem Spelling.text_toNat (spelling : Spelling) (s : String) :
    spelling.text (s.toList.map Char.toNat) = s := by
  obtain ⟨hpaired, hchars⟩ := paired_toNat s.toList
  refine forall_text_eq_iff.2 ⟨hpaired, ?_⟩ spelling
  rw [hchars, String.ofList_toList]

end ReplayFlow.Json
