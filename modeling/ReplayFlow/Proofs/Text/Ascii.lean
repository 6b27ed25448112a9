import ReplayFlow.Proofs.Text.Case
import ReplayFlow.Proofs.Text.Words

/-!
Case in ASCII texts, where it is a matter of single letters: the lower case of a
text is the one of its characters (`lower_of_isAscii`), and a change of case is
not seen in it (`small_capitalize`).
-/

namespace ReplayFlow.Text

variable {c : Char} {text marker found : List Char}

def IsAscii (text : List Char) : Prop := ∀ c ∈ text, c.toNat < 128

instance (text : List Char) : Decidable (IsAscii text) := List.decidableBAll _ text

/-- The small letters of a text, character by character. -/
def small (text : List Char) : List Char := text.map Char.toLower

theorem small_append (text more : List Char) : small (text ++ more) = small text ++ small more :=
  List.map_append

theorem isAscii_append {more : List Char} :
    IsAscii (text ++ more) ↔ IsAscii text ∧ IsAscii more := List.forall_mem_append

theorem isAscii_cons : IsAscii (c :: text) ↔ c.toNat < 128 ∧ IsAscii text := List.forall_mem_cons

theorem IsAscii.filter (h : IsAscii text) (p : Char → Bool) : IsAscii (text.filter p) :=
  fun c hc => h c (List.mem_filter.1 hc).1

theorem ascii_of_isAlphanum (h : c.isAlphanum = true) : c.toNat < 128 := by
  have hascii : ∀ {high : UInt32}, high.toNat < 128 → c.val ≤ high → c.toNat < 128 :=
    fun hhigh hle => Nat.lt_of_le_of_lt hle hhigh
  rcases Bool.or_eq_true_iff.1 h with halpha | hdigit
  · rcases Bool.or_eq_true_iff.1 halpha with hupper | hlower
    · have hle : c.val ≤ 'Z'.val := (of_decide_eq_true hupper).2
      exact hascii (by decide) hle
    · have hle : c.val ≤ 'z'.val := of_decide_eq_true (Bool.and_eq_true_iff.1 hlower).2
      exact hascii (by decide) hle
  · have hle : c.val ≤ '9'.val := of_decide_eq_true (Bool.and_eq_true_iff.1 hdigit).2
    exact hascii (by decide) hle

/-! ## Small letters -/

theorem lowerFrom_of_isAscii (h : IsAscii text) (before : List Char) :
    lowerFrom before text = small text := by
  induction text generalizing before with
  | nil => rfl
  | cons c text ih =>
    obtain ⟨hc, htext⟩ := isAscii_cons.1 h
    have hsigma : c ≠ 'Σ' := by
      rintro rfl
      exact absurd hc (by decide)
    rw [lowerFrom, if_neg hsigma, lowerChar, if_pos hc, ih htext]
    rfl

theorem lower_of_isAscii (h : IsAscii text) : lower text = small text := lowerFrom_of_isAscii h []

theorem isAscii_small (h : IsAscii text) : IsAscii (small text) := by
  intro d hd
  obtain ⟨c, hc, rfl⟩ := List.mem_map.1 hd
  exact forall_ascii (P := fun c => c.toLower.toNat < 128) (by decide) (h c hc)

theorem small_small (h : IsAscii text) : small (small text) = small text := by
  rw [small, small, List.map_map]
  refine List.map_congr_left fun c hc => ?_
  exact forall_ascii (P := fun c => c.toLower.toLower = c.toLower) (by decide) (h c hc)

theorem small_capitalize (h : IsAscii text) : small (capitalize text) = small text := by
  cases text with
  | nil => rfl
  | cons c text =>
    have hc := h c (List.mem_cons_self ..)
    have hupper : c.toUpper.toLower = c.toLower :=
      forall_ascii (P := fun c => c.toUpper.toLower = c.toLower) (by decide) hc
    rw [capitalize, upperChar, if_pos hc, List.singleton_append]
    exact congrArg (· :: small text) hupper

/-! ## Letters and digits -/

theorem isAlphanum_toLower (c : Char) : c.toLower.isAlphanum = c.isAlphanum := by
  by_cases hc : c.toNat < 128
  · exact forall_ascii (P := fun c => c.toLower.isAlphanum = c.isAlphanum) (by decide) hc
  · have hlower : c.toLower = c := dif_neg fun h => hc (Nat.lt_of_le_of_lt h.2 (by decide))
    rw [hlower]

/-- Texts of the same small letters have letters and digits alone together. -/
theorem isAlphanum_of_small_eq {more : List Char} (h : small text = small more)
    (hmore : ∀ c ∈ more, c.isAlphanum = true) : ∀ c ∈ text, c.isAlphanum = true := by
  intro c hc
  have hmem : c.toLower ∈ small more := h ▸ List.mem_map_of_mem hc
  obtain ⟨d, hd, hlower⟩ := List.mem_map.1 hmem
  rw [← isAlphanum_toLower, ← hlower, isAlphanum_toLower]
  exact hmore d hd

/-- A marker spelled in ASCII has the small letters of the marker. -/
theorem Spells.small_eq (h : Spells marker found) (hascii : IsAscii found) :
    small found = marker := by
  induction h with
  | nil => rfl
  | @cons letter c marker found hletter _ ih =>
    obtain ⟨hc, hfound⟩ := isAscii_cons.1 hascii
    have hdotless : c ≠ 'ı' := by
      rintro rfl
      exact absurd hc (by decide)
    have hlower : c.toLower = letter := by
      simpa [matchesLetter, lowerOne, hc, hdotless] using hletter
    rw [← ih hfound, ← hlower]
    rfl

end ReplayFlow.Text
