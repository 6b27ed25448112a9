import ReplayFlow.Proofs.ParameterKey
import ReplayFlow.Proofs.Text.Ascii
import ReplayFlow.Proofs.Text.Spread

/-!
Empty parameter keys. A word is never lost, and the word of a range ending has
letters of its own (`isWordPart_found`), so a key is empty just where its name has
no letter and no digit behind its marker (`ofName_ne_empty_iff`).
-/

namespace ReplayFlow.ParameterKey

open Text (Spells)

variable {name body ending word found : List Char} {c letter : Char}

/-! ## Words -/

theorem capitalize_eq_nil_iff : Text.capitalize word = [] ↔ word = [] := by
  cases word with
  | nil => exact iff_of_true rfl rfl
  | cons c rest =>
    refine iff_of_false ?_ (List.cons_ne_nil _ _)
    rw [Text.capitalize, List.append_eq_nil_iff]
    exact fun h => Text.upperChar_ne_nil c h.1

theorem title_eq_nil_iff : title word = [] ↔ word = [] := by
  cases word with
  | nil => exact iff_of_true rfl rfl
  | cons c rest =>
    rw [title, capitalize_eq_nil_iff]
    exact iff_of_false (List.cons_ne_nil _ _) (List.cons_ne_nil _ _)

theorem pascal_eq_nil_iff : pascal word = [] ↔ word = [] := by
  rw [pascal_eq]
  split
  · exact title_eq_nil_iff
  · exact capitalize_eq_nil_iff

/-- A name without letters has no words. -/
theorem words_eq_nil_iff :
    (Text.stretches isWordPart body).flatMap pascal = [] ↔ body.filter isWordPart = [] := by
  rw [← Text.flatten_stretches, List.flatMap_eq_nil_iff, List.flatten_eq_nil_iff]
  exact forall₂_congr fun word _ => pascal_eq_nil_iff

/-! ## Range endings -/

/-- The letters of the range words. -/
def rangeLetters : List Char := rangeWords.flatten

theorem rangeWords_ne_nil : ∀ word ∈ rangeWords, word ≠ [] := by decide

theorem ascii_rangeLetters : Text.IsAscii rangeLetters := by decide

/-- No character above ASCII is moved onto a letter of the range words. -/
theorem spares_rangeLetters :
    ∀ range ∈ Text.lowerShifts, Text.Spares (rangeLetters.map Char.toNat) range = true := by
  decide +kernel

theorem shifted_not_mem_rangeLetters (hc : 128 ≤ c.toNat) :
    Text.shifted Text.lowerShifts c ∉ rangeLetters := by
  intro hmem
  by_cases hmoves : Text.shiftOf c.toNat Text.lowerShifts = 0
  · have hstays : Text.shifted Text.lowerShifts c = c := by simp [Text.shifted, hmoves]
    rw [hstays] at hmem
    have hascii := ascii_rangeLetters c hmem
    omega
  · refine Text.shifted_not_mem (by decide) hmoves ?_ (List.mem_map_of_mem hmem)
    exact fun range hrange _ _ => spares_rangeLetters range hrange

/-- What stands for a letter of a range word is a letter of a word, in every script. -/
theorem isWordPart_of_matchesLetter (hletter : letter ∈ rangeLetters)
    (h : Text.matchesLetter letter c = true) : isWordPart c = true := by
  by_cases hc : c.toNat < 128
  · have hascii : (rangeLetters.any fun letter => Text.matchesLetter letter c) = true →
        isWordPart c = true :=
      Text.forall_ascii (P := fun c => (rangeLetters.any fun letter =>
        Text.matchesLetter letter c) = true → isWordPart c = true) (by decide) hc
    exact hascii (List.any_eq_true.2 ⟨letter, hletter, h⟩)
  · by_cases hdotted : c = 'İ'
    · rw [hdotted]
      decide
    · by_cases hdotless : c = 'ı'
      · rw [hdotless]
        decide
      · have hshifted : Text.shifted Text.lowerShifts c = letter := by
          simpa [Text.matchesLetter, Text.lowerOne, hc, hdotted, hdotless] using h
        exact absurd (hshifted ▸ hletter) (shifted_not_mem_rangeLetters (by omega))

theorem isWordPart_of_spells (h : Spells word found)
    (hletters : word ⊆ rangeLetters) : ∀ c ∈ found, isWordPart c = true := by
  induction h with
  | nil => exact List.forall_mem_nil _
  | cons hmatches _ ih =>
    obtain ⟨hletter, hmore⟩ := List.cons_subset.1 hletters
    exact List.forall_mem_cons.2 ⟨isWordPart_of_matchesLetter hletter hmatches, ih hmore⟩

/-- What spells a range word is a word. -/
theorem isWordPart_found (hword : word ∈ rangeWords) (h : Spells word found) :
    found ≠ [] ∧ ∀ c ∈ found, isWordPart c = true := by
  refine ⟨?_, isWordPart_of_spells h fun c hc => List.mem_flatten.2 ⟨word, hword, hc⟩⟩
  rintro rfl
  exact rangeWords_ne_nil word hword (List.forall₂_nil_right_iff.1 h)

/-- A name has letters where its parts have something left. -/
theorem Ranged.filter_eq_nil_iff (h : Ranged name (body, ending)) :
    name.filter isWordPart = [] ↔ body.filter isWordPart = [] ∧ ending = [] := by
  cases h with
  | whole => exact (and_iff_left rfl).symm
  | range hword _ hfound _ =>
    obtain ⟨hne, hletters⟩ := isWordPart_found hword hfound
    obtain ⟨c, rest, rfl⟩ := List.exists_cons_of_ne_nil hne
    have hc := hletters c (List.mem_cons_self ..)
    refine iff_of_false ?_ fun hnil => hne (title_eq_nil_iff.1 hnil.2)
    simp [hc]

/-! ## Keys -/

theorem chars_eq_nil_iff : chars name = [] ↔ (dropFieldMarker name).filter isWordPart = [] := by
  obtain ⟨body, ending, hranged, hchars⟩ := exists_ranged_chars name
  rw [hchars, List.append_eq_nil_iff, words_eq_nil_iff, ← hranged.filter_eq_nil_iff,
    filter_dropBrackets (by decide) (by decide)]

/-- A name with a letter or a digit behind the marker of a text field. -/
def HasLetter (name : String) : Prop :=
  ∃ bare, Unmarks name.toList bare ∧ ∃ c ∈ bare, isWordPart c = true

/-- **Empty keys.** A name has a key just where it has a letter or a digit. -/
theorem ofName_ne_empty_iff (name : String) : ofName name ≠ "" ↔ HasLetter name := by
  have hkey : ofName name = "" ↔ chars name.toList = [] := by
    rw [← String.toList_eq_nil_iff, ofName, String.toList_ofList]
  rw [Ne, hkey, chars_eq_nil_iff, List.filter_eq_nil_iff, HasLetter]
  simp only [unmarks_iff, exists_eq_left, not_forall, not_not, exists_prop]

end ReplayFlow.ParameterKey
