import ReplayFlow.Proofs.ParameterKey
import ReplayFlow.Proofs.Text.Ascii

/-!
The letters of a parameter key. In an ASCII name each step towards the key drops
what is no letter or digit or changes letters in their case, and nothing else:
words (`small_flatMap_pascal`), range endings (`Ranged.small_filter`) and brackets
(`filter_dropBrackets`). So a key has the letters and digits of its name, in their
order (`ofName_keeps_letters`).
-/

namespace ReplayFlow.ParameterKey

open Text (IsAscii Spells small)

variable {name body ending word found : List Char} {words : List (List Char)}

/-! ## Words -/

theorem isWordPart_of_ascii {c : Char} (hc : c.toNat < 128) : isWordPart c = c.isAlphanum :=
  Text.forall_ascii (P := fun c => isWordPart c = c.isAlphanum) (by decide) hc

theorem filter_isWordPart (h : IsAscii body) : body.filter isWordPart = body.filter Char.isAlphanum :=
  List.filter_congr fun c hc => isWordPart_of_ascii (h c hc)

theorem small_title (h : IsAscii word) : small (title word) = small word := by
  cases word with
  | nil => rfl
  | cons c rest =>
    obtain ⟨hc, hrest⟩ := Text.isAscii_cons.1 h
    have hword : IsAscii (c :: small rest) := Text.isAscii_cons.2 ⟨hc, Text.isAscii_small hrest⟩
    rw [title, Text.lower_of_isAscii hrest, Text.small_capitalize hword]
    exact congrArg (c.toLower :: ·) (Text.small_small hrest)

theorem small_pascal (h : IsAscii word) : small (pascal word) = small word := by
  rw [pascal_eq]
  split
  · exact small_title h
  · exact Text.small_capitalize h

theorem small_flatMap_pascal (h : IsAscii words.flatten) :
    small (words.flatMap pascal) = small words.flatten := by
  induction words with
  | nil => rfl
  | cons word rest ih =>
    obtain ⟨hword, hrest⟩ := Text.isAscii_append.1 h
    rw [List.flatMap_cons, List.flatten_cons, Text.small_append, Text.small_append,
      small_pascal hword, ih hrest]

/-! ## What is cut off -/

theorem small_rangeWords : ∀ word ∈ rangeWords, small word = word := by decide

theorem isAlphanum_rangeWords : ∀ word ∈ rangeWords, ∀ c ∈ word, c.isAlphanum = true := by
  simp [rangeWords]

theorem filter_found (hword : word ∈ rangeWords) (h : Spells word found) (hascii : IsAscii found) :
    found.filter Char.isAlphanum = found := by
  have hsmall : small found = small word := by rw [h.small_eq hascii, small_rangeWords word hword]
  exact List.filter_eq_self.2
    (Text.isAlphanum_of_small_eq hsmall (isAlphanum_rangeWords word hword))

/-- No letter and no digit is lost where a range ending is cut off. -/
theorem Ranged.small_filter (h : Ranged name (body, ending)) (hascii : IsAscii name) :
    small (body.filter Char.isAlphanum) ++ small ending = small (name.filter Char.isAlphanum) := by
  cases h with
  | whole => exact List.append_nil _
  | @range body word found newline separator hword hseparator hfound hnewline =>
    have hrange : IsAscii found :=
      (Text.isAscii_cons.1 (Text.isAscii_append.1 (Text.isAscii_append.1 hascii).1).2).2
    have hseparated : separator.isAlphanum = false := by
      rcases hseparator with rfl | rfl <;> rfl
    have hended : newline.filter Char.isAlphanum = [] := by
      rcases hnewline with rfl | rfl <;> rfl
    rw [small_title hrange, ← Text.small_append, List.filter_append, List.filter_append, hended,
      List.filter_cons_of_neg (by simp [hseparated]), filter_found hword hfound hrange,
      List.append_nil]

theorem Ranged.isAscii (h : Ranged name (body, ending)) (hascii : IsAscii name) : IsAscii body := by
  cases h with
  | whole => exact hascii
  | range => exact (Text.isAscii_append.1 (Text.isAscii_append.1 hascii).1).1

/-! ## Keys -/

theorem isAscii_dropFieldMarker (h : IsAscii name) : IsAscii (dropFieldMarker name) := by
  have hunmarks := unmarks_dropFieldMarker name
  generalize dropFieldMarker name = bare at hunmarks
  cases hunmarks with
  | marked _ _ hname =>
    subst hname
    exact (Text.isAscii_append.1 h).2
  | bare => exact h

theorem small_chars (h : IsAscii name) :
    small (chars name) = small ((dropFieldMarker name).filter Char.isAlphanum) := by
  obtain ⟨body, ending, hranged, hchars⟩ := exists_ranged_chars name
  have hbare : IsAscii (dropBrackets (dropFieldMarker name)) := (isAscii_dropFieldMarker h).filter _
  have hbody := hranged.isAscii hbare
  have hwords : (Text.stretches isWordPart body).flatten = body.filter Char.isAlphanum := by
    rw [Text.flatten_stretches, filter_isWordPart hbody]
  have hletters : IsAscii (Text.stretches isWordPart body).flatten := by
    rw [hwords]
    exact hbody.filter _
  rw [hchars, Text.small_append, small_flatMap_pascal hletters, hwords,
    hranged.small_filter hbare, filter_dropBrackets rfl rfl]

/-- **A key loses no letter.** The key of an ASCII name has letters and digits alone: those of the
name behind the marker of a text field, in their order, in letters of either case. -/
theorem ofName_keeps_letters {name : String} (h : IsAscii name.toList) :
    ∃ bare, (∀ other, Unmarks name.toList other ↔ other = bare) ∧
      (∀ c ∈ (ofName name).toList, c.isAlphanum = true) ∧
      lowercase (ofName name) = lowercase (String.ofList (bare.filter Char.isAlphanum)) := by
  have hsmall := small_chars h
  have hbare : IsAscii ((dropFieldMarker name.toList).filter Char.isAlphanum) :=
    (isAscii_dropFieldMarker h).filter _
  have hletters : ∀ c ∈ (ofName name).toList, c.isAlphanum = true := by
    rw [ofName, String.toList_ofList]
    exact Text.isAlphanum_of_small_eq hsmall fun c hc => (List.mem_filter.1 hc).2
  refine ⟨_, fun other => unmarks_iff, hletters, ?_⟩
  have hkey : IsAscii (ofName name).toList := fun c hc => Text.ascii_of_isAlphanum (hletters c hc)
  rw [lowercase, lowercase, Text.lower_of_isAscii hkey, String.toList_ofList,
    Text.lower_of_isAscii hbare, ofName, String.toList_ofList, hsmall]

theorem ofName_keeps_letters_bracketed :
    IsAscii "CTxtS_[MAT]nr1-lo[W]\n".toList ∧
      ∃ bare, (∀ other, Unmarks "CTxtS_[MAT]nr1-lo[W]\n".toList other ↔ other = bare) ∧
        (∀ c ∈ (ofName "CTxtS_[MAT]nr1-lo[W]\n").toList, c.isAlphanum = true) ∧
        lowercase (ofName "CTxtS_[MAT]nr1-lo[W]\n") =
          lowercase (String.ofList (bare.filter Char.isAlphanum)) := by
  have hascii : IsAscii "CTxtS_[MAT]nr1-lo[W]\n".toList := by decide
  exact ⟨hascii, ofName_keeps_letters hascii⟩

example : ofName "ctxtS_MATNR-LOW" = "SMatnrLow" := by decide

end ReplayFlow.ParameterKey
