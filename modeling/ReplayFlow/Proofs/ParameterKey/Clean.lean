import ReplayFlow.Proofs.ParameterKey
import ReplayFlow.Proofs.Text.Spread

/-!
Names that are keys as they stand. A name is its own key just where it is clean:
letters and digits alone, without the marker of a text field, and with the capitals
of a single word (`chars_eq_self_iff`). What a clean name lacks would be dropped from it, and
no change of case makes up for it, since none lets a text spread further than it
can (`of_spreadOf_le`). A key need not be clean: letters of their own make a
run of capitals, and behind a marker there may be another one
(`ofName_ofName_changes`).
-/

namespace ReplayFlow.ParameterKey

open Text (Spells spreadOf)

variable {name body ending : List Char}

/-- A name that is left as it is. -/
structure IsClean (name : List Char) : Prop where
  unmarked : Unmarks name name
  letters : ∀ c ∈ name, isWordPart c = true
  oneCase : Text.isUpperText name = true ∨ Text.isLowerText name = true → title name = name
  mixedCase : Text.isUpperText name = false → Text.isLowerText name = false →
    Text.capitalize name = name

theorem pascal_eq_self_iff : pascal name = name ↔
    (Text.isUpperText name = true ∨ Text.isLowerText name = true → title name = name) ∧
      (Text.isUpperText name = false → Text.isLowerText name = false →
        Text.capitalize name = name) := by
  rw [pascal_eq]
  cases Text.isUpperText name <;> cases Text.isLowerText name <;> simp

/-! ## Clean names are kept -/

theorem splitRange_of_letters (h : ∀ c ∈ name, isWordPart c = true) :
    splitRange name = (name, []) := by
  have hranged := ranged_splitRange name
  generalize splitRange name = parts at hranged ⊢
  cases hranged with
  | whole => rfl
  | @range _ _ _ _ separator _ hseparator _ _ =>
    have hpart := h separator (by simp)
    rcases hseparator with rfl | rfl <;> exact absurd hpart (by decide)

theorem dropBrackets_of_letters (h : ∀ c ∈ name, isWordPart c = true) : dropBrackets name = name := by
  refine List.filter_eq_self.2 fun c hc => ?_
  have hpart := h c hc
  simp only [decide_eq_true_eq]
  constructor
  · rintro rfl
    exact absurd hpart (by decide)
  · rintro rfl
    exact absurd hpart (by decide)

/-- Letters and digits alone are one word. -/
theorem flatMap_stretches_of_letters (h : ∀ c ∈ name, isWordPart c = true) :
    (Text.stretches isWordPart name).flatMap pascal = pascal name := by
  cases name with
  | nil => rfl
  | cons c rest => rw [Text.stretches_of_all (List.cons_ne_nil _ _) h, List.flatMap_singleton]

theorem chars_of_letters (hunmarked : dropFieldMarker name = name)
    (hletters : ∀ c ∈ name, isWordPart c = true) : chars name = pascal name := by
  rw [chars, hunmarked, dropBrackets_of_letters hletters, splitRange_of_letters hletters]
  simp only [flatMap_stretches_of_letters hletters, List.append_nil]

/-! ## Keys do not spread -/

theorem spreadOf_title_le (word : List Char) : spreadOf (title word) ≤ spreadOf word := by
  cases word with
  | nil => exact Nat.le_refl _
  | cons c rest =>
    have hlower : spreadOf (c :: Text.lower rest) ≤ spreadOf (c :: rest) :=
      Nat.add_le_add_left (Text.spreadOf_lower_le rest) _
    exact (Text.spreadOf_capitalize_le _).trans hlower

theorem spreadOf_pascal_le (word : List Char) : spreadOf (pascal word) ≤ spreadOf word := by
  rw [pascal_eq]
  split
  · exact spreadOf_title_le word
  · exact Text.spreadOf_capitalize_le word

theorem spreadOf_flatMap_pascal_le (words : List (List Char)) :
    spreadOf (words.flatMap pascal) ≤ spreadOf words.flatten := by
  induction words with
  | nil => exact Nat.le_refl _
  | cons word rest ih =>
    rw [List.flatMap_cons, List.flatten_cons, Text.spreadOf_append, Text.spreadOf_append]
    exact Nat.add_le_add (spreadOf_pascal_le word) ih

/-- A separator that is cut out leaves less, and nothing else is cut out. -/
theorem Ranged.spreadOf_cases (h : Ranged name (body, ending)) :
    body = name ∧ ending = [] ∨ spreadOf body + spreadOf ending < spreadOf name := by
  cases h with
  | whole => exact .inl ⟨rfl, rfl⟩
  | @range _ _ found newline separator _ _ _ _ =>
    refine .inr ?_
    have hpos := Text.spread_pos separator
    have htitle := spreadOf_title_le found
    rw [Text.spreadOf_append, Text.spreadOf_append, Text.spreadOf_cons]
    omega

theorem dropFieldMarker_sublist (name : List Char) : (dropFieldMarker name).Sublist name := by
  have hunmarks := unmarks_dropFieldMarker name
  generalize dropFieldMarker name = bare at hunmarks ⊢
  cases hunmarks with
  | marked _ _ hname =>
    rw [hname]
    exact List.sublist_append_right ..
  | bare => exact List.Sublist.refl _

/-- A name that spreads no further than its key is one word without a marker. -/
theorem of_spreadOf_le (h : spreadOf name ≤ spreadOf (chars name)) :
    dropFieldMarker name = name ∧ ∀ c ∈ name, isWordPart c = true := by
  obtain ⟨body, ending, hranged, hchars⟩ := exists_ranged_chars name
  have hbare := dropFieldMarker_sublist name
  have hplain : (dropBrackets (dropFieldMarker name)).Sublist name :=
    List.filter_sublist.trans hbare
  have hletters : (body.filter isWordPart).Sublist body := List.filter_sublist
  have hwords : spreadOf (chars name) ≤ spreadOf (body.filter isWordPart) + spreadOf ending := by
    rw [hchars, Text.spreadOf_append, ← Text.flatten_stretches]
    exact Nat.add_le_add_right (spreadOf_flatMap_pascal_le _) _
  have hbody := Text.spreadOf_le_of_sublist hletters
  have hname := Text.spreadOf_le_of_sublist hplain
  rcases hranged.spreadOf_cases with ⟨rfl, rfl⟩ | hless
  · -- Nothing is cut out, so the letters spread as far as the name, and they are the name.
    have hspread : spreadOf name ≤ spreadOf
        ((dropBrackets (dropFieldMarker name)).filter isWordPart) := h.trans hwords
    have hall := Text.eq_of_sublist (hletters.trans hplain) hspread
    have hmarker := Text.eq_of_sublist hbare
      (hspread.trans (Text.spreadOf_le_of_sublist (hletters.trans List.filter_sublist)))
    refine ⟨hmarker, fun c hc => ?_⟩
    rw [← hall] at hc
    exact (List.mem_filter.1 hc).2
  · exact absurd h (by omega)

/-- **Names that are keys.** A name is its own key just where it is clean. -/
theorem chars_eq_self_iff : chars name = name ↔ IsClean name := by
  constructor
  · intro h
    obtain ⟨hunmarked, hletters⟩ := of_spreadOf_le (Nat.le_of_eq (congrArg spreadOf h.symm))
    have hcase := pascal_eq_self_iff.1 ((chars_of_letters hunmarked hletters).symm.trans h)
    exact ⟨unmarks_iff.2 hunmarked.symm, hletters, hcase.1, hcase.2⟩
  · intro h
    rw [chars_of_letters (unmarks_iff.1 h.unmarked).symm h.letters]
    exact pascal_eq_self_iff.2 ⟨h.oneCase, h.mixedCase⟩

/-- **Keys of keys.** The key of a key is the key just where the key is clean. -/
theorem ofName_ofName_iff (name : String) :
    ofName (ofName name) = ofName name ↔ IsClean (ofName name).toList := by
  rw [← chars_eq_self_iff]
  generalize ofName name = key
  constructor
  · intro h
    have hchars := congrArg String.toList h
    rwa [ofName, String.toList_ofList] at hchars
  · intro h
    rw [ofName, h, String.ofList_toList]

theorem ofName_ofName_changes :
    ofName (ofName "P_A") ≠ ofName "P_A" ∧
      ofName (ofName "ctxttxtF1") ≠ ofName "ctxttxtF1" := by
  have hcapitals : ofName "P_A" = "PA" ∧ ofName "PA" = "Pa" := by decide
  have hmarked : ofName "ctxttxtF1" = "TxtF1" ∧ ofName "TxtF1" = "F1" := by decide
  rw [hcapitals.1, hcapitals.2, hmarked.1, hmarked.2]
  decide

end ReplayFlow.ParameterKey
