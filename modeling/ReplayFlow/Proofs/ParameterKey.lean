import ReplayFlow.ParameterKey
import ReplayFlow.Proofs.Text.Words

/-!
The parts of a name that a parameter key is made from. One marker of a text field
is taken off where the name spells it (`unmarks_iff`). A range ending is cut off
at a separator before the word `low` or `high` at the end of the name, and a
closing newline goes with it (`ranged_splitRange`).
-/

namespace ReplayFlow.ParameterKey

open Text (Spells)

variable {name text body rest ending word : List Char} {c : Char}

/-! ## Markers -/

/-- The markers of a text field. -/
def fieldMarkers : List (List Char) := ["ctxt".toList, "txt".toList]

/-- A name without one marker of a text field at its start, in any case of its letters; a name
that has none is left as it is. -/
inductive Unmarks (name : List Char) : List Char → Prop
  | marked {marker found rest : List Char} : marker ∈ fieldMarkers → Spells marker found →
      name = found ++ rest → Unmarks name rest
  | bare : (∀ marker ∈ fieldMarkers, ∀ found rest, Spells marker found → name ≠ found ++ rest) →
      Unmarks name name

theorem unmarks_dropFieldMarker (name : List Char) : Unmarks name (dropFieldMarker name) := by
  unfold dropFieldMarker
  cases hlong : Text.afterAnyCase? "ctxt".toList name with
  | some rest =>
    obtain ⟨found, hfound, hname⟩ := Text.afterAnyCase?_eq_some_iff.1 hlong
    exact .marked (List.mem_cons_self ..) hfound hname
  | none =>
    cases hshort : Text.afterAnyCase? "txt".toList name with
    | some rest =>
      obtain ⟨found, hfound, hname⟩ := Text.afterAnyCase?_eq_some_iff.1 hshort
      exact .marked (List.mem_cons_of_mem _ (List.mem_cons_self ..)) hfound hname
    | none =>
      refine .bare fun marker hmarker found rest hfound hname => ?_
      have hmarked := Text.afterAnyCase?_eq_some_iff.2 ⟨found, hfound, hname⟩
      rcases List.mem_cons.1 hmarker with e | hmarker
      · rw [e, hlong] at hmarked
        cases hmarked
      · rw [List.mem_singleton.1 hmarker, hshort] at hmarked
        cases hmarked

/-- The two markers do not start alike. -/
theorem afterAnyCase?_ctxt_of_txt (h : Spells "txt".toList word) (rest : List Char) :
    Text.afterAnyCase? "ctxt".toList (word ++ rest) = none := by
  have htxt : "txt".toList = ['t', 'x', 't'] := rfl
  rw [htxt] at h
  obtain ⟨c, more, hletter, _, rfl⟩ := List.forall₂_cons_left_iff.1 h
  have hlower : Text.lowerOne c = 't' := by simpa [Text.matchesLetter] using hletter
  simp [Text.afterAnyCase?, Text.matchesLetter, hlower]

theorem unmarks_iff : Unmarks name rest ↔ rest = dropFieldMarker name := by
  refine ⟨fun h => ?_, fun e => e ▸ unmarks_dropFieldMarker name⟩
  cases h with
  | @marked marker found rest hmarker hfound hname =>
    have hmarked := Text.afterAnyCase?_eq_some_iff.2 ⟨found, hfound, hname⟩
    rcases List.mem_cons.1 hmarker with rfl | hmarker
    · rw [dropFieldMarker, hmarked]
    · rw [List.mem_singleton] at hmarker
      subst hmarker
      rw [dropFieldMarker, hname, afterAnyCase?_ctxt_of_txt hfound, ← hname, hmarked]
      rfl
  | bare hnone =>
    have hdropped := unmarks_dropFieldMarker name
    generalize dropFieldMarker name = dropped at hdropped ⊢
    cases hdropped with
    | marked hmarker hfound hname => exact absurd hname (hnone _ hmarker _ _ hfound)
    | bare => rfl

/-! ## Words -/

/-- A word with a capital and small letters. -/
def title : List Char → List Char
  | [] => []
  | c :: rest => Text.capitalize (c :: Text.lower rest)

theorem pascal_eq (word : List Char) :
    pascal word = if Text.isUpperText word || Text.isLowerText word then title word
      else Text.capitalize word := by
  cases word <;> rfl

/-! ## Range endings -/

def rangeWords : List (List Char) := ["low".toList, "high".toList]

/-- A name and its parts: the whole name, or what stands before a separator and a range word, and
that word. -/
inductive Ranged : List Char → List Char × List Char → Prop
  | whole (name : List Char) : Ranged name (name, [])
  | range {body word found newline : List Char} {separator : Char} : word ∈ rangeWords →
      separator = '-' ∨ separator = '_' → Spells word found → newline = [] ∨ newline = ['\n'] →
      Ranged (body ++ separator :: found ++ newline) (body, title found)

theorem exists_of_cutRange? (h : cutRange? word text.reverse = some (body, ending)) :
    ∃ separator found, (separator = '-' ∨ separator = '_') ∧ Spells word found ∧
      text = body ++ separator :: found ∧ ending = title found := by
  unfold cutRange? at h
  split at h
  · rename_i separator rest hafter
    obtain ⟨found, hfound, hreversed⟩ := Text.afterAnyCase?_eq_some_iff.1 hafter
    have hlength : word.length = found.length := by
      simpa using List.Forall₂.length_eq hfound
    have htake : text.reverse.take word.length = found := by
      rw [hreversed, hlength, List.take_left']
      rfl
    have hspells : Spells word found.reverse := by
      have hreverse := List.forall₂_reverse_iff.2 hfound
      rwa [List.reverse_reverse] at hreverse
    have htext : text = rest.reverse ++ separator :: found.reverse := by
      rw [← List.reverse_reverse text, hreversed]
      simp
    rw [htake] at h
    split at h
    · rename_i hseparator
      split at h
      · cases h
      · rename_i hword
        cases h
        exact ⟨separator, found.reverse, hseparator, hspells, htext, by rw [hword]; rfl⟩
    · cases h
  · cases h

theorem ranged_splitRange (name : List Char) : Ranged name (splitRange name) := by
  obtain ⟨newline, hnewline, hname⟩ := Text.exists_withoutFinalNewline name
  have hcut : ∀ word ∈ rangeWords, ∀ parts,
      cutRange? word (Text.withoutFinalNewline name).reverse = some parts → Ranged name parts := by
    rintro word hword ⟨body, ending⟩ hparts
    obtain ⟨separator, found, hseparator, hfound, htext, rfl⟩ := exists_of_cutRange? hparts
    rw [hname, htext]
    exact .range hword hseparator hfound hnewline
  rw [splitRange]
  cases hlow : cutRange? "low".toList (Text.withoutFinalNewline name).reverse with
  | some parts => exact hcut _ (List.mem_cons_self ..) _ hlow
  | none =>
    cases hhigh : cutRange? "high".toList (Text.withoutFinalNewline name).reverse with
    | some parts => exact hcut _ (List.mem_cons_of_mem _ (List.mem_cons_self ..)) _ hhigh
    | none => exact .whole name

/-! ## Keys -/

/-- What is picked from a name is not missed where its brackets go. -/
theorem filter_dropBrackets {p : Char → Bool} (hopen : p '[' = false) (hclose : p ']' = false)
    (name : List Char) : (dropBrackets name).filter p = name.filter p := by
  rw [dropBrackets, List.filter_filter]
  refine List.filter_congr fun c _ => ?_
  by_cases hc : p c = true
  · have hbracket : c ≠ '[' ∧ c ≠ ']' := by
      constructor
      · rintro rfl
        exact absurd hc (by simp [hopen])
      · rintro rfl
        exact absurd hc (by simp [hclose])
    simp [hbracket]
  · simp [hc]

/-- The characters of a key, by the parts of its name. -/
theorem exists_ranged_chars (name : List Char) :
    ∃ body ending, Ranged (dropBrackets (dropFieldMarker name)) (body, ending) ∧
      chars name = (Text.stretches isWordPart body).flatMap pascal ++ ending :=
  ⟨_, _, ranged_splitRange _, rfl⟩

end ReplayFlow.ParameterKey
