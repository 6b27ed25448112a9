import Mathlib.Data.List.Forall2
import ReplayFlow.Text.Basic
import ReplayFlow.Text.Case

/-!
Words in a text. The stretches of characters with a property hold the characters
with it and no others (`flatten_stretches`), and a text of such characters alone
is one stretch (`stretches_of_all`). A beginning in any case is found just where
its letters stand (`afterAnyCase?_eq_some_iff`).
-/

namespace ReplayFlow.Text

variable {p : Char → Bool} {c : Char} {text marker rest : List Char}

/-! ## Stretches -/

theorem stretches_cons_of_neg (h : p c = false) (text : List Char) :
    stretches p (c :: text) = stretches p text := by
  simp [stretches, h]

/-- A character with the property goes on with the stretch behind it, or stands alone. -/
theorem stretches_cons_of_pos (h : p c = true) (text : List Char) :
    (∃ stretch more, stretches p text = stretch :: more ∧
      stretches p (c :: text) = (c :: stretch) :: more) ∨
      stretches p (c :: text) = [c] :: stretches p text := by
  cases text with
  | nil => exact .inr (by simp [stretches, h])
  | cons d text =>
    cases hd : p d with
    | false => exact .inr (by rw [stretches]; simp [h, hd])
    | true =>
      cases hstretches : stretches p (d :: text) with
      | nil => exact .inr (by rw [stretches]; simp [h, hd, hstretches])
      | cons stretch more =>
        exact .inl ⟨stretch, more, rfl, by rw [stretches]; simp [h, hd, hstretches]⟩

/-- Stretches leave out what lies between them, and nothing else. -/
theorem flatten_stretches (p : Char → Bool) (text : List Char) :
    (stretches p text).flatten = text.filter p := by
  induction text with
  | nil => rfl
  | cons c text ih =>
    cases h : p c with
    | false => rw [stretches_cons_of_neg h, ih, List.filter_cons_of_neg (by simp [h])]
    | true =>
      rw [List.filter_cons_of_pos h, ← ih]
      rcases stretches_cons_of_pos h text with ⟨stretch, more, hmore, hstretches⟩ | hstretches
      · rw [hstretches, hmore]
        rfl
      · rw [hstretches]
        rfl

theorem stretches_of_all (hne : text ≠ []) (h : ∀ c ∈ text, p c = true) :
    stretches p text = [text] := by
  induction text with
  | nil => exact absurd rfl hne
  | cons c text ih =>
    cases text with
    | nil => simp [stretches, h c (List.mem_singleton_self c)]
    | cons d text =>
      have hrest := ih (List.cons_ne_nil _ _) fun e he => h e (List.mem_cons_of_mem _ he)
      have hc := h c (List.mem_cons_self ..)
      have hd := h d (List.mem_cons_of_mem _ (List.mem_cons_self ..))
      rw [stretches]
      simp only [hc, hd, hrest, if_true]

/-! ## Beginnings in any case -/

/-- A text that spells a marker, case not told apart. -/
def Spells (marker found : List Char) : Prop :=
  List.Forall₂ (fun letter c => matchesLetter letter c = true) marker found

theorem afterAnyCase?_eq_some_iff :
    afterAnyCase? marker text = some rest ↔ ∃ found, Spells marker found ∧ text = found ++ rest := by
  unfold Spells
  induction marker generalizing text with
  | nil =>
    simp only [afterAnyCase?, Option.some.injEq, List.forall₂_nil_left_iff, exists_eq_left,
      List.nil_append]
  | cons letter marker ih =>
    cases text with
    | nil => simp [afterAnyCase?, List.forall₂_cons_left_iff]
    | cons c text =>
      rw [afterAnyCase?]
      by_cases hletter : matchesLetter letter c = true
      · rw [if_pos hletter, ih]
        constructor
        · rintro ⟨found, hfound, rfl⟩
          exact ⟨c :: found, .cons hletter hfound, rfl⟩
        · rintro ⟨_, hfound, e⟩
          obtain ⟨d, found, _, hmore, rfl⟩ := List.forall₂_cons_left_iff.1 hfound
          obtain ⟨rfl, rfl⟩ := List.cons.inj e
          exact ⟨found, hmore, rfl⟩
      · rw [if_neg hletter]
        refine iff_of_false (by simp) ?_
        rintro ⟨_, hfound, e⟩
        obtain ⟨d, found, hd, _, rfl⟩ := List.forall₂_cons_left_iff.1 hfound
        obtain ⟨rfl, rfl⟩ := List.cons.inj e
        exact hletter hd

/-- All of a text but the newline that closes it. -/
theorem exists_withoutFinalNewline (text : List Char) :
    ∃ newline, (newline = [] ∨ newline = ['\n']) ∧
      text = withoutFinalNewline text ++ newline := by
  unfold withoutFinalNewline
  split
  · rename_i rest h
    exact ⟨['\n'], .inr rfl, List.reverse_injective (by simp [h])⟩
  · exact ⟨[], .inl rfl, (List.append_nil text).symm⟩

end ReplayFlow.Text
