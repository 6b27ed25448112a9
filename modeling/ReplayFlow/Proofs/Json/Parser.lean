import Mathlib.Data.List.Infix
import Mathlib.Data.List.TakeWhile
import ReplayFlow.Json.Parser

/-!
Where a reader may stop. It leaves an end of the text it was given, and it stops
at an integer that is too long only where the text has a run of that many digits
(`Within`). Each reader keeps to that, and so does the reading of a whole text
(`parseAs_oversized`).
-/

namespace ReplayFlow.Json

variable {α β : Type} {text rest : List Char} {n : Nat} {spelling : Spelling}

/-- Some part of a text is a run of this many digits. -/
def HasRun (n : Nat) (text : List Char) : Prop :=
  ∃ run, run <:+: text ∧ run.length = n ∧ ∀ c ∈ run, isDigit c = true

theorem HasRun.mono (h : HasRun n rest) (hrest : rest <:+: text) : HasRun n text := by
  obtain ⟨run, hrun, hlength, hdigits⟩ := h
  exact ⟨run, hrun.trans hrest, hlength, hdigits⟩

/-- What a reader may answer about a text: a value and an end of the text, that something else
was expected, or that an integer of the text has too many digits. -/
def Within (text : List Char) : Except Stop (α × List Char) → Prop
  | .ok (_, rest) => rest <:+ text
  | .error (.unexpected _ _) => True
  | .error (.oversized n) => Text.integerDigitLimit < n ∧ HasRun n text

namespace Within

variable {answer : Except Stop (α × List Char)}

theorem mono (h : Within rest answer) (hrest : rest <:+ text) : Within text answer := by
  match answer, h with
  | .ok (_, left), h => exact List.IsSuffix.trans h hrest
  | .error (.unexpected _ _), _ => trivial
  | .error (.oversized _), h => exact ⟨h.1, h.2.mono hrest.isInfix⟩

theorem map (h : Within text answer) (f : α → β) :
    Within text (answer.map fun read => (f read.1, read.2)) := by
  match answer, h with
  | .ok (_, _), h => exact h
  | .error (.unexpected _ _), _ => trivial
  | .error (.oversized _), h => exact h

/-- A reader that goes on where another left off. -/
theorem bind (h : Within text answer) {next : α × List Char → Except Stop (β × List Char)}
    (hnext : ∀ read, read.2 <:+ text → Within text (next read)) :
    Within text (answer >>= next) := by
  match answer, h with
  | .ok read, h => exact hnext read h
  | .error (.unexpected _ _), _ => trivial
  | .error (.oversized _), h => exact h

end Within

theorem within_stop (expected : Expected) (left : List Char) :
    Within text (stop expected left : Except Stop (α × List Char)) := trivial

/-! ## Space, strings and numbers -/

theorem skipSpace_suffix (text : List Char) : skipSpace text <:+ text := List.dropWhile_suffix _

/-- What follows a sign after white space. -/
theorem suffix_of_skipSpace {c : Char} {more : List Char} (h : skipSpace rest = c :: more)
    (hrest : rest <:+ text) : more <:+ text :=
  ((List.suffix_cons c more).trans (h ▸ skipSpace_suffix rest)).trans hrest

theorem within_stringRest (opened : Nat) (text : List Char) :
    Within text (stringRest opened text) := by
  fun_induction stringRest opened text with
  | case2 rest => exact List.suffix_cons ..
  | case6 a b c d rest code _ _ ih => exact (ih.map (code :: ·)).mono ⟨['\\', 'u', a, b, c, d], rfl⟩
  | case8 c rest _ _ e _ ih => exact (ih.map (e.toNat :: ·)).mono ⟨['\\', c], rfl⟩
  | case11 c rest _ _ _ _ _ _ ih => exact (ih.map (c.toNat :: ·)).mono (List.suffix_cons ..)
  | _ => trivial

theorem within_readString (opened : Nat) (text : List Char) :
    Within text (readString spelling opened text) :=
  (within_stringRest opened text).map spelling.text

/-- The signs that numbers are written with, behind a sign of their own. -/
def isNumeric (c : Char) : Bool := isDigit c || c ∈ ['.', 'e', 'E', '+', '-']

/-- What is left of a text behind signs of numbers. -/
def Behind (text rest : List Char) : Prop :=
  ∃ run, run ++ rest = text ∧ ∀ c ∈ run, isNumeric c = true

namespace Behind

variable {c : Char} {left : List Char}

theorem refl (text : List Char) : Behind text text := ⟨[], rfl, nofun⟩

theorem digits {run : List Char} (h : ∀ c ∈ run, isDigit c = true) (rest : List Char) :
    Behind (run ++ rest) rest :=
  ⟨run, rfl, fun c hc => by rw [isNumeric, h c hc, Bool.true_or]⟩

theorem cons (h : Behind text rest) (hc : isNumeric c = true) : Behind (c :: text) rest := by
  obtain ⟨run, rfl, hrun⟩ := h
  exact ⟨c :: run, rfl, List.forall_mem_cons.2 ⟨hc, hrun⟩⟩

theorem trans (h : Behind text rest) (h' : Behind rest left) : Behind text left := by
  obtain ⟨run, rfl, hrun⟩ := h
  obtain ⟨more, rfl, hmore⟩ := h'
  exact ⟨run ++ more, List.append_assoc .., List.forall_mem_append.2 ⟨hrun, hmore⟩⟩

theorem suffix (h : Behind text rest) : rest <:+ text := by
  obtain ⟨run, rfl, _⟩ := h
  exact List.suffix_append ..

end Behind

theorem behind_dropWhile (text : List Char) : Behind text (text.dropWhile isDigit) := by
  have hdigits : ∀ c ∈ text.takeWhile isDigit, isDigit c = true :=
    fun c hc => List.mem_takeWhile_imp hc
  have hsplit := Behind.digits hdigits (text.dropWhile isDigit)
  rwa [List.takeWhile_append_dropWhile] at hsplit

theorem wholeDigits?_append {whole : List Char} (h : wholeDigits? text = some (whole, rest)) :
    text = whole ++ rest ∧ ∀ c ∈ whole, isDigit c = true := by
  unfold wholeDigits? at h
  split at h
  · have hzero : isDigit '0' = true := by decide
    cases h
    exact ⟨rfl, fun c hc => List.mem_singleton.1 hc ▸ hzero⟩
  · split at h
    · cases h
      exact ⟨(List.takeWhile_append_dropWhile ..).symm, fun c hc => List.mem_takeWhile_imp hc⟩
    · cases h
  · cases h

theorem behind_fractionDigits (text : List Char) : Behind text (fractionDigits text).2 := by
  unfold fractionDigits
  split
  · split
    · exact Behind.refl _
    · exact (behind_dropWhile _).cons rfl
  · exact Behind.refl _

theorem behind_of_unsignedExponent? {e : Nat} (h : unsignedExponent? text = some (e, rest)) :
    Behind text rest := by
  unfold unsignedExponent? at h
  split at h
  · cases h
  · cases h
    exact behind_dropWhile text

theorem behind_of_exponentPart? {e : Int} (h : exponentPart? text = some (e, rest)) :
    Behind text rest := by
  have hread (sign : Nat → Int) {more : List Char}
      (h : ((unsignedExponent? more).map fun e => (sign e.1, e.2)) = some (e, rest)) :
      Behind more rest := by
    obtain ⟨read, hread, heq⟩ := Option.map_eq_some_iff.1 h
    cases heq
    exact behind_of_unsignedExponent? hread
  unfold exponentPart? at h
  split at h
  · rename_i c text
    split at h
    · rename_i hletter
      have hc : isNumeric c = true := by rcases hletter with rfl | rfl <;> rfl
      split at h
      · exact ((hread (fun e => -(e : Int)) h).cons rfl).cons hc
      · exact ((hread Int.ofNat h).cons rfl).cons hc
      · exact (hread Int.ofNat h).cons hc
    · cases h
  · cases h

/-- A number is read up to what is no sign of one. -/
theorem behind_of_unsignedNumber {negative : Bool} {opened : Nat} {v : Json}
    (h : unsignedNumber negative opened text = .ok (v, rest)) : Behind text rest := by
  unfold unsignedNumber at h
  split at h
  · cases h
  · rename_i whole after hwhole
    obtain ⟨rfl, hdigits⟩ := wholeDigits?_append hwhole
    refine (Behind.digits hdigits after).trans ?_
    have hfraction := behind_fractionDigits after
    split at h
    rename_i fraction left hsplit
    rw [hsplit] at hfraction
    split at h
    · split at h <;> cases h
      exact hfraction
    · cases h
      exact hfraction
    · rename_i hexponent
      cases h
      exact hfraction.trans (behind_of_exponentPart? hexponent)

theorem unsignedNumber_oversized {negative : Bool} {opened : Nat}
    (h : unsignedNumber negative opened text = .error (.oversized n)) :
    Text.integerDigitLimit < n ∧ HasRun n text := by
  unfold unsignedNumber at h
  split at h
  · cases h
  · rename_i whole rest hwhole
    obtain ⟨rfl, hdigits⟩ := wholeDigits?_append hwhole
    split at h
    split at h
    · split at h <;> cases h
      rename_i hlong
      exact ⟨hlong, whole, (List.prefix_append ..).isInfix, rfl, hdigits⟩
    · cases h
    · cases h

theorem within_unsignedNumber (negative : Bool) (opened : Nat) (text : List Char) :
    Within text (unsignedNumber negative opened text) := by
  cases hread : unsignedNumber negative opened text with
  | ok read => exact (behind_of_unsignedNumber hread).suffix
  | error stop =>
    cases stop with
    | unexpected expected left => trivial
    | oversized digits => exact unsignedNumber_oversized hread

theorem within_readScalar (text : List Char) : Within text (readScalar text) := by
  unfold readScalar
  split
  · exact ⟨['n', 'u', 'l', 'l'], rfl⟩
  · exact ⟨['t', 'r', 'u', 'e'], rfl⟩
  · exact ⟨['f', 'a', 'l', 's', 'e'], rfl⟩
  · exact ⟨['N', 'a', 'N'], rfl⟩
  · exact ⟨['I', 'n', 'f', 'i', 'n', 'i', 't', 'y'], rfl⟩
  · exact ⟨['-', 'I', 'n', 'f', 'i', 'n', 'i', 't', 'y'], rfl⟩
  · exact (within_unsignedNumber ..).mono (List.suffix_cons ..)
  · exact within_unsignedNumber ..

/-! ## Values -/

section

variable {fuel : Nat} (hvalue : ∀ text, Within text (readValue spelling fuel text))
  (hitems : ∀ text, Within text (readItems spelling fuel text))
  (hfields : ∀ text, Within text (readFields spelling fuel text))

include hitems hfields in
theorem within_readValue_succ (text : List Char) : Within text (readValue spelling (fuel + 1) text) := by
  unfold readValue
  split
  · exact ((within_readString ..).map Json.str).mono (List.suffix_cons ..)
  · split
    · rename_i hmore
      exact suffix_of_skipSpace hmore (List.suffix_cons ..)
    · exact ((hitems _).map Json.arr).mono ((skipSpace_suffix _).trans (List.suffix_cons ..))
  · split
    · rename_i hmore
      exact suffix_of_skipSpace hmore (List.suffix_cons ..)
    · exact ((hfields _).map fun fields => Json.obj (Entries.ofList fields)).mono
        ((skipSpace_suffix _).trans (List.suffix_cons ..))
  · exact within_readScalar _

include hvalue hitems in
theorem within_readItems_succ (text : List Char) : Within text (readItems spelling (fuel + 1) text) := by
  unfold readItems
  refine (hvalue text).bind fun ⟨v, rest⟩ hrest => ?_
  dsimp only
  split
  · rename_i hmore
    exact suffix_of_skipSpace hmore hrest
  · rename_i more hmore
    have hnext : skipSpace more <:+ text :=
      (skipSpace_suffix more).trans (suffix_of_skipSpace hmore hrest)
    exact ((hitems (skipSpace more)).mono hnext).bind fun _ h => h
  · exact within_stop ..

include hvalue hfields in
theorem within_readFields_succ (text : List Char) : Within text (readFields spelling (fuel + 1) text) := by
  unfold readFields
  split
  · refine ((within_readString ..).mono (List.suffix_cons ..)).bind fun ⟨key, rest⟩ hrest => ?_
    dsimp only
    split
    · rename_i afterColon hcolon
      have hvalueText := (skipSpace_suffix afterColon).trans (suffix_of_skipSpace hcolon hrest)
      refine ((hvalue (skipSpace afterColon)).mono hvalueText).bind fun ⟨v, rest⟩ hrest => ?_
      dsimp only
      split
      · rename_i hmore
        exact suffix_of_skipSpace hmore hrest
      · rename_i more hmore
        have hnext := (skipSpace_suffix more).trans (suffix_of_skipSpace hmore hrest)
        exact ((hfields (skipSpace more)).mono hnext).bind fun _ h => h
      · exact within_stop ..
    · exact within_stop ..
  · exact within_stop ..

end

/-- Each reader keeps to its text, given that the others do at less fuel. -/
theorem within_readers (spelling : Spelling) (fuel : Nat) :
    (∀ text, Within text (readValue spelling fuel text)) ∧
    (∀ text, Within text (readItems spelling fuel text)) ∧ ∀ text, Within text (readFields spelling fuel text) := by
  induction fuel with
  | zero => exact ⟨fun _ => trivial, fun _ => trivial, fun _ => trivial⟩
  | succ fuel ih =>
    obtain ⟨hvalue, hitems, hfields⟩ := ih
    exact ⟨within_readValue_succ hitems hfields, within_readItems_succ hvalue hitems,
      within_readFields_succ hvalue hfields⟩

/-! ## Texts -/

theorem readText_oversized (h : readText spelling text = .error (.oversized n)) :
    Text.integerDigitLimit < n ∧ HasRun n text := by
  have hvalue := ((within_readers spelling (2 * text.length + 2)).1 (skipSpace text)).mono
    (skipSpace_suffix text)
  unfold readText at h
  cases hread : readValue spelling (2 * text.length + 2) (skipSpace text) with
  | ok read =>
    rw [hread] at h
    simp only [bind, Except.bind] at h
    split at h <;> cases h
  | error stop =>
    rw [hread] at h hvalue
    cases h
    exact hvalue

/-- A text is refused for a long integer only if it has a run of that many digits. -/
theorem parseAs_oversized (h : parseAs spelling text = .error (.oversized n)) :
    Text.integerDigitLimit < n ∧ HasRun n text := by
  unfold parseAs at h
  split at h
  · cases h
  · cases hread : readText spelling text with
    | ok v =>
      rw [hread] at h
      cases h
    | error stop =>
      rw [hread] at h
      cases stop with
      | unexpected expected left => cases h
      | oversized digits =>
        cases h
        exact readText_oversized hread

end ReplayFlow.Json
