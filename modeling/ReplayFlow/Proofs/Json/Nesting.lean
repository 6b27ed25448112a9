import Mathlib.Data.Nat.Digits.Defs
import ReplayFlow.Proofs.Data.Except
import ReplayFlow.Proofs.Json.Parser
import ReplayFlow.Proofs.Json.Showable

/-!
How deep the brackets of a text nest. A scan counts them that tells strings from the
rest and knows nothing else of the grammar. A reader goes down once more for each
bracket that is open. So what is read goes no deeper than its text, and can be written
out again where writing goes down as far (`showable_of_parseAs`).
-/

namespace ReplayFlow.Json

/-- Where a scan is: outside strings, in one, or behind a backslash in one. -/
inductive Place where
  | outside
  | inside
  | escaped

namespace Place

def next : Place → Char → Place
  | outside, c => if c = '"' then inside else outside
  | inside, c => if c = '"' then outside else if c = '\\' then escaped else inside
  | escaped, _ => inside

/-- How many brackets are open behind a character, if some are before it. -/
def level (place : Place) (c : Char) (level : Nat) : Nat :=
  match place with
  | outside =>
    if c = '[' ∨ c = '\x7b' then level + 1
    else if c = ']' ∨ c = '\x7d' then level - 1
    else level
  | _ => level

end Place

/-- The most brackets that are open at once, in a text that some are open before. -/
def nestingFrom : Place → Nat → List Char → Nat
  | _, level, [] => level
  | place, level, c :: rest => max level (nestingFrom (place.next c) (place.level c level) rest)

/-- How deep the brackets of a text nest. -/
def nesting (text : List Char) : Nat := nestingFrom .outside 0 text

/-- What is seen of a text until it is read or broken. Where it is broken does not depend on the
spelling. -/
def reached (text : List Char) : List Char :=
  match parse text with
  | .error (.unexpected _ position) => text.take position
  | _ => text

variable {text rest : List Char} {place : Place} {level : Nat} {spelling : Spelling}

theorem le_nestingFrom (place : Place) (level : Nat) (text : List Char) :
    level ≤ nestingFrom place level text := by
  cases text with
  | nil => exact Nat.le.refl
  | cons c rest => exact Nat.le_max_left ..

/-- A part at the head of a text nests no deeper. -/
theorem nestingFrom_take_le (place : Place) (level n : Nat) (text : List Char) :
    nestingFrom place level (text.take n) ≤ nestingFrom place level text := by
  induction text generalizing place level n with
  | nil => rw [List.take_nil]
  | cons c rest ih =>
    cases n with
    | zero => exact le_nestingFrom place level (c :: rest)
    | succ n =>
      have hrest := ih (place.next c) (place.level c level) n
      rw [List.take_succ_cons, nestingFrom, nestingFrom]
      omega

theorem nesting_reached_le (text : List Char) : nesting (reached text) ≤ nesting text := by
  unfold reached
  split
  · exact nestingFrom_take_le ..
  · exact Nat.le.refl

/-! ## Steps of the scan -/

theorem nestingFrom_cons_of_level {c : Char} (h : place.level c level = level) :
    nestingFrom place level (c :: rest) = nestingFrom (place.next c) level rest := by
  rw [nestingFrom, h]
  exact Nat.max_eq_right (le_nestingFrom ..)

/-- A character outside strings that opens and closes nothing. -/
def IsPlain (c : Char) : Prop := c ∉ ['"', '[', ']', '\x7b', '\x7d']

instance (c : Char) : Decidable (IsPlain c) := inferInstanceAs (Decidable (¬ _))

theorem nestingFrom_plain {c : Char} (h : IsPlain c) (level : Nat) (rest : List Char) :
    nestingFrom .outside level (c :: rest) = nestingFrom .outside level rest := by
  simp only [IsPlain, List.mem_cons, List.not_mem_nil, or_false, not_or] at h
  have hlevel : Place.outside.level c level = level := by simp [Place.level, h]
  rw [nestingFrom_cons_of_level hlevel, Place.next, if_neg h.1]

theorem nestingFrom_run {run : List Char} (h : ∀ c ∈ run, IsPlain c) (level : Nat)
    (rest : List Char) :
    nestingFrom .outside level (run ++ rest) = nestingFrom .outside level rest := by
  induction run with
  | nil => rfl
  | cons c run ih =>
    obtain ⟨hc, hrun⟩ := List.forall_mem_cons.1 h
    rw [List.cons_append, nestingFrom_plain hc, ih hrun]

theorem nestingFrom_skipSpace (level : Nat) (text : List Char) :
    nestingFrom .outside level (skipSpace text) = nestingFrom .outside level text := by
  have hspaces : ∀ c ∈ text.takeWhile isSpace, IsPlain c := by
    intro c hc
    have hspace := List.mem_takeWhile_imp hc
    simp only [isSpace, Bool.or_eq_true, decide_eq_true_eq] at hspace
    obtain ((rfl | rfl) | rfl) | rfl := hspace <;> decide
  have hrun := nestingFrom_run hspaces level (skipSpace text)
  rw [skipSpace, List.takeWhile_append_dropWhile] at hrun
  exact hrun.symm

/-- An opening bracket. -/
theorem nestingFrom_opened {c : Char} (h : c = '[' ∨ c = '\x7b') (level : Nat) (rest : List Char) :
    nestingFrom .outside level (c :: rest) = nestingFrom .outside (level + 1) rest := by
  have hquote : c ≠ '"' := by rcases h with rfl | rfl <;> decide
  have hdeeper := le_nestingFrom .outside (level + 1) rest
  rw [nestingFrom, Place.next, if_neg hquote, Place.level, if_pos h]
  omega

/-- A closing bracket. -/
theorem nestingFrom_closed {c : Char} (h : c = ']' ∨ c = '\x7d') (level : Nat) (rest : List Char) :
    nestingFrom .outside level rest ≤ nestingFrom .outside (level + 1) (c :: rest) := by
  have hother : c ≠ '"' ∧ ¬ (c = '[' ∨ c = '\x7b') := by rcases h with rfl | rfl <;> decide
  rw [nestingFrom, Place.next, if_neg hother.1, Place.level, if_neg hother.2, if_pos h]
  exact Nat.le_max_right ..

theorem nestingFrom_quote (level : Nat) (rest : List Char) :
    nestingFrom .outside level ('"' :: rest) = nestingFrom .inside level rest :=
  nestingFrom_cons_of_level rfl

theorem nestingFrom_inside {c : Char} (hquote : c ≠ '"') (hslash : c ≠ '\\') (level : Nat)
    (rest : List Char) :
    nestingFrom .inside level (c :: rest) = nestingFrom .inside level rest := by
  rw [nestingFrom_cons_of_level rfl, Place.next, if_neg hquote, if_neg hslash]

theorem nestingFrom_escape (c : Char) (level : Nat) (rest : List Char) :
    nestingFrom .inside level ('\\' :: c :: rest) = nestingFrom .inside level rest := by
  rw [nestingFrom_cons_of_level rfl]
  exact nestingFrom_cons_of_level rfl

/-! ## Strings and numbers -/

theorem hexDigits_ne {a b c d : Char} {code : Nat} (h : fourHex? a b c d = some code) :
    ∀ digit ∈ [a, b, c, d], digit ≠ '"' ∧ digit ≠ '\\' := by
  have hmarks : Text.hexValue? '"' = none ∧ Text.hexValue? '\\' = none := by decide
  have hdigit : ∀ digit, (Text.hexValue? digit).isSome → digit ≠ '"' ∧ digit ≠ '\\' := by
    intro digit hsome
    refine ⟨?_, ?_⟩ <;> rintro rfl
    · rw [hmarks.1] at hsome
      cases hsome
    · rw [hmarks.2] at hsome
      cases hsome
  unfold fourHex? at h
  split at h
  · rename_i ha hb hc hd
    simp only [List.forall_mem_cons]
    exact ⟨hdigit a (by rw [ha]; rfl), hdigit b (by rw [hb]; rfl), hdigit c (by rw [hc]; rfl),
      hdigit d (by rw [hd]; rfl), nofun⟩
  · cases h

/-- A string is passed up to its closing quote. -/
theorem nestingFrom_stringRest {opened : Nat} {read : List Nat × List Char}
    (h : stringRest opened text = .ok read) (level : Nat) :
    nestingFrom .inside level text = nestingFrom .outside level read.2 := by
  fun_induction stringRest opened text generalizing read with
  | case2 rest =>
    cases h
    exact nestingFrom_cons_of_level rfl
  | case6 a b c d rest code hcode _ ih =>
    obtain ⟨more, hmore, rfl⟩ := Except.map_eq_ok_iff.1 h
    have hdigits := hexDigits_ne hcode
    simp only [List.forall_mem_cons] at hdigits
    obtain ⟨ha, hb, hc, hd, _⟩ := hdigits
    rw [nestingFrom_escape, nestingFrom_inside ha.1 ha.2, nestingFrom_inside hb.1 hb.2,
      nestingFrom_inside hc.1 hc.2, nestingFrom_inside hd.1 hd.2, ih hmore]
  | case8 c rest _ _ e _ ih =>
    obtain ⟨more, hmore, rfl⟩ := Except.map_eq_ok_iff.1 h
    rw [nestingFrom_escape, ih hmore]
  | case11 c rest hquote hend _ _ hother _ ih =>
    obtain ⟨more, hmore, rfl⟩ := Except.map_eq_ok_iff.1 h
    have hslash : c ≠ '\\' := by
      intro hc
      cases rest with
      | nil => exact hend hc rfl
      | cons d rest => exact hother d rest hc rfl
    rw [nestingFrom_inside hquote hslash, ih hmore]
  | _ => cases h

theorem nestingFrom_behind (h : Behind text rest) (level : Nat) :
    nestingFrom .outside level text = nestingFrom .outside level rest := by
  obtain ⟨run, rfl, hrun⟩ := h
  refine nestingFrom_run (fun c hc hmark => ?_) level rest
  have hnumeric := hrun c hc
  have hmarks : (['"', '[', ']', '\x7b', '\x7d'].any isNumeric) = false := by decide
  exact List.any_eq_false.1 hmarks c hmark hnumeric

theorem ne_nil_of_wholeDigits? {whole : List Char} (h : wholeDigits? text = some (whole, rest)) :
    whole ≠ [] := by
  unfold wholeDigits? at h
  split at h
  · cases h
    simp
  · split at h
    · rename_i hdigit
      cases h
      simp [hdigit]
    · cases h
  · cases h

/-- A number has no more digits than the run it is read from. -/
theorem length_natText_digitsValue {run : List Char} (h : ∀ c ∈ run, isDigit c = true)
    (hne : run ≠ []) : (Text.natText (digitsValue run)).length ≤ run.length := by
  have hbound : ∀ (digits : List Char) (n : Nat), (∀ c ∈ digits, isDigit c = true) →
      (digits.map fun c => c.toNat - 48).foldl (fun n d => 10 * n + d) n <
        (n + 1) * 10 ^ digits.length := by
    intro digits
    induction digits with
    | nil => intro n _; simp
    | cons c digits ih =>
      intro n hdigits
      obtain ⟨hc, hrest⟩ := List.forall_mem_cons.1 hdigits
      have hle : (10 * n + (c.toNat - 48) + 1) * 10 ^ digits.length ≤
          (n + 1) * 10 ^ (digits.length + 1) := by
        have hnine : c.toNat ≤ 57 := by
          simp only [isDigit, Bool.and_eq_true, decide_eq_true_eq] at hc
          exact hc.2
        rw [Nat.pow_succ', ← Nat.mul_assoc]
        exact Nat.mul_le_mul_right _ (by omega)
      exact (ih _ hrest).trans_le hle
  refine Nat.toDigits_length 10 _ _ (List.length_pos_iff.2 hne) ?_
  simpa [digitsValue, Text.natOfDigits] using hbound run 0 h

/-- A number can always be written out: an integer of more digits is not read. -/
theorem showable_of_unsignedNumber {negative : Bool} {opened : Nat} {v : Json}
    (h : unsignedNumber negative opened text = .ok (v, rest)) (limit : Nat) : Showable limit v := by
  unfold unsignedNumber at h
  split at h
  · cases h
  · rename_i whole after hwhole
    split at h
    split at h
    · split at h
      · cases h
      rename_i hshort
      cases h
      have hdigits : (if negative then -(digitsValue whole : Int) else digitsValue whole).natAbs =
          digitsValue whole := by
        split <;> omega
      have hlength := length_natText_digitsValue (wholeDigits?_append hwhole).2
        (ne_nil_of_wholeDigits? hwhole)
      rw [showable_int_iff, hdigits]
      exact hlength.trans (Nat.not_lt.1 hshort)
    · cases h
      exact ⟨Nat.zero_le _, Nat.zero_le _⟩
    · cases h
      exact ⟨Nat.zero_le _, Nat.zero_le _⟩

/-- A scalar is passed, and can be written out. -/
theorem nestingFrom_readScalar {v : Json} (h : readScalar text = .ok (v, rest)) (level : Nat) :
    nestingFrom .outside level text = nestingFrom .outside level rest ∧
      ∀ limit, Showable limit v := by
  have hword (word : List Char) (hplain : word.all fun c => IsPlain c) :
      nestingFrom .outside level (word ++ rest) = nestingFrom .outside level rest :=
    nestingFrom_run (fun c hc => of_decide_eq_true (List.all_eq_true.1 hplain c hc)) level rest
  have hnumber {negative : Bool} {opened : Nat} {digits : List Char}
      (h : unsignedNumber negative opened digits = .ok (v, rest)) :
      nestingFrom .outside level digits = nestingFrom .outside level rest ∧
        ∀ limit, Showable limit v :=
    ⟨nestingFrom_behind (behind_of_unsignedNumber h) level, showable_of_unsignedNumber h⟩
  have hflat {w : Json} (hdepth : w.depth = 0) (hdigits : w.digits = 0) (limit : Nat) :
      Showable limit w := ⟨hdepth.trans_le (Nat.zero_le _), hdigits.trans_le (Nat.zero_le _)⟩
  unfold readScalar at h
  split at h
  · cases h
    exact ⟨hword ['n', 'u', 'l', 'l'] (by decide), hflat rfl rfl⟩
  · cases h
    exact ⟨hword ['t', 'r', 'u', 'e'] (by decide), hflat rfl rfl⟩
  · cases h
    exact ⟨hword ['f', 'a', 'l', 's', 'e'] (by decide), hflat rfl rfl⟩
  · cases h
    exact ⟨hword ['N', 'a', 'N'] (by decide), hflat rfl rfl⟩
  · cases h
    exact ⟨hword ['I', 'n', 'f', 'i', 'n', 'i', 't', 'y'] (by decide), hflat rfl rfl⟩
  · cases h
    exact ⟨hword ['-', 'I', 'n', 'f', 'i', 'n', 'i', 't', 'y'] (by decide), hflat rfl rfl⟩
  · rw [nestingFrom_plain (by decide)]
    exact hnumber h
  · exact hnumber h

/-! ## Values -/

/-- What a reader may answer about a text behind `start` open brackets: something that can be
written out, as a value behind `level` of them, wherever writing goes as deep as the text; and an
end of the text behind those. -/
def Climbs {α : Type} (level start : Nat) (value : α → Json) (text : List Char) :
    Except Stop (α × List Char) → Prop
  | .ok (read, rest) =>
    (∀ limit, nestingFrom .outside start text ≤ level + limit → Showable limit (value read)) ∧
      nestingFrom .outside level rest ≤ nestingFrom .outside start text
  | .error _ => True

namespace Climbs

variable {α β : Type} {level level' start start' : Nat} {value : α → Json} {value' : β → Json}
  {answer : Except Stop (α × List Char)}

theorem map (h : Climbs level start value rest answer)
    (htext : nestingFrom .outside start rest ≤ nestingFrom .outside start' text) (f : α → β)
    (hf : ∀ read limit, Showable limit (value read) → Showable limit (value' (f read))) :
    Climbs level start' value' text (answer.map fun read => (f read.1, read.2)) := by
  match answer, h with
  | .ok (read, left), ⟨hread, hleft⟩ =>
    exact ⟨fun limit hlimit => hf read limit (hread limit (htext.trans hlimit)),
      hleft.trans htext⟩
  | .error _, _ => trivial

/-- A reader that goes on where another left off. -/
theorem bind (h : Climbs level start value rest answer)
    (htext : nestingFrom .outside start rest ≤ nestingFrom .outside start' text)
    {next : α × List Char → Except Stop (β × List Char)}
    (hnext : ∀ read left,
      (∀ limit, nestingFrom .outside start' text ≤ level + limit → Showable limit (value read)) →
        nestingFrom .outside level left ≤ nestingFrom .outside start' text →
          Climbs level' start' value' text (next (read, left))) :
    Climbs level' start' value' text (answer >>= next) := by
  match answer, h with
  | .ok (read, left), ⟨hread, hleft⟩ =>
    exact hnext read left (fun limit hlimit => hread limit (htext.trans hlimit))
      (hleft.trans htext)
  | .error _, _ => trivial

end Climbs

/-- Behind white space and a closing bracket. -/
theorem nestingFrom_left_of_closed {c : Char} {more : List Char} (hc : c = ']' ∨ c = '\x7d')
    (hmore : skipSpace rest = c :: more) (level : Nat) :
    nestingFrom .outside level more ≤ nestingFrom .outside (level + 1) rest := by
  rw [← nestingFrom_skipSpace (level + 1), hmore]
  exact nestingFrom_closed hc level more

/-- Between white space, behind a character that opens and closes nothing. -/
theorem nestingFrom_left_of_plain {c : Char} {more : List Char} (hc : IsPlain c)
    (hmore : skipSpace rest = c :: more) (level : Nat) :
    nestingFrom .outside level (skipSpace more) = nestingFrom .outside level rest := by
  rw [nestingFrom_skipSpace, ← nestingFrom_skipSpace level rest, hmore, nestingFrom_plain hc]

/-- There is room for a value behind a bracket that is open. -/
theorem exists_succ_of_nestingFrom {level limit : Nat}
    (h : nestingFrom .outside (level + 1) text ≤ level + limit) :
    ∃ n, limit = n + 1 ∧ nestingFrom .outside (level + 1) text ≤ level + 1 + n := by
  have hdeep := le_nestingFrom .outside (level + 1) text
  exact ⟨limit - 1, by omega, by omega⟩

/-- Two brackets with nothing between them. -/
theorem climbs_empty {c d : Char} {more : List Char} {v : Json} (hc : c = '[' ∨ c = '\x7b')
    (hd : d = ']' ∨ d = '\x7d') (hmore : skipSpace rest = d :: more)
    (hv : ∀ n, Showable (n + 1) v) (level : Nat) :
    Climbs level level id (c :: rest) (.ok (v, more)) := by
  rw [Climbs, nestingFrom_opened hc]
  refine ⟨fun limit hlimit => ?_, nestingFrom_left_of_closed hd hmore level⟩
  obtain ⟨n, rfl, _⟩ := exists_succ_of_nestingFrom hlimit
  exact hv n

theorem climbs_readString (spelling : Spelling) (level opened : Nat) (rest : List Char) :
    Climbs level level Json.str ('"' :: rest) (readString spelling opened rest) := by
  cases hread : readString spelling opened rest with
  | error stop => trivial
  | ok read =>
    obtain ⟨codes, hcodes, rfl⟩ := Except.map_eq_ok_iff.1 hread
    refine ⟨fun limit _ => showable_str limit _, ?_⟩
    rw [nestingFrom_quote, nestingFrom_stringRest hcodes]

section

variable {fuel : Nat}
  (hvalue : ∀ level text, Climbs level level id text (readValue spelling fuel text))
  (hitems : ∀ level text, Climbs level (level + 1) arr text (readItems spelling fuel text))
  (hfields : ∀ level text, Climbs level (level + 1) obj text (readFields spelling fuel text))

include hitems hfields in
theorem climbs_readValue_succ (level : Nat) (text : List Char) :
    Climbs level level id text (readValue spelling (fuel + 1) text) := by
  unfold readValue
  split
  · exact (climbs_readString spelling level _ _).map Nat.le.refl Json.str fun _ _ h => h
  · split
    · rename_i hmore
      refine climbs_empty (.inl rfl) (.inl rfl) hmore (fun n => ?_) level
      exact showable_arr_iff.2 (List.forall_mem_nil _)
    · refine (hitems level _).map ?_ Json.arr fun _ _ h => h
      rw [nestingFrom_opened (.inl rfl), nestingFrom_skipSpace]
  · split
    · rename_i hmore
      refine climbs_empty (.inr rfl) (.inr rfl) hmore (fun n => ?_) level
      exact showable_obj_iff.2 (List.forall_mem_nil _)
    · refine (hfields level _).map ?_ (fun fields => Json.obj (Entries.ofList fields))
        fun fields limit h => ?_
      · rw [nestingFrom_opened (.inr rfl), nestingFrom_skipSpace]
      · obtain ⟨n, rfl⟩ := h.exists_succ_of_obj
        exact showable_obj_iff.2 fun field hfield =>
          showable_obj_iff.1 h field (Entries.mem_of_mem_ofList hfield)
  · cases hread : readScalar text with
    | error stop => trivial
    | ok read =>
      obtain ⟨hpassed, hshowable⟩ := nestingFrom_readScalar hread level
      exact ⟨fun limit _ => hshowable limit, hpassed.ge⟩

include hvalue hitems in
theorem climbs_readItems_succ (level : Nat) (text : List Char) :
    Climbs level (level + 1) arr text (readItems spelling (fuel + 1) text) := by
  unfold readItems
  refine (hvalue (level + 1) text).bind Nat.le.refl fun v rest hv hrest => ?_
  dsimp only
  split
  · rename_i hmore
    refine ⟨fun limit hlimit => ?_,
      (nestingFrom_left_of_closed (.inl rfl) hmore level).trans hrest⟩
    obtain ⟨n, rfl, hn⟩ := exists_succ_of_nestingFrom hlimit
    exact showable_arr_iff.2 (List.forall_mem_singleton.2 (hv n hn))
  · rename_i hmore
    have hnext := nestingFrom_left_of_plain (by decide) hmore (level + 1)
    refine (hitems level _).bind (hnext.trans_le hrest) fun items left hitems hleft =>
      ⟨fun limit hlimit => ?_, hleft⟩
    obtain ⟨n, rfl, hn⟩ := exists_succ_of_nestingFrom hlimit
    exact showable_arr_iff.2 (List.forall_mem_cons.2
      ⟨hv n hn, showable_arr_iff.1 (hitems (n + 1) hlimit)⟩)
  · trivial

include hvalue hfields in
theorem climbs_readFields_succ (level : Nat) (text : List Char) :
    Climbs level (level + 1) obj text (readFields spelling (fuel + 1) text) := by
  unfold readFields
  split
  · refine (climbs_readString spelling (level + 1) _ _).bind Nat.le.refl fun key rest _ hrest => ?_
    dsimp only
    split
    · rename_i hcolon
      have hvalueText := nestingFrom_left_of_plain (by decide) hcolon (level + 1)
      refine (hvalue (level + 1) _).bind (hvalueText.trans_le hrest) fun v rest hv hrest => ?_
      dsimp only
      split
      · rename_i hmore
        refine ⟨fun limit hlimit => ?_,
          (nestingFrom_left_of_closed (.inr rfl) hmore level).trans hrest⟩
        obtain ⟨n, rfl, hn⟩ := exists_succ_of_nestingFrom hlimit
        exact showable_obj_iff.2 (List.forall_mem_singleton.2 (hv n hn))
      · rename_i hmore
        have hnext := nestingFrom_left_of_plain (by decide) hmore (level + 1)
        refine (hfields level _).bind (hnext.trans_le hrest) fun fields left hfields hleft =>
          ⟨fun limit hlimit => ?_, hleft⟩
        obtain ⟨n, rfl, hn⟩ := exists_succ_of_nestingFrom hlimit
        exact showable_obj_iff.2 (List.forall_mem_cons.2
          ⟨hv n hn, showable_obj_iff.1 (hfields (n + 1) hlimit)⟩)
      · trivial
    · trivial
  · trivial

end

/-- Each reader keeps to the depth of its text, given that the others do at less fuel. -/
theorem climbs_readers (spelling : Spelling) (fuel : Nat) :
    (∀ level text, Climbs level level id text (readValue spelling fuel text)) ∧
      (∀ level text, Climbs level (level + 1) arr text (readItems spelling fuel text)) ∧
        ∀ level text, Climbs level (level + 1) obj text (readFields spelling fuel text) := by
  induction fuel with
  | zero => exact ⟨fun _ _ => trivial, fun _ _ => trivial, fun _ _ => trivial⟩
  | succ fuel ih =>
    obtain ⟨hvalue, hitems, hfields⟩ := ih
    exact ⟨climbs_readValue_succ hitems hfields, climbs_readItems_succ hvalue hitems,
      climbs_readFields_succ hvalue hfields⟩

/-- **What is read can be written out** where writing goes as deep as its text. -/
theorem showable_of_parseAs {limit : Nat} {v : Json} (h : parseAs spelling text = .ok v)
    (hlimit : nesting text ≤ limit) : Showable limit v := by
  have hread : ∀ text, readText spelling text = .ok v → nesting text ≤ limit →
      Showable limit v := by
    intro text h hlimit
    have hclimbs := (climbs_readers spelling (2 * text.length + 2)).1 0 (skipSpace text)
    unfold readText at h
    cases hvalue : readValue spelling (2 * text.length + 2) (skipSpace text) with
    | error stop =>
      rw [hvalue] at h
      cases h
    | ok read =>
      rw [hvalue] at h hclimbs
      simp only [bind, Except.bind] at h
      split at h <;> cases h
      refine hclimbs.1 limit ?_
      rwa [Nat.zero_add, nestingFrom_skipSpace]
  unfold parseAs at h
  split at h
  · cases h
  · cases htext : readText spelling text with
    | error stop =>
      rw [htext] at h
      cases h
    | ok w =>
      rw [htext] at h
      cases h
      exact hread text htext hlimit

end ReplayFlow.Json
