import ReplayFlow.Proofs.Json.Distinct
import ReplayFlow.Proofs.Json.Printer

/-!
Documents that are written and read back. Exact documents, those without floats
and with integers a reader takes, are read from their indented text as they were
written, with their fields in order (`parseAs_block`). The text is read from its
head, so each step says what is left of it.
-/

namespace ReplayFlow.Json

/-! ## Exact documents -/

mutual

/-- A value that its text says exactly: there is no float in it, and no integer is too long to be
read. -/
def Exact : Json → Prop
  | int n => (Text.natText n.natAbs).length ≤ Text.integerDigitLimit
  | float _ => False
  | arr items => ExactItems items
  | obj fields => ExactFields fields
  | _ => True

def ExactItems : List Json → Prop
  | [] => True
  | v :: rest => Exact v ∧ ExactItems rest

def ExactFields : List (String × Json) → Prop
  | [] => True
  | (_, v) :: rest => Exact v ∧ ExactFields rest

end

variable {v : Json} {fields : Entries Json} {level fuel : Nat} {rest : List Char}
  {spelling : Spelling}

theorem exactFields_iff : ExactFields fields ↔ ∀ field ∈ fields, Exact field.2 := by
  induction fields with
  | nil => simp [ExactFields]
  | cons field rest ih => simp [ExactFields, ih]

theorem exact_obj_iff : Exact (.obj fields) ↔ ∀ field ∈ fields, Exact field.2 := by
  rw [Exact, exactFields_iff]

/-! ## How a text opens -/

/-- The characters a value may open with. -/
def isOpening (c : Char) : Bool :=
  c ∈ ['"', '[', '\x7b', 'n', 't', 'f', '-'] || isDigit c

theorem exists_block_eq_cons (hexact : Exact v) (level : Nat) :
    ∃ c more, block level v = c :: more ∧ isOpening c = true := by
  cases v with
  | null => exact ⟨_, _, rfl, by decide⟩
  | bool b => cases b <;> exact ⟨_, _, rfl, by decide⟩
  | int n =>
    obtain ⟨c, more, htext, hc⟩ := exists_intText_eq_cons n
    have hblock : block level (int n) = Text.intText n := by simp only [block, scalarText]
    refine ⟨c, more, hblock.trans htext, ?_⟩
    obtain rfl | hc := hc
    · decide
    · rw [isOpening, hc, Bool.or_true]
  | float x => exact hexact.elim
  | str s => exact ⟨_, _, rfl, by decide⟩
  | arr items =>
    cases items with
    | nil => exact ⟨_, _, rfl, by decide⟩
    | cons v rest => exact ⟨_, _, rfl, by decide⟩
  | obj fields =>
    cases fields with
    | nil => exact ⟨_, _, rfl, by decide⟩
    | cons field rest => exact ⟨_, _, rfl, by decide⟩

/-- A value opens with an ASCII character. -/
theorem toNat_lt_of_isOpening {c : Char} (h : isOpening c = true) : c.toNat < 0x80 := by
  have hmarks : ∀ mark ∈ ['"', '[', '\x7b', 'n', 't', 'f', '-'], mark.toNat < 0x80 := by simp
  rw [isOpening, Bool.or_eq_true, decide_eq_true_eq] at h
  obtain hmark | hdigit := h
  · exact hmarks c hmark
  · simp only [isDigit, Bool.and_eq_true, decide_eq_true_eq] at hdigit
    have hnine : c.toNat ≤ 57 := hdigit.2
    omega

theorem isSpace_of_isOpening {c : Char} (h : isOpening c = true) : isSpace c = false := by
  cases hspace : isSpace c with
  | false => rfl
  | true =>
    simp only [isSpace, Bool.or_eq_true, decide_eq_true_eq] at hspace
    obtain ((rfl | rfl) | rfl) | rfl := hspace <;> cases h

theorem skipSpace_cons {c : Char} (h : isSpace c = false) (more : List Char) :
    skipSpace (c :: more) = c :: more := by
  rw [skipSpace, List.dropWhile_cons_of_neg (by simp [h])]

theorem skipSpace_newLine (level : Nat) (text : List Char) :
    skipSpace (newLine level ++ text) = skipSpace text := by
  have hspaces : ∀ c ∈ newLine level, isSpace c = true := by
    intro c hc
    obtain rfl | hc := List.mem_cons.1 hc
    · decide
    · rw [List.eq_of_mem_replicate hc]
      decide
  rw [skipSpace, skipSpace, List.dropWhile_append_of_pos hspaces]

theorem skipSpace_block (hexact : Exact v) (level : Nat) (rest : List Char) :
    skipSpace (block level v ++ rest) = block level v ++ rest := by
  obtain ⟨c, more, htext, hc⟩ := exists_block_eq_cons hexact level
  rw [htext, List.cons_append, skipSpace_cons (isSpace_of_isOpening hc)]

theorem skipSpace_stringText (text : String) (rest : List Char) :
    skipSpace (stringText text ++ rest) = stringText text ++ rest := skipSpace_cons (by decide) _

theorem ends_newLine (level : Nat) (rest : List Char) : Ends (newLine level ++ rest) := by
  rintro c ⟨⟩
  exact .inr rfl

theorem ends_comma (rest : List Char) : Ends (',' :: rest) := by
  rintro c ⟨⟩
  exact .inl rfl

/-! ## Reading values -/

/-- What is read back at some fuel: a value that is no longer than the fuel, and the items of an
array or the fields of an object that are shorter, up to the bracket that closes them. -/
structure ReadsBack (spelling : Spelling) (fuel : Nat) : Prop where
  value : ∀ v level rest, Exact v → Distinct v → Ends rest → (block level v).length ≤ fuel →
    readValue spelling fuel (block level v ++ rest) = .ok (v, rest)
  items : ∀ v items level close rest, ExactItems (v :: items) → DistinctItems (v :: items) →
    (block level v ++ blockItems level items).length < fuel →
    readItems spelling fuel (block level v ++ (blockItems level items ++ (newLine close ++ ']' :: rest))) =
      .ok (v :: items, rest)
  fields : ∀ key v fields level close rest, ExactFields ((key, v) :: fields) →
    DistinctFields ((key, v) :: fields) →
    (stringText key ++ block level v ++ blockFields level fields).length < fuel →
    readFields spelling fuel (stringText key ++ (':' :: ' ' :: (block level v ++
      (blockFields level fields ++ (newLine close ++ '\x7d' :: rest))))) =
        .ok ((key, v) :: fields, rest)

section

variable (h : ReadsBack spelling fuel)

include h in
theorem readItems_block_succ (v : Json) (items : List Json) (level close : Nat)
    (rest : List Char) (hexact : ExactItems (v :: items)) (hdistinct : DistinctItems (v :: items))
    (hfuel : (block level v ++ blockItems level items).length < fuel + 1) :
    readItems spelling (fuel + 1)
        (block level v ++ (blockItems level items ++ (newLine close ++ ']' :: rest))) =
      .ok (v :: items, rest) := by
  rw [List.length_append] at hfuel
  have hends : Ends (blockItems level items ++ (newLine close ++ ']' :: rest)) := by
    cases items with
    | nil => exact ends_newLine close _
    | cons w items => exact ends_comma _
  have hvalue := h.value v level _ hexact.1 hdistinct.1 hends (by omega)
  rw [readItems, hvalue]
  cases items with
  | nil =>
    have hclose : skipSpace (newLine close ++ ']' :: rest) = ']' :: rest := by
      rw [skipSpace_newLine, skipSpace_cons (by decide)]
    simp only [bind, Except.bind, blockItems, List.nil_append, hclose]
  | cons w items =>
    have hnext := h.items w items level close rest hexact.2 hdistinct.2 (by
      simp only [blockItems, List.length_append, List.length_cons] at hfuel ⊢
      omega)
    have htext : blockItems level (w :: items) ++ (newLine close ++ ']' :: rest) =
        ',' :: (newLine level ++
          (block level w ++ (blockItems level items ++ (newLine close ++ ']' :: rest)))) := by
      simp [blockItems]
    simp only [bind, Except.bind, htext, skipSpace_cons (show isSpace ',' = false by decide)]
    rw [skipSpace_newLine, skipSpace_block hexact.2.1, hnext]

include h in
theorem readFields_block_succ (key : String) (v : Json) (fields : Entries Json)
    (level close : Nat) (rest : List Char) (hexact : ExactFields ((key, v) :: fields))
    (hdistinct : DistinctFields ((key, v) :: fields))
    (hfuel : (stringText key ++ block level v ++ blockFields level fields).length < fuel + 1) :
    readFields spelling (fuel + 1) (stringText key ++ (':' :: ' ' :: (block level v ++
      (blockFields level fields ++ (newLine close ++ '\x7d' :: rest))))) =
        .ok ((key, v) :: fields, rest) := by
  rw [List.length_append, List.length_append] at hfuel
  have hkey : 0 < (stringText key).length := Nat.zero_lt_succ _
  have hends : Ends (blockFields level fields ++ (newLine close ++ '\x7d' :: rest)) := by
    cases fields with
    | nil => exact ends_newLine close _
    | cons field fields => exact ends_comma _
  have hvalue := h.value v level _ hexact.1 hdistinct.1 hends (by omega)
  have htext (more : List Char) : stringText key ++ more =
      '"' :: (key.toList.flatMap escapedChar ++ '"' :: more) := by simp [stringText]
  have hspace (more : List Char) : skipSpace (' ' :: more) = skipSpace more :=
    List.dropWhile_cons_of_pos rfl
  rw [htext, readFields]
  simp only [readString_escaped, bind, Except.bind,
    skipSpace_cons (show isSpace ':' = false by decide), hspace]
  rw [skipSpace_block hexact.1, hvalue]
  cases fields with
  | nil =>
    have hclose : skipSpace (newLine close ++ '\x7d' :: rest) = '\x7d' :: rest := by
      rw [skipSpace_newLine, skipSpace_cons (by decide)]
    simp only [blockFields, List.nil_append, hclose]
  | cons field fields =>
    obtain ⟨next, w⟩ := field
    have hnext := h.fields next w fields level close rest hexact.2 hdistinct.2 (by
      simp only [blockFields, List.length_append, List.length_cons] at hfuel ⊢
      omega)
    have hmore : blockFields level ((next, w) :: fields) ++ (newLine close ++ '\x7d' :: rest) =
        ',' :: (newLine level ++ (stringText next ++ (':' :: ' ' :: (block level w ++
          (blockFields level fields ++ (newLine close ++ '\x7d' :: rest)))))) := by
      simp [blockFields]
    simp only [hmore, skipSpace_cons (show isSpace ',' = false by decide)]
    rw [skipSpace_newLine, skipSpace_stringText, hnext]

include h in
theorem readValue_block_succ (v : Json) (level : Nat) (rest : List Char) (hexact : Exact v)
    (hdistinct : Distinct v) (hends : Ends rest) (hfuel : (block level v).length ≤ fuel + 1) :
    readValue spelling (fuel + 1) (block level v ++ rest) = .ok (v, rest) := by
  cases v with
  | null => rfl
  | bool b => cases b <;> rfl
  | float x => exact hexact.elim
  | int n =>
    have hscalar := readScalar_intText hexact hends
    have hblock : block level (.int n) = Text.intText n := by simp only [block, scalarText]
    obtain ⟨c, more, htext, hc⟩ := exists_intText_eq_cons n
    have hother : c ≠ '"' ∧ c ≠ '[' ∧ c ≠ '\x7b' := by
      refine ⟨?_, ?_, ?_⟩ <;> (rintro rfl; obtain hc | hc := hc <;> cases hc)
    rw [htext, List.cons_append] at hscalar
    rw [hblock, htext, List.cons_append]
    unfold readValue
    split
    · rename_i heq
      exact absurd (List.cons.inj heq).1 hother.1
    · rename_i heq
      exact absurd (List.cons.inj heq).1 hother.2.1
    · rename_i heq
      exact absurd (List.cons.inj heq).1 hother.2.2
    · exact hscalar
  | str s =>
    have htext : block level (.str s) ++ rest =
        '"' :: (s.toList.flatMap escapedChar ++ '"' :: rest) := by
      simp [block, scalarText, stringText]
    rw [htext, readValue, readString_escaped]
    rfl
  | arr items =>
    cases items with
    | nil => rfl
    | cons v items =>
      have hnext := h.items v items (level + 1) level rest hexact hdistinct (by
        simp only [block, List.length_append, List.length_cons] at hfuel ⊢
        omega)
      have htext : block level (.arr (v :: items)) ++ rest = '[' :: (newLine (level + 1) ++
          (block (level + 1) v ++ (blockItems (level + 1) items ++
            (newLine level ++ ']' :: rest)))) := by simp [block]
      obtain ⟨c, more, hopen, hc⟩ := exists_block_eq_cons hexact.1 (level + 1)
      rw [htext, readValue, skipSpace_newLine, skipSpace_block hexact.1]
      split
      · rename_i heq
        rw [hopen, List.cons_append] at heq
        obtain ⟨rfl, _⟩ := List.cons.inj heq
        cases hc
      · rw [hnext]
        rfl
  | obj fields =>
    cases fields with
    | nil => rfl
    | cons field fields =>
      obtain ⟨key, v⟩ := field
      obtain ⟨hnodup, hmembers⟩ := hdistinct
      have hnext := h.fields key v fields (level + 1) level rest hexact hmembers (by
        simp only [block, List.length_append, List.length_cons] at hfuel ⊢
        omega)
      have htext : block level (.obj ((key, v) :: fields)) ++ rest =
          '\x7b' :: (newLine (level + 1) ++ (stringText key ++ (':' :: ' ' ::
            (block (level + 1) v ++ (blockFields (level + 1) fields ++
              (newLine level ++ '\x7d' :: rest)))))) := by simp [block]
      rw [htext, readValue, skipSpace_newLine, skipSpace_stringText]
      split
      · rename_i heq
        cases heq
      · rw [hnext]
        simp only [Except.map, Entries.ofList_of_nodup hnodup]

end

theorem readsBack (spelling : Spelling) (fuel : Nat) : ReadsBack spelling fuel := by
  induction fuel with
  | zero =>
    refine ⟨fun v level rest hexact _ _ hfuel => ?_, fun _ _ _ _ _ _ _ hfuel => ?_,
      fun _ _ _ _ _ _ _ _ hfuel => ?_⟩
    · obtain ⟨c, more, htext, _⟩ := exists_block_eq_cons hexact level
      rw [htext] at hfuel
      cases hfuel
    · cases hfuel
    · cases hfuel
  | succ fuel ih =>
    exact ⟨readValue_block_succ ih, readItems_block_succ ih, readFields_block_succ ih⟩

/-! ## Reading texts -/

theorem readText_block (spelling : Spelling) (hexact : Exact v) (hdistinct : Distinct v) (level : Nat) :
    readText spelling (block level v) = .ok v := by
  have hvalue := (readsBack spelling (2 * (block level v).length + 2)).value v level [] hexact hdistinct
    nofun (by omega)
  have hspace := skipSpace_block hexact level []
  rw [List.append_nil] at hvalue hspace
  rw [readText, hspace, hvalue]
  rfl

/-- **Reading undoes writing**: an exact document with distinct keys is read from its text as it
was, in the order of its fields. It is a text of characters, so the spelling does not matter. -/
theorem parseAs_block (spelling : Spelling) (hexact : Exact v) (hdistinct : Distinct v) (level : Nat) :
    parseAs spelling (block level v) = .ok v := by
  obtain ⟨c, more, htext, hc⟩ := exists_block_eq_cons hexact level
  have hread := readText_block spelling hexact hdistinct level
  unfold parseAs
  split
  · rename_i heq
    rw [htext] at heq
    obtain ⟨rfl, _⟩ := List.cons.inj heq
    cases hc
  · rw [hread]
    rfl

/-! ## Lines -/

theorem return_not_mem_newLine (level : Nat) : '\r' ∉ newLine level := by
  simp [newLine, List.mem_replicate]

mutual

/-- A text is written without carriage returns, so its lines are plain. -/
theorem return_not_mem_block : ∀ (v : Json) (level : Nat), Exact v → '\r' ∉ block level v
  | null, _, _ => by simp [block, scalarText]
  | bool b, _, _ => by cases b <;> simp [block, scalarText]
  | int n, level, _ => by
    have hblock : block level (int n) = Text.intText n := by simp only [block, scalarText]
    rw [hblock]
    exact return_not_mem_intText n
  | float _, _, hexact => hexact.elim
  | str s, level, _ => by
    have hblock : block level (str s) = stringText s := by simp only [block, scalarText]
    rw [hblock]
    exact return_not_mem_stringText s
  | arr [], _, _ => by simp [block]
  | arr (v :: rest), level, hexact => by
    have hv := return_not_mem_block v (level + 1) hexact.1
    have hrest := return_not_mem_blockItems rest (level + 1) hexact.2
    simp [block, hv, hrest, return_not_mem_newLine]
  | obj [], _, _ => by simp [block]
  | obj ((key, v) :: rest), level, hexact => by
    have hv := return_not_mem_block v (level + 1) hexact.1
    have hrest := return_not_mem_blockFields rest (level + 1) hexact.2
    simp [block, hv, hrest, return_not_mem_newLine, return_not_mem_stringText]

theorem return_not_mem_blockItems : ∀ (items : List Json) (level : Nat), ExactItems items →
    '\r' ∉ blockItems level items
  | [], _, _ => by simp [blockItems]
  | v :: rest, level, hexact => by
    have hv := return_not_mem_block v level hexact.1
    have hrest := return_not_mem_blockItems rest level hexact.2
    simp [blockItems, hv, hrest, return_not_mem_newLine]

theorem return_not_mem_blockFields : ∀ (fields : List (String × Json)) (level : Nat),
    ExactFields fields → '\r' ∉ blockFields level fields
  | [], _, _ => by simp [blockFields]
  | (key, v) :: rest, level, hexact => by
    have hv := return_not_mem_block v level hexact.1
    have hrest := return_not_mem_blockFields rest level hexact.2
    simp [blockFields, hv, hrest, return_not_mem_newLine, return_not_mem_stringText]

end

end ReplayFlow.Json
