import ReplayFlow.Proofs.Flow.Checks
import ReplayFlow.Proofs.Json.Nesting
import ReplayFlow.Proofs.Json.Spelling
import ReplayFlow.Proofs.Strict
import ReplayFlow.Proofs.Transaction
import ReplayFlow.Service.ControlTypes

/-!
What a stored file gives to the listing of control types, told by its bytes alone
(`typesOf_isOk_iff`, `mem_of_typesOf`). A file that is broken gives nothing; but the
listing does not get past one that is no text, or has a number where its types should be.
Nor does it, strictly read, past a text that nests too deep, or past types of which one has
half of a pair alone and cannot be shown (`Readable`, `exists_forall_typesOf_iff`).
-/

namespace ReplayFlow

/-! ## Sorted texts -/

namespace Text

variable {texts : List String} {text : String}

theorem mem_sorted : text ∈ sorted texts ↔ text ∈ texts :=
  (List.mergeSort_perm texts le).mem_iff

theorem le_iff {a b : String} : le a b = true ↔ a ≤ b := by
  rw [le, Bool.not_eq_true', decide_eq_false_iff_not, String.not_lt]

theorem pairwise_sorted (texts : List String) : (sorted texts).Pairwise (· ≤ ·) := by
  have htrans : ∀ a b c : String, le a b = true → le b c = true → le a c = true := by
    intro a b c hab hbc
    exact le_iff.2 (String.le_trans (le_iff.1 hab) (le_iff.1 hbc))
  have htotal : ∀ a b : String, (le a b || le b a) = true := by
    intro a b
    rw [Bool.or_eq_true, le_iff, le_iff]
    exact String.le_total a b
  exact (List.pairwise_mergeSort htrans htotal texts).imp le_iff.1

/-- Texts that are there once are strictly sorted. -/
theorem pairwise_lt_sorted (h : texts.Nodup) : (sorted texts).Pairwise (· < ·) := by
  have hnodup : (sorted texts).Nodup := (List.mergeSort_perm texts le).nodup_iff.2 h
  refine (pairwise_sorted texts).imp₂ (fun a b hle hne => ?_) hnodup
  exact String.not_le.1 fun hge => hne (String.le_antisymm hle hge)

theorem nodup_eraseDups (texts : List String) : texts.eraseDups.Nodup := by
  rw [← Area.foldl_addNew_nil]
  exact Area.nodup_foldl_addNew List.nodup_nil texts

end Text

/-! ## Names of flows -/

namespace Storage

namespace Sign

theorem anyEnd_iff {p : List Char → Bool} {text : List Char} :
    anyEnd p text = true ↔ ∃ rest, rest <:+ text ∧ p rest = true := by
  induction text with
  | nil => simp [anyEnd]
  | cons c text ih =>
    rw [anyEnd, Bool.or_eq_true, ih]
    constructor
    · rintro (h | ⟨rest, hrest, h⟩)
      · exact ⟨c :: text, List.suffix_rfl, h⟩
      · exact ⟨rest, hrest.trans (List.suffix_cons c text), h⟩
    · rintro ⟨rest, hrest, h⟩
      rcases List.suffix_cons_iff.1 hrest with rfl | hrest
      · exact .inl h
      · exact .inr ⟨rest, hrest, h⟩

theorem matchesAll_chars {letters text : List Char} :
    matchesAll (letters.map char) text = true ↔ text = letters := by
  induction letters generalizing text with
  | nil => simp [matchesAll]
  | cons c letters ih =>
    cases text with
    | nil => simp [matchesAll]
    | cons d text => simp [matchesAll, accepts, ih]

end Sign

/-- The pattern of flows is met by the names that end in its letters. -/
theorem fitsPattern_defaultPattern {name : String} :
    fitsPattern defaultPattern name = true ↔ ".json".toList <:+ name.toList := by
  have hsigns : Sign.readFrom 0 defaultPattern.toList =
      Sign.anyText :: ".json".toList.map Sign.char := by decide
  rw [fitsPattern, hsigns, Sign.matchesAll, Sign.anyEnd_iff]
  simp only [Sign.matchesAll_chars]
  exact ⟨fun ⟨_, hrest, h⟩ => h ▸ hrest, fun h => ⟨_, h, rfl⟩⟩

/-! ## Documents -/

variable {bytes : List UInt8} {v w : Json}

/-- The text in a file; bytes that are no text hold none. -/
def fileText (bytes : List UInt8) : List Char :=
  Text.plainLines ((Utf8.decodeFile bytes).toOption.getD [])

/-- The document that the bytes of a file hold. -/
def Holds (bytes : List UInt8) (v : Json) : Prop :=
  ∃ text, Utf8.decodeFile bytes = .ok text ∧ Json.parse (Text.plainLines text) = .ok v

/-- The bytes of a file are a text, and no integer in it is too long to be read. -/
def IsLegible (bytes : List UInt8) : Prop :=
  ∃ text, Utf8.decodeFile bytes = .ok text ∧
    ∀ digits, Json.parse (Text.plainLines text) ≠ .error (.oversized digits)

theorem readDocument_eq_document_iff :
    readDocument bytes = .ok (.document v) ↔ Holds bytes v := by
  unfold readDocument readDocumentAs Holds Json.parse
  cases Utf8.decodeFile bytes with
  | error failure => simp
  | ok text =>
    cases hparse : Json.parseAs .plain (Text.plainLines text) with
    | ok w => simp [hparse]
    | error failure => cases failure <;> simp [hparse]

/-- A file that is legible holds a document or is broken. -/
theorem readDocument_isOk_iff :
    (∃ reading, readDocument bytes = .ok reading) ↔ IsLegible bytes := by
  unfold readDocument readDocumentAs IsLegible Json.parse
  cases Utf8.decodeFile bytes with
  | error failure => simp
  | ok text =>
    cases hparse : Json.parseAs .plain (Text.plainLines text) with
    | ok w => simp [hparse]
    | error failure => cases failure <;> simp [hparse]

theorem Holds.unique (h : Holds bytes v) (h' : Holds bytes w) : v = w := by
  rw [← readDocument_eq_document_iff] at h h'
  rw [h, Except.ok.injEq, Reading.document.injEq] at h'
  exact h'

end Storage

namespace Service

open Storage (Holds IsLegible)

variable {limit : Nat} {spelling : Json.Spelling} {bytes : List UInt8} {v : Json}
  {type : String} {types : List String}

/-! ## Files -/

/-- What the metadata of the document in a file have as its types of control. -/
def Lists (bytes : List UInt8) (value : Json) : Prop :=
  ∃ fields metadata, Holds bytes (.obj fields) ∧
    Entries.field fields "metadata" = .obj metadata ∧
    Entries.field metadata "controlTypes" = value

/-- A type that a file lists. -/
def Names (bytes : List UInt8) (type : String) : Prop :=
  ∃ items, Lists bytes (.arr items) ∧ .str type ∈ items

/-- A text that a file has in place of a list of types: a key of an object, or a character of
a text. -/
def Strays (bytes : List UInt8) (type : String) : Prop :=
  (∃ fields, Lists bytes (.obj fields) ∧ type ∈ Entries.keys fields) ∨
    ∃ text : String, Lists bytes (.str text) ∧ ∃ c ∈ text.toList, type = String.ofList [c]

/-- An array, an object or a text. -/
def HasMembers : Json → Prop
  | .arr _ => True
  | .obj _ => True
  | .str _ => True
  | _ => False

/-- What a file gives to the listing, in a spelling. -/
def typesOf (spelling : Json.Spelling) (bytes : List UInt8) : Except Fault (List String) :=
  (Storage.readDocumentAs spelling bytes).bind fun
    | .broken _ => .ok []
    | .document v => controlTypesIn v

/-- The listing gets past a file, where reading goes down `limit` times. -/
structure Readable (limit : Nat) (bytes : List UInt8) : Prop where
  legible : IsLegible bytes
  /-- As far as it is sound, its text nests no deeper than reading goes down. -/
  shallow : Json.nesting (Json.reached (Storage.fileText bytes)) ≤ limit
  members : ∀ value, Lists bytes value → value.isGiven = true → HasMembers value
  /-- No text that it gives has half of a pair alone: they are the same in every spelling. -/
  whole : ∀ spelling, typesOf spelling bytes = typesOf .plain bytes

theorem textsIn_isOk_iff :
    (∃ types, textsIn v = .ok types) ↔ (v.isGiven = true → HasMembers v) := by
  unfold textsIn
  cases hgiven : v.isGiven with
  | false => simp
  | true => cases v <;> simp [HasMembers]

theorem textsIn_arr (items : List Json) :
    textsIn (.arr items) = .ok (items.filterMap Json.string?) := by
  cases items <;> rfl

theorem textsIn_obj (fields : Entries Json) :
    textsIn (.obj fields) = .ok (Entries.keys fields) := by
  cases fields <;> rfl

theorem textsIn_str (text : String) :
    textsIn (.str text) = .ok (text.toList.map fun c => String.ofList [c]) := by
  by_cases h : text = ""
  · subst h
    rfl
  · simp [textsIn, Json.isGiven, h]

theorem mem_textsIn (h : textsIn v = .ok types) :
    type ∈ types ↔ (∃ items, v = .arr items ∧ .str type ∈ items) ∨
      (∃ fields, v = .obj fields ∧ type ∈ Entries.keys fields) ∨
        ∃ text : String, v = .str text ∧ ∃ c ∈ text.toList, type = String.ofList [c] := by
  cases v with
  | arr items =>
    rw [textsIn_arr, Except.ok.injEq] at h
    subst h
    simp [Json.string?_eq_some_iff]
  | obj fields =>
    rw [textsIn_obj, Except.ok.injEq] at h
    subst h
    simp
  | str text =>
    rw [textsIn_str, Except.ok.injEq] at h
    subst h
    simp [eq_comm]
  | _ =>
    -- what has no members gives nothing, or no answer
    have hnone : types = [] := by
      unfold textsIn at h
      split at h <;> cases h
      rfl
    simp [hnone]

theorem controlTypesIn_cases (h : Holds bytes v) :
    (∃ value, (∀ w, Lists bytes w ↔ w = value) ∧ controlTypesIn v = textsIn value) ∨
      ((∀ w, ¬Lists bytes w) ∧ controlTypesIn v = .ok []) := by
  unfold controlTypesIn
  split
  · rename_i fields
    split
    · rename_i metadata hmetadata
      refine .inl ⟨_, fun w => ⟨?_, ?_⟩, rfl⟩
      · rintro ⟨fields', metadata', hholds, hother, rfl⟩
        cases h.unique hholds
        rw [hmetadata, Json.obj.injEq] at hother
        rw [hother]
      · rintro rfl
        exact ⟨fields, metadata, h, hmetadata, rfl⟩
    · rename_i hnone
      refine .inr ⟨?_, rfl⟩
      rintro w ⟨fields', metadata', hholds, hother, _⟩
      cases h.unique hholds
      exact hnone _ hother
  · rename_i hnone
    refine .inr ⟨?_, rfl⟩
    rintro w ⟨fields, _, hholds, _⟩
    exact hnone fields (h.unique hholds)

/-- A file that is legible lists one value or none; any other stops the listing. -/
theorem typesOf_cases (bytes : List UInt8) :
    (∃ value, IsLegible bytes ∧ (∀ w, Lists bytes w ↔ w = value) ∧
      typesOf .plain bytes = textsIn value) ∨
      (IsLegible bytes ∧ (∀ w, ¬Lists bytes w) ∧ typesOf .plain bytes = .ok []) ∨
        (¬IsLegible bytes ∧ ∃ fault, typesOf .plain bytes = .error fault) := by
  change (∃ value, _ ∧ _ ∧ (Storage.readDocument bytes).bind _ = _) ∨
    (_ ∧ _ ∧ (Storage.readDocument bytes).bind _ = _) ∨
      (_ ∧ ∃ fault, (Storage.readDocument bytes).bind _ = _)
  rw [← Storage.readDocument_isOk_iff]
  cases hread : Storage.readDocument bytes with
  | error fault => exact .inr (.inr ⟨nofun, fault, rfl⟩)
  | ok reading =>
    cases reading with
    | broken place =>
      refine .inr (.inl ⟨⟨_, rfl⟩, ?_, rfl⟩)
      rintro w ⟨fields, _, hholds, _⟩
      rw [Storage.readDocument_eq_document_iff.2 hholds] at hread
      cases hread
    | document v =>
      rcases controlTypesIn_cases (Storage.readDocument_eq_document_iff.1 hread) with
        ⟨value, hlists, htypes⟩ | ⟨hlists, htypes⟩
      · exact .inl ⟨value, ⟨_, rfl⟩, hlists, htypes⟩
      · exact .inr (.inl ⟨⟨_, rfl⟩, hlists, htypes⟩)

theorem typesOf_isOk_iff : (∃ types, typesOf .plain bytes = .ok types) ↔
    IsLegible bytes ∧ ∀ value, Lists bytes value → value.isGiven = true → HasMembers value := by
  rcases typesOf_cases bytes with
    ⟨value, hlegible, hlists, htypes⟩ | ⟨hlegible, hlists, htypes⟩ | ⟨hlegible, fault, htypes⟩
  · rw [htypes, textsIn_isOk_iff]
    refine ⟨fun h => ⟨hlegible, fun w hw => ?_⟩, fun h => h.2 value ((hlists value).2 rfl)⟩
    rw [(hlists w).1 hw]
    exact h
  · exact ⟨fun _ => ⟨hlegible, fun w hw => absurd hw (hlists w)⟩, fun _ => ⟨[], htypes⟩⟩
  · rw [htypes]
    exact ⟨nofun, fun h => absurd h.1 hlegible⟩

theorem mem_of_typesOf (h : typesOf .plain bytes = .ok types) :
    type ∈ types ↔ Names bytes type ∨ Strays bytes type := by
  rcases typesOf_cases bytes with
    ⟨value, _, hlists, htypes⟩ | ⟨_, hlists, htypes⟩ | ⟨_, fault, htypes⟩
  · rw [htypes] at h
    simp only [mem_textsIn h, Names, Strays, hlists, eq_comm]
  · rw [htypes, Except.ok.injEq] at h
    subst h
    simp [Names, Strays, hlists]
  · rw [htypes] at h
    cases h

end Service

/-! ## The strict reading -/

namespace Strict

/-- What a file gives to the listing. As far as it is sound, its text has to nest no deeper than
reading goes down. -/
def typesOf (limit : Nat) (spelling : Json.Spelling) (bytes : List UInt8) :
    Except Stop (List String) :=
  if Json.nesting (Json.reached (Storage.fileText bytes)) ≤ limit then
    (Service.typesOf spelling bytes).mapError .fault
  else .error .unshowable

theorem typesOf_eq_ok_iff {limit : Nat} {spelling : Json.Spelling} {bytes : List UInt8}
    {types : List String} : typesOf limit spelling bytes = .ok types ↔
      Json.nesting (Json.reached (Storage.fileText bytes)) ≤ limit ∧
        Service.typesOf spelling bytes = .ok types := by
  unfold typesOf
  split
  · rename_i hshallow
    cases Service.typesOf spelling bytes <;> simp [Except.mapError, hshallow]
  · rename_i hdeep
    simp [hdeep]

end Strict

namespace Service

/-- **The files that the listing gets past** are those that give, strictly read, the same in every
spelling. -/
theorem exists_forall_typesOf_iff {limit : Nat} {bytes : List UInt8} :
    (∃ types, ∀ spelling, Strict.typesOf limit spelling bytes = .ok types) ↔
      Readable limit bytes := by
  simp only [Strict.typesOf_eq_ok_iff]
  constructor
  · rintro ⟨types, h⟩
    obtain ⟨hshallow, hplain⟩ := h .plain
    obtain ⟨hlegible, hmembers⟩ := typesOf_isOk_iff.1 ⟨types, hplain⟩
    exact ⟨hlegible, hshallow, hmembers, fun spelling => (h spelling).2.trans hplain.symm⟩
  · intro h
    obtain ⟨types, hplain⟩ := typesOf_isOk_iff.2 ⟨h.legible, h.members⟩
    exact ⟨types, fun spelling => ⟨h.shallow, (h.whole spelling).trans hplain⟩⟩

/-- Half of a pair alone among the types. -/
example : ¬ Readable 3 (Utf8.encode
    "\x7b\"metadata\": \x7b\"controlTypes\": [\"\\ud800\"]\x7d\x7d".toList) :=
  fun h => absurd (h.whole .marked) (by decide +kernel)

end Service

end ReplayFlow
