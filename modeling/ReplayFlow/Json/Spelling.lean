import ReplayFlow.Json.Basic

/-!
The texts that code points write. An escape may write half of a pair, which is no
character; a text that has one is no text of characters, and another stands for it.
Which one is left to a spelling. Only this is asked of it: the texts that a reader
looks for are ASCII, and the one that stands in is not.
-/

namespace ReplayFlow.Json

def isHighSurrogate (n : Nat) : Bool := 0xD800 ≤ n && n < 0xDC00

def isLowSurrogate (n : Nat) : Bool := 0xDC00 ≤ n && n < 0xE000

/-- A code point that is no character, half of a pair, is read as the replacement character. -/
def charOfCode (n : Nat) : Char :=
  if 0xD800 ≤ n ∧ n < 0xE000 then '\uFFFD' else Char.ofNat n

/-- Joins each high half with the low half after it. -/
def joinPairs : List Nat → List Char
  | [] => []
  | [code] => [charOfCode code]
  | high :: low :: rest =>
    if isHighSurrogate high && isLowSurrogate low then
      Char.ofNat (0x10000 + (high - 0xD800) * 0x400 + (low - 0xDC00)) :: joinPairs rest
    else charOfCode high :: joinPairs (low :: rest)

/-- No half of a pair stands without the other. -/
def Paired : List Nat → Prop
  | [] => True
  | [code] => ¬ (0xD800 ≤ code ∧ code < 0xE000)
  | high :: low :: rest =>
    if isHighSurrogate high && isLowSurrogate low then Paired rest
    else ¬ (0xD800 ≤ high ∧ high < 0xE000) ∧ Paired (low :: rest)

theorem replacement_mem_joinPairs {codes : List Nat} (h : ¬ Paired codes) :
    '\uFFFD' ∈ joinPairs codes := by
  fun_induction joinPairs codes with
  | case1 => exact absurd trivial h
  | case2 code =>
    rw [Paired, Decidable.not_not] at h
    simp [charOfCode, h]
  | case3 high low rest hpair ih =>
    rw [Paired, if_pos hpair] at h
    exact List.mem_cons_of_mem _ (ih h)
  | case4 high low rest hpair ih =>
    rw [Paired, if_neg hpair, Decidable.not_and_iff_not_or_not, Decidable.not_not] at h
    rcases h with hhigh | hrest
    · simp [charOfCode, hhigh]
    · exact List.mem_cons_of_mem _ (ih hrest)

/-- The texts of code points. -/
structure Spelling where
  text : List Nat → String
  /-- A text of characters is that text. -/
  paired : ∀ codes, Paired codes → text codes = String.ofList (joinPairs codes)
  /-- What stands for any other is not ASCII. -/
  foreign : ∀ codes, ¬ Paired codes → ∃ c ∈ (text codes).toList, 0x80 ≤ c.toNat

/-- Each half of a pair that stands alone is read as the replacement character. -/
def Spelling.plain : Spelling where
  text codes := String.ofList (joinPairs codes)
  paired _ _ := rfl
  foreign codes h := ⟨'\uFFFD', by simpa using replacement_mem_joinPairs h, by decide⟩

end ReplayFlow.Json
