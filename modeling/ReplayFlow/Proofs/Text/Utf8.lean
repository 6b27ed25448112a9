import ReplayFlow.Text.Utf8

/-!
Text that is written and read back. The bytes of a character are read as that
character, whatever follows (`decodeFrom_encodeChar`), so reading undoes writing
(`decode_encode`).
-/

namespace ReplayFlow.Utf8

variable {position : Nat} {p : Pending} {b : UInt8} {rest : List UInt8} {c : Char}

/-! ## Reading one byte -/

theorem decodeFrom_ascii (h : b.toNat < 0x80) (position : Nat) (rest : List UInt8) :
    decodeFrom position none (b :: rest) =
      (decodeFrom (position + 1) none rest).map (Char.ofNat b.toNat :: ·) := by
  rw [decodeFrom, if_pos h]

theorem decodeFrom_first (h : Pending.ofFirst? b = some p) (position : Nat)
    (rest : List UInt8) :
    decodeFrom position none (b :: rest) = decodeFrom (position + 1) (some p) rest := by
  have hb : ¬ b.toNat < 0x80 := by
    intro hsmall
    have hnone : Pending.ofFirst? b = none := if_pos (by omega)
    rw [hnone] at h
    cases h
  rw [decodeFrom, if_neg hb, h]

theorem decodeFrom_last (hbounds : p.low ≤ b.toNat ∧ b.toNat ≤ p.high) (howed : p.owed = 1)
    (position : Nat) (rest : List UInt8) :
    decodeFrom position (some p) (b :: rest) =
      (decodeFrom (position + 1) none rest).map (Char.ofNat (p.next b).code :: ·) := by
  rw [decodeFrom, if_pos hbounds, if_pos howed]

theorem decodeFrom_next (hbounds : p.low ≤ b.toNat ∧ b.toNat ≤ p.high) (howed : p.owed ≠ 1)
    (position : Nat) (rest : List UInt8) :
    decodeFrom position (some p) (b :: rest) =
      decodeFrom (position + 1) (some (p.next b)) rest := by
  rw [decodeFrom, if_pos hbounds, if_neg howed]

theorem ofFirst?_two (hlow : 0xC2 ≤ b.toNat) (hhigh : b.toNat < 0xE0) :
    Pending.ofFirst? b = some ⟨b, 1, b.toNat - 0xC0, 1, 0x80, 0xBF⟩ := by
  have hstart : ¬ b.toNat < 0xC2 := by omega
  simp only [Pending.ofFirst?, if_neg hstart, if_pos hhigh]

theorem ofFirst?_three (hlow : 0xE0 ≤ b.toNat) (hhigh : b.toNat < 0xF0) :
    Pending.ofFirst? b = some ⟨b, 1, b.toNat - 0xE0, 2, if b.toNat = 0xE0 then 0xA0 else 0x80,
      if b.toNat = 0xED then 0x9F else 0xBF⟩ := by
  have hstart : ¬ b.toNat < 0xC2 := by omega
  have htwo : ¬ b.toNat < 0xE0 := by omega
  simp only [Pending.ofFirst?, if_neg hstart, if_neg htwo, if_pos hhigh]

theorem ofFirst?_four (hlow : 0xF0 ≤ b.toNat) (hhigh : b.toNat < 0xF5) :
    Pending.ofFirst? b = some ⟨b, 1, b.toNat - 0xF0, 3, if b.toNat = 0xF0 then 0x90 else 0x80,
      if b.toNat = 0xF4 then 0x8F else 0xBF⟩ := by
  have hstart : ¬ b.toNat < 0xC2 := by omega
  have htwo : ¬ b.toNat < 0xE0 := by omega
  have hthree : ¬ b.toNat < 0xF0 := by omega
  simp only [Pending.ofFirst?, if_neg hstart, if_neg htwo, if_neg hthree, if_pos hhigh]

/-! ## Reading one character -/

/-- A byte after the first: six bits of a code point. -/
def tailByte (n k : Nat) : UInt8 := UInt8.ofNat (0x80 + n >>> (6 * k) % 64)

theorem toNat_tailByte {n k quotient : Nat} (hquotient : n >>> (6 * k) = quotient) :
    (tailByte n k).toNat = 0x80 + quotient % 64 := by
  rw [tailByte, hquotient, UInt8.toNat_ofNat']
  omega

theorem toNat_firstByte {base n shift quotient : Nat} (hquotient : n >>> shift = quotient)
    (h : base + quotient < 256) : (UInt8.ofNat (base + n >>> shift)).toNat = base + quotient := by
  rw [hquotient, UInt8.toNat_ofNat']
  exact Nat.mod_eq_of_lt h

/-- A code point is none of the surrogates, and below the limit. -/
theorem toNat_valid (c : Char) : c.toNat < 0xD800 ∨ 0xDFFF < c.toNat ∧ c.toNat < 0x110000 :=
  c.valid

theorem encodeChar_one (h : c.toNat < 0x80) : encodeChar c = [UInt8.ofNat c.toNat] := if_pos h

theorem encodeChar_two (hlow : 0x80 ≤ c.toNat) (hhigh : c.toNat < 0x800) :
    encodeChar c = [UInt8.ofNat (0xC0 + c.toNat >>> 6), tailByte c.toNat 0] := by
  simp only [encodeChar, if_neg (Nat.not_lt.2 hlow), if_pos hhigh]
  rfl

theorem encodeChar_three (hlow : 0x800 ≤ c.toNat) (hhigh : c.toNat < 0x10000) :
    encodeChar c =
      [UInt8.ofNat (0xE0 + c.toNat >>> 12), tailByte c.toNat 1, tailByte c.toNat 0] := by
  have hone : ¬ c.toNat < 0x80 := by omega
  simp only [encodeChar, if_neg hone, if_neg (Nat.not_lt.2 hlow), if_pos hhigh]
  rfl

theorem encodeChar_four (hlow : 0x10000 ≤ c.toNat) :
    encodeChar c = [UInt8.ofNat (0xF0 + c.toNat >>> 18), tailByte c.toNat 2, tailByte c.toNat 1,
      tailByte c.toNat 0] := by
  have hone : ¬ c.toNat < 0x80 := by omega
  have htwo : ¬ c.toNat < 0x800 := by omega
  simp only [encodeChar, if_neg hone, if_neg htwo, if_neg (Nat.not_lt.2 hlow)]
  rfl

section

variable {first second third last : UInt8} {n : Nat}

theorem decodeFrom_two (hsize : 0x80 ≤ n ∧ n < 0x800) (hfirst : first.toNat = 0xC0 + n / 64)
    (hlast : last.toNat = 0x80 + n % 64) (position : Nat) (rest : List UInt8) :
    decodeFrom position none (first :: last :: rest) =
      (decodeFrom (position + 2) none rest).map (Char.ofNat n :: ·) := by
  have hcode : (first.toNat - 0xC0) * 64 + (last.toNat - 0x80) = n := by omega
  rw [decodeFrom_first (ofFirst?_two (by omega) (by omega)),
    decodeFrom_last (by dsimp only; omega) rfl, Pending.next]
  dsimp only
  rw [hcode]

theorem decodeFrom_three (hsize : 0x800 ≤ n ∧ n < 0xD800 ∨ 0xDFFF < n ∧ n < 0x10000)
    (hfirst : first.toNat = 0xE0 + n / 4096) (hsecond : second.toNat = 0x80 + n / 64 % 64)
    (hlast : last.toNat = 0x80 + n % 64) (position : Nat) (rest : List UInt8) :
    decodeFrom position none (first :: second :: last :: rest) =
      (decodeFrom (position + 3) none rest).map (Char.ofNat n :: ·) := by
  have hcode : ((first.toNat - 0xE0) * 64 + (second.toNat - 0x80)) * 64 + (last.toNat - 0x80) =
      n := by omega
  -- the second byte of a long form or a surrogate would be out of these bounds
  have hbounds : (if first.toNat = 0xE0 then 0xA0 else 0x80) ≤ second.toNat ∧
      second.toNat ≤ if first.toNat = 0xED then 0x9F else 0xBF := by
    constructor <;> split <;> omega
  rw [decodeFrom_first (ofFirst?_three (by omega) (by omega)),
    decodeFrom_next hbounds (by dsimp only; omega),
    decodeFrom_last (by dsimp only [Pending.next]; omega) rfl, Pending.next, Pending.next]
  dsimp only
  rw [hcode]

theorem decodeFrom_four (hsize : 0x10000 ≤ n ∧ n < 0x110000)
    (hfirst : first.toNat = 0xF0 + n / 262144) (hsecond : second.toNat = 0x80 + n / 4096 % 64)
    (hthird : third.toNat = 0x80 + n / 64 % 64) (hlast : last.toNat = 0x80 + n % 64)
    (position : Nat) (rest : List UInt8) :
    decodeFrom position none (first :: second :: third :: last :: rest) =
      (decodeFrom (position + 4) none rest).map (Char.ofNat n :: ·) := by
  have hcode : (((first.toNat - 0xF0) * 64 + (second.toNat - 0x80)) * 64 +
      (third.toNat - 0x80)) * 64 + (last.toNat - 0x80) = n := by omega
  -- the second byte of a long form or past the last code point would be out of these bounds
  have hbounds : (if first.toNat = 0xF0 then 0x90 else 0x80) ≤ second.toNat ∧
      second.toNat ≤ if first.toNat = 0xF4 then 0x8F else 0xBF := by
    constructor <;> split <;> omega
  rw [decodeFrom_first (ofFirst?_four (by omega) (by omega)),
    decodeFrom_next hbounds (by dsimp only; omega),
    decodeFrom_next (by dsimp only [Pending.next]; omega) (by dsimp only [Pending.next]; omega),
    decodeFrom_last (by dsimp only [Pending.next]; omega) rfl, Pending.next, Pending.next,
    Pending.next]
  dsimp only
  rw [hcode]

end

/-- The bytes of a character are read as that character, whatever follows. -/
theorem decodeFrom_encodeChar (c : Char) (position : Nat) (rest : List UInt8) :
    ∃ after, decodeFrom position none (encodeChar c ++ rest) =
      (decodeFrom after none rest).map (c :: ·) := by
  have hvalid := toNat_valid c
  have hlast : (tailByte c.toNat 0).toNat = 0x80 + c.toNat % 64 := toNat_tailByte rfl
  have hsecond : (tailByte c.toNat 1).toNat = 0x80 + c.toNat / 64 % 64 :=
    toNat_tailByte (by omega)
  have hthird : (tailByte c.toNat 2).toNat = 0x80 + c.toNat / 4096 % 64 :=
    toNat_tailByte (by omega)
  by_cases hone : c.toNat < 0x80
  · have hb : (UInt8.ofNat c.toNat).toNat = c.toNat := by
      rw [UInt8.toNat_ofNat']
      omega
    refine ⟨position + 1, ?_⟩
    rw [encodeChar_one hone, List.singleton_append, decodeFrom_ascii (by omega), hb,
      Char.ofNat_toNat]
  by_cases htwo : c.toNat < 0x800
  · refine ⟨position + 2, ?_⟩
    rw [encodeChar_two (by omega) htwo]
    exact (decodeFrom_two ⟨by omega, htwo⟩ (toNat_firstByte (by omega) (by omega)) hlast position
      rest).trans (by rw [Char.ofNat_toNat])
  by_cases hthree : c.toNat < 0x10000
  · refine ⟨position + 3, ?_⟩
    rw [encodeChar_three (by omega) hthree]
    exact (decodeFrom_three (by omega) (toNat_firstByte (by omega) (by omega)) hsecond hlast
      position rest).trans (by rw [Char.ofNat_toNat])
  · refine ⟨position + 4, ?_⟩
    rw [encodeChar_four (by omega)]
    exact (decodeFrom_four (by omega) (toNat_firstByte (by omega) (by omega)) hthird hsecond hlast
      position rest).trans (by rw [Char.ofNat_toNat])

/-! ## Reading a text -/

theorem decodeFrom_encode (text : List Char) (position : Nat) :
    decodeFrom position none (encode text) = .ok text := by
  induction text generalizing position with
  | nil => rfl
  | cons c rest ih =>
    obtain ⟨after, hafter⟩ := decodeFrom_encodeChar c position (encode rest)
    show decodeFrom position none (encodeChar c ++ encode rest) = _
    rw [hafter, ih after]
    rfl

/-- **Reading undoes writing.** -/
theorem decode_encode (text : List Char) : decode (encode text) = .ok text :=
  decodeFrom_encode text 0

/-- A text that opens with an ASCII character has no byte of the mark at its start. -/
theorem encode_cons_of_ascii {first : Char} (h : first.toNat < 0x80) (text : List Char) :
    ∃ b bytes, encode (first :: text) = b :: bytes ∧ b ≠ 0xEF := by
  refine ⟨UInt8.ofNat first.toNat, encode text, ?_, fun hb => ?_⟩
  · show encodeChar first ++ encode text = _
    rw [encodeChar_one h, List.singleton_append]
  · have hvalue := congrArg UInt8.toNat hb
    rw [UInt8.toNat_ofNat'] at hvalue
    simp at hvalue
    omega

theorem decodeMarked_encode {first : Char} (h : first.toNat < 0x80) (text : List Char) :
    decodeMarked (encode (first :: text)) = .ok (first :: text) := by
  obtain ⟨b, bytes, hbytes, hb⟩ := encode_cons_of_ascii h text
  have hread := decode_encode (first :: text)
  rw [hbytes] at hread ⊢
  unfold decodeMarked
  split
  · rename_i hmark
    cases hmark
    exact absurd rfl hb
  · exact hread

theorem decodeFile_encode {first : Char} (h : first.toNat < 0x80) (text : List Char) :
    decodeFile (encode (first :: text)) = .ok (first :: text) := by
  have hmarked := decodeMarked_encode h text
  obtain ⟨b, bytes, hbytes, hb⟩ := encode_cons_of_ascii h text
  have hpart : (b :: bytes).isPrefixOf byteOrderMark = false := by
    simp [byteOrderMark, List.isPrefixOf, hb]
  rw [hbytes] at hmarked ⊢
  rw [decodeFile, hpart]
  exact hmarked

end ReplayFlow.Utf8
