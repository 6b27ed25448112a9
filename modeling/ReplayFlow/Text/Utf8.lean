import ReplayFlow.Text.Hex

/-!
Text as bytes. The reader keeps what the current character still owes: how many
bytes, and between which bounds the next one lies. A byte out of bounds or the
end of the input names the broken sequence by its position and width.
-/

namespace ReplayFlow.Utf8

open Text

inductive Reason where
  | startByte
  | continuationByte
  | endOfData
  deriving DecidableEq

def Reason.message : Reason → String
  | .startByte => "invalid start byte"
  | .continuationByte => "invalid continuation byte"
  | .endOfData => "unexpected end of data"

/-- The first broken sequence: where it starts, its first byte and how many bytes of it
are there. -/
structure Failure where
  position : Nat
  width : Nat
  first : UInt8
  reason : Reason
  deriving DecidableEq

/-- A character that has started: its bits so far, the bytes it owes, the bounds of the
next one. -/
structure Pending where
  first : UInt8
  width : Nat
  code : Nat
  owed : Nat
  low : Nat
  high : Nat
  deriving DecidableEq

/-- What a first byte from `0xC2` on owes. The bounds of the second byte leave out long
forms, surrogates and what lies past the last code point. -/
def Pending.ofFirst? (b : UInt8) : Option Pending :=
  let n := b.toNat
  if n < 0xC2 then none
  else if n < 0xE0 then some ⟨b, 1, n - 0xC0, 1, 0x80, 0xBF⟩
  else if n < 0xF0 then
    some ⟨b, 1, n - 0xE0, 2, if n = 0xE0 then 0xA0 else 0x80, if n = 0xED then 0x9F else 0xBF⟩
  else if n < 0xF5 then
    some ⟨b, 1, n - 0xF0, 3, if n = 0xF0 then 0x90 else 0x80, if n = 0xF4 then 0x8F else 0xBF⟩
  else none

def Pending.next (p : Pending) (b : UInt8) : Pending :=
  ⟨p.first, p.width + 1, p.code * 64 + (b.toNat - 0x80), p.owed - 1, 0x80, 0xBF⟩

/-- Reads on at a position, inside a character or between two. -/
def decodeFrom (position : Nat) : Option Pending → List UInt8 → Except Failure (List Char)
  | none, [] => .ok []
  | some p, [] => .error ⟨position - p.width, p.width, p.first, .endOfData⟩
  | none, b :: rest =>
    if b.toNat < 0x80 then
      (decodeFrom (position + 1) none rest).map (Char.ofNat b.toNat :: ·)
    else
      match Pending.ofFirst? b with
      | none => .error ⟨position, 1, b, .startByte⟩
      | some p => decodeFrom (position + 1) (some p) rest
  | some p, b :: rest =>
    if p.low ≤ b.toNat ∧ b.toNat ≤ p.high then
      if p.owed = 1 then
        (decodeFrom (position + 1) none rest).map (Char.ofNat (p.next b).code :: ·)
      else decodeFrom (position + 1) (some (p.next b)) rest
    else .error ⟨position - p.width, p.width, p.first, .continuationByte⟩

def decode (bytes : List UInt8) : Except Failure (List Char) := decodeFrom 0 none bytes

/-- What stands for a broken sequence. -/
def replacement : Char := '\uFFFD'

/-- What a byte between two characters is, and what it leaves to be read. -/
def start (b : UInt8) : List Char × Option Pending :=
  if b.toNat < 0x80 then ([Char.ofNat b.toNat], none)
  else
    match Pending.ofFirst? b with
    | none => ([replacement], none)
    | some p => ([], some p)

def decodeAnyFrom : Option Pending → List UInt8 → List Char
  | none, [] => []
  | some _, [] => [replacement]
  | none, b :: rest => (start b).1 ++ decodeAnyFrom (start b).2 rest
  | some p, b :: rest =>
    if p.low ≤ b.toNat ∧ b.toNat ≤ p.high then
      if p.owed = 1 then Char.ofNat (p.next b).code :: decodeAnyFrom none rest
      else decodeAnyFrom (some (p.next b)) rest
    else replacement :: ((start b).1 ++ decodeAnyFrom (start b).2 rest)

/-- Reads any bytes; one sign stands for each broken sequence. -/
def decodeAny (bytes : List UInt8) : List Char := decodeAnyFrom none bytes

/-- The mark that may open a text. -/
def byteOrderMark : List UInt8 := [0xEF, 0xBB, 0xBF]

/-- One opening mark is dropped; positions count from after it. -/
def decodeMarked : List UInt8 → Except Failure (List Char)
  | 0xEF :: 0xBB :: 0xBF :: rest => decode rest
  | bytes => decode bytes

/-- Reads the bytes of a whole file. One that ends inside the mark it opens with holds no
text. -/
def decodeFile (bytes : List UInt8) : Except Failure (List Char) :=
  if bytes.isPrefixOf byteOrderMark then .ok [] else decodeMarked bytes

def encodeChar (c : Char) : List UInt8 :=
  let n := c.toNat
  let tail (k : Nat) : UInt8 := UInt8.ofNat (0x80 + n >>> (6 * k) % 64)
  if n < 0x80 then [UInt8.ofNat n]
  else if n < 0x800 then [UInt8.ofNat (0xC0 + n >>> 6), tail 0]
  else if n < 0x10000 then [UInt8.ofNat (0xE0 + n >>> 12), tail 1, tail 0]
  else [UInt8.ofNat (0xF0 + n >>> 18), tail 2, tail 1, tail 0]

def encode (text : List Char) : List UInt8 := text.flatMap encodeChar

def Failure.message (f : Failure) : String :=
  let place :=
    if f.width ≤ 1 then
      "byte 0x" ++ String.ofList (hexText 2 f.first.toNat) ++ " in position " ++
        toString f.position
    else
      "bytes in position " ++ toString f.position ++ "-" ++
        toString (f.position + f.width - 1)
  "'utf-8' codec can't decode " ++ place ++ ": " ++ f.reason.message

end ReplayFlow.Utf8
