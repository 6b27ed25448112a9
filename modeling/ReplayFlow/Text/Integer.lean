import ReplayFlow.Text.Basic
import ReplayFlow.Text.Digit

/-!
Integers written by people: white space around, a sign, digits of any script,
and single low lines between digits; at most 4300 digits.
-/

namespace ReplayFlow.Text

/-- The most digits an integer text may have. -/
def integerDigitLimit : Nat := 4300

/-- White space that may stand around an integer: the separators of information units
may not. -/
def isIntegerBlank (c : Char) : Bool := isBlank c && !(28 ≤ c.toNat && c.toNat ≤ 31)

/-- The digit values of a text in which single low lines separate digits. -/
def digitValues? : List Char → Option (List Nat)
  | [] => none
  | c :: rest =>
    match digitValue? c, rest with
    | none, _ => none
    | some d, [] => some [d]
    | some d, '_' :: more => (digitValues? more).map (d :: ·)
    | some d, e :: more => (digitValues? (e :: more)).map (d :: ·)

def natOfDigits (digits : List Nat) : Nat := digits.foldl (fun n d => 10 * n + d) 0

def readNat? (text : List Char) : Option Nat :=
  match digitValues? text with
  | none => none
  | some digits =>
    if digits.length ≤ integerDigitLimit then some (natOfDigits digits) else none

def readInt? (text : List Char) : Option Int :=
  match dropEndWhile isIntegerBlank (text.dropWhile isIntegerBlank) with
  | '-' :: rest => (readNat? rest).map fun n => -(n : Int)
  | '+' :: rest => (readNat? rest).map Int.ofNat
  | rest => (readNat? rest).map Int.ofNat

def natText (n : Nat) : List Char := Nat.toDigits 10 n

def intText (n : Int) : List Char :=
  if n < 0 then '-' :: natText n.natAbs else natText n.natAbs

end ReplayFlow.Text
