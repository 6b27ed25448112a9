import ReplayFlow.Service.Host.Encoding
import ReplayFlow.Service.Host.Letters
import ReplayFlow.Text.Basic
import ReplayFlow.Text.Case

/-!
Names of hosts beyond ASCII. A name has labels between full stops, and in a label
letters, digits, marks and hyphens stand as the scripts allow: where a sign has a
place of its own it stands only there, and scripts from right to left are not
mixed with others.
-/

namespace ReplayFlow.Service.Host

/-- Where writing goes at a character. -/
inductive Direction where
  | rightward
  | leftward
  | number
  | arabicNumber
  | neutral
  | mark
  deriving DecidableEq

def isWithin (first last : Nat) (c : Char) : Bool := first ≤ c.toNat && c.toNat ≤ last

def isArabicDigit (c : Char) : Bool := isWithin 0x660 0x669 c

def isEasternDigit (c : Char) : Bool := isWithin 0x6F0 0x6F9 c

/-- The dot that parts words of syllable scripts. -/
def syllableDot : Char := '\u30fb'

/-- The signs that keep letters apart or together and are not seen themselves. -/
def isJoiner (c : Char) : Bool := isWithin 0x200C 0x200D c

def direction (c : Char) : Direction :=
  if c.isDigit || isEasternDigit c then .number
  else if isArabicDigit c || isWithin 0x10D30 0x10D39 c then .arabicNumber
  else if c ∈ ['-', '\xb7', '\u0375', syllableDot] || isJoiner c then .neutral
  else if c.toNat ∈ neutralLetters then .neutral
  else if isMark c then .mark
  else if Text.inRanges c.toNat leftwardRanges then .leftward
  else .rightward

/-- A label with anything from right to left starts so, holds nothing from left to right and
one kind of numbers, and ends in a letter or a number, marks aside. -/
def isDirected (label : List Char) : Bool :=
  let directions := label.map direction
  (.leftward ∉ directions && .arabicNumber ∉ directions) ||
    (directions.head? = some .leftward && .rightward ∉ directions &&
      !(directions.contains .number && directions.contains .arabicNumber) &&
      (directions.reverse.dropWhile (· = .mark)).head? ≠ some .neutral)

def isGreek (c : Char) : Bool :=
  (isWithin 0x370 0x3FF c && !isWithin 0x3E2 0x3EF c) || isWithin 0x1F00 0x1FFF c

def isHebrew (c : Char) : Bool := isWithin 0x591 0x5F4 c

/-- Whether a character is of the scripts that the dot between words goes with. -/
def isSyllableScript (c : Char) : Bool :=
  c ≠ syllableDot &&
    (isWithin 0x3005 0x3007 c || isWithin 0x3041 0x30FF c || isWithin 0x31F0 0x31FF c ||
      isWithin 0x3400 0x4DBF c || isWithin 0x4E00 0x9FFF c || isWithin 0x20000 0x3134A c)

/-- Whether a character may stand in a label between two others. -/
def isInPlace (label : List Char) (before after : Option Char) (c : Char) : Bool :=
  if isPlain c then true
  else if c = '\xb7' then before = some 'l' && after = some 'l'
  else if c = '\u0375' then after.any isGreek
  else if isWithin 0x5F3 0x5F4 c then before.any isHebrew
  else if c = syllableDot then label.any isSyllableScript
  else if isArabicDigit c then !label.any isEasternDigit
  else if isEasternDigit c then !label.any isArabicDigit
  else if isJoiner c then before.any fun b => b.toNat ∈ vowelKillers
  else false

/-- Whether the characters of a text, after another, may stand in a label, and none of them
unites with the one before. -/
def areInPlace (label : List Char) : Option Char → List Char → Bool
  | _, [] => true
  | before, c :: text =>
    isInPlace label before text.head? c && !before.any (unites · c) &&
      areInPlace label (some c) text

/-- A label that is encoded already. -/
def isEncodedLabel (label : List Char) : Bool :=
  match Text.after? "xn--".toList label with
  | some text =>
    text ≠ [] && text.getLast? ≠ some '-' && text.all fun c => c.toNat < 128 && isPlain c
  | none => false

/-- A label has no hyphen at an end, none where encoded labels have theirs, and no mark at
its start. -/
def isLabel (label : List Char) : Bool :=
  labelSize label ≤ 63 && (isEncodedLabel label ||
    (label ≠ [] && label.head? ≠ some '-' && label.getLast? ≠ some '-' &&
      (label.drop 2).take 2 ≠ ['-', '-'] && !label.head?.any isMark &&
      areInPlace label none label && isDirected label))

/-- The full stops of all scripts. -/
def isStop (c : Char) : Bool := c ∈ ['.', '\u3002', '\uff0e', '\uff61']

/-- A name, without regard to capitals; a full stop may close it. -/
def isName (text : List Char) : Bool :=
  let small := (lowercase (String.ofList text)).toList
  let labels := Text.pieces '.' (small.map fun c => if isStop c then '.' else c)
  let labels := if labels.getLast? = some [] then labels.dropLast else labels
  let size := labels.foldl (fun n label => n + labelSize label + 1) 0
  labels.all isLabel && size ≤ 254

end ReplayFlow.Service.Host
