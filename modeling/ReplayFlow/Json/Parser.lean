import ReplayFlow.Json.Spelling
import ReplayFlow.Text.Hex
import ReplayFlow.Text.Integer

/-!
Reading a document. The reader works on the characters left; where it stops, it
says how many were left, and the position of a failure is counted from that.
Numbers that are not finite are allowed, strings hold no control characters, and
a repeated key keeps its first place and its last value. What stands for a string
that is no text of characters is left to a spelling.
-/

namespace ReplayFlow.Json

/-- What the reader looked for where it stopped. -/
inductive Expected where
  | value
  | propertyName
  | colon
  | comma
  | closingQuote
  | noControlCharacter
  | escape
  | codeEscape
  | endOfText
  | noByteOrderMark
  deriving DecidableEq

def Expected.message : Expected → String
  | .value => "Expecting value"
  | .propertyName => "Expecting property name enclosed in double quotes"
  | .colon => "Expecting ':' delimiter"
  | .comma => "Expecting ',' delimiter"
  | .closingQuote => "Unterminated string starting at"
  | .noControlCharacter => "Invalid control character at"
  | .escape => "Invalid \\escape"
  | .codeEscape => "Invalid \\uXXXX escape"
  | .endOfText => "Extra data"
  | .noByteOrderMark => "Unexpected UTF-8 BOM (decode using utf-8-sig)"

/-- Why the reader stopped, with the number of characters left at the place it names. -/
inductive Stop where
  | unexpected (expected : Expected) (left : Nat)
  | oversized (digits : Nat)
  deriving DecidableEq

/-- Why a text is no document: something else was expected at a position, or an integer
has too many digits. -/
inductive Failure where
  | unexpected (expected : Expected) (position : Nat)
  | oversized (digits : Nat)
  deriving DecidableEq

def stop {α : Type} (expected : Expected) (left : List Char) : Except Stop (α × List Char) :=
  .error (.unexpected expected left.length)

def isSpace (c : Char) : Bool := c = ' ' || c = '\t' || c = '\n' || c = '\r'

def skipSpace (text : List Char) : List Char := text.dropWhile isSpace

/-- The number written by four base sixteen digits. -/
def fourHex? (a b c d : Char) : Option Nat :=
  match Text.hexValue? a, Text.hexValue? b, Text.hexValue? c, Text.hexValue? d with
  | some a, some b, some c, some d => some (((a * 16 + b) * 16 + c) * 16 + d)
  | _, _, _, _ => none

def simpleEscape? : Char → Option Char
  | '"' => some '"'
  | '\\' => some '\\'
  | '/' => some '/'
  | 'b' => some '\x08'
  | 'f' => some '\x0c'
  | 'n' => some '\n'
  | 'r' => some '\r'
  | 't' => some '\t'
  | _ => none

/-- Reads the rest of a string after its opening quote, as code points and halves of pairs;
`opened` characters were left at the quote. A code escape needs a character after its digits. -/
def stringRest (opened : Nat) : List Char → Except Stop (List Nat × List Char)
  | [] => .error (.unexpected .closingQuote opened)
  | '"' :: rest => .ok ([], rest)
  | '\\' :: [] => .error (.unexpected .closingQuote opened)
  | '\\' :: 'u' :: a :: b :: c :: d :: rest =>
    match fourHex? a b c d with
    | none => .error (.unexpected .codeEscape (rest.length + 5))
    | some code =>
      if rest.isEmpty then .error (.unexpected .codeEscape 5)
      else (stringRest opened rest).map fun read => (code :: read.1, read.2)
  | '\\' :: 'u' :: rest => .error (.unexpected .codeEscape (rest.length + 1))
  | '\\' :: c :: rest =>
    match simpleEscape? c with
    | some e => (stringRest opened rest).map fun read => (e.toNat :: read.1, read.2)
    | none => .error (.unexpected .escape (rest.length + 2))
  | c :: rest =>
    if c.toNat < 32 then .error (.unexpected .noControlCharacter (rest.length + 1))
    else (stringRest opened rest).map fun read => (c.toNat :: read.1, read.2)

def readString (spelling : Spelling) (opened : Nat) (text : List Char) :
    Except Stop (String × List Char) :=
  (stringRest opened text).map fun read => (spelling.text read.1, read.2)

def isDigit (c : Char) : Bool := '0' ≤ c && c ≤ '9'

def digitsValue (digits : List Char) : Nat :=
  Text.natOfDigits (digits.map fun c => c.toNat - 48)

/-- The digits before a point: one zero, or a run that starts with another digit. -/
def wholeDigits? : List Char → Option (List Char × List Char)
  | '0' :: rest => some (['0'], rest)
  | c :: rest =>
    if isDigit c then some ((c :: rest).takeWhile isDigit, (c :: rest).dropWhile isDigit)
    else none
  | [] => none

/-- A point and at least one digit, or nothing. -/
def fractionDigits : List Char → List Char × List Char
  | '.' :: rest =>
    if (rest.takeWhile isDigit).isEmpty then ([], '.' :: rest)
    else (rest.takeWhile isDigit, rest.dropWhile isDigit)
  | text => ([], text)

def unsignedExponent? (text : List Char) : Option (Nat × List Char) :=
  if (text.takeWhile isDigit).isEmpty then none
  else some (digitsValue (text.takeWhile isDigit), text.dropWhile isDigit)

/-- The letter, a sign or none, and at least one digit. -/
def exponentPart? : List Char → Option (Int × List Char)
  | c :: rest =>
    if c = 'e' ∨ c = 'E' then
      match rest with
      | '-' :: more => (unsignedExponent? more).map fun e => (-(e.1 : Int), e.2)
      | '+' :: more => (unsignedExponent? more).map fun e => ((e.1 : Int), e.2)
      | more => (unsignedExponent? more).map fun e => ((e.1 : Int), e.2)
    else none
  | [] => none

/-- A number without its sign. -/
def unsignedNumber (negative : Bool) (opened : Nat) (text : List Char) :
    Except Stop (Json × List Char) :=
  match wholeDigits? text with
  | none => .error (.unexpected .value opened)
  | some (whole, rest) =>
    let (fraction, rest) := fractionDigits rest
    match exponentPart? rest, fraction with
    | none, [] =>
      if Text.integerDigitLimit < whole.length then .error (.oversized whole.length)
      else
        let n : Int := digitsValue whole
        .ok (.int (if negative then -n else n), rest)
    | none, fraction =>
      .ok (.float (.ofDecimal negative (digitsValue (whole ++ fraction)) (-fraction.length)), rest)
    | some (exponent, rest), fraction =>
      .ok (.float (.ofDecimal negative (digitsValue (whole ++ fraction))
        (exponent - fraction.length)), rest)

/-- A value that is not an array, an object or a string. -/
def readScalar (text : List Char) : Except Stop (Json × List Char) :=
  match text with
  | 'n' :: 'u' :: 'l' :: 'l' :: rest => .ok (.null, rest)
  | 't' :: 'r' :: 'u' :: 'e' :: rest => .ok (.bool true, rest)
  | 'f' :: 'a' :: 'l' :: 's' :: 'e' :: rest => .ok (.bool false, rest)
  | 'N' :: 'a' :: 'N' :: rest => .ok (.float .nan, rest)
  | 'I' :: 'n' :: 'f' :: 'i' :: 'n' :: 'i' :: 't' :: 'y' :: rest =>
    .ok (.float (.infinity false), rest)
  | '-' :: 'I' :: 'n' :: 'f' :: 'i' :: 'n' :: 'i' :: 't' :: 'y' :: rest =>
    .ok (.float (.infinity true), rest)
  | '-' :: rest => unsignedNumber true text.length rest
  | text => unsignedNumber false text.length text

section

variable (spelling : Spelling)

mutual

/-- Reads the value at the head of the text; `fuel` bounds the nesting and the items. -/
def readValue : Nat → List Char → Except Stop (Json × List Char)
  | 0, text => stop .value text
  | fuel + 1, text =>
    match text with
    | '"' :: rest => (readString spelling text.length rest).map fun read => (.str read.1, read.2)
    | '[' :: rest =>
      match skipSpace rest with
      | ']' :: more => .ok (.arr [], more)
      | more => (readItems fuel more).map fun read => (.arr read.1, read.2)
    | '\x7b' :: rest =>
      match skipSpace rest with
      | '\x7d' :: more => .ok (.obj [], more)
      | more =>
        (readFields fuel more).map fun read => (.obj (Entries.ofList read.1), read.2)
    | text => readScalar text

/-- Reads the items of an array from the first one on. -/
def readItems : Nat → List Char → Except Stop (List Json × List Char)
  | 0, text => stop .value text
  | fuel + 1, text => do
    let (v, rest) ← readValue fuel text
    match skipSpace rest with
    | ']' :: more => .ok ([v], more)
    | ',' :: more => do
      let (vs, left) ← readItems fuel (skipSpace more)
      .ok (v :: vs, left)
    | left => stop .comma left

/-- Reads the fields of an object from the first one on, as they are written. -/
def readFields : Nat → List Char → Except Stop (List (String × Json) × List Char)
  | 0, text => stop .value text
  | fuel + 1, text =>
    match text with
    | '"' :: rest => do
      let (key, rest) ← readString spelling text.length rest
      match skipSpace rest with
      | ':' :: rest => do
        let (v, rest) ← readValue fuel (skipSpace rest)
        match skipSpace rest with
        | '\x7d' :: more => .ok ([(key, v)], more)
        | ',' :: more => do
          let (fields, left) ← readFields fuel (skipSpace more)
          .ok ((key, v) :: fields, left)
        | left => stop .comma left
      | left => stop .colon left
    | text => stop .propertyName text

end

/-- Reads a text that is one value between white space. -/
def readText (text : List Char) : Except Stop Json := do
  let (v, rest) ← readValue spelling (2 * text.length + 2) (skipSpace text)
  match skipSpace rest with
  | [] => .ok v
  | left => .error (.unexpected .endOfText left.length)

def Stop.failure (length : Nat) : Stop → Failure
  | .unexpected expected left => .unexpected expected (length - left)
  | .oversized digits => .oversized digits

/-- Reads a document; a text that opens with a byte order mark is refused. -/
def parseAs (text : List Char) : Except Failure Json :=
  match text with
  | '\uFEFF' :: _ => .error (.unexpected .noByteOrderMark 0)
  | text => (readText spelling text).mapError (Stop.failure text.length)

end

/-- Reads a document in the plain spelling. -/
def parse (text : List Char) : Except Failure Json := parseAs .plain text

/-- The message of a failure with its line and column, both counted from one. -/
def placeMessage (text : List Char) (expected : Expected) (position : Nat) : String :=
  let before := text.take position
  let line := before.count '\n' + 1
  let column := (before.reverse.takeWhile (· ≠ '\n')).length + 1
  expected.message ++ ": line " ++ toString line ++ " column " ++ toString column ++
    " (char " ++ toString position ++ ")"

def oversizedMessage (digits : Nat) : String :=
  "Exceeds the limit (4300 digits) for integer string conversion: value has " ++
    toString digits ++ " digits; use sys.set_int_max_str_digits() to increase the limit"

end ReplayFlow.Json
