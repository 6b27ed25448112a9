/-!
Cutting and searching text, as functions on lists of characters.
-/

namespace ReplayFlow.Text

/-- The rest of a text after a given beginning. -/
def after? : List Char → List Char → Option (List Char)
  | [], text => some text
  | _ :: _, [] => none
  | m :: marker, c :: text => if m = c then after? marker text else none

theorem after?_eq_some_iff {marker text rest : List Char} :
    after? marker text = some rest ↔ text = marker ++ rest := by
  induction marker generalizing text with
  | nil => simp [after?, eq_comm]
  | cons m marker ih =>
    cases text with
    | nil => simp [after?]
    | cons c text =>
      by_cases h : m = c
      · simp [after?, h, ih]
      · have h' : ¬ c = m := fun e => h e.symm
        simp [after?, h, h']

def startsWith (marker text : List Char) : Bool := (after? marker text).isSome

/-- What follows the first occurrence of a marker. -/
def afterFirst? (marker : List Char) : List Char → Option (List Char)
  | [] => after? marker []
  | c :: text => after? marker (c :: text) <|> afterFirst? marker text

def occursIn (marker text : List Char) : Bool := (afterFirst? marker text).isSome

def removeFrom (marker : List Char) : Nat → List Char → List Char
  | _, [] => []
  | skip + 1, _ :: text => removeFrom marker skip text
  | 0, c :: text =>
    if startsWith marker (c :: text) then removeFrom marker (marker.length - 1) text
    else c :: removeFrom marker 0 text

/-- Deletes the occurrences of a marker that is not empty, found from left to right. -/
def removeAll (marker text : List Char) : List Char := removeFrom marker 0 text

/-- The pieces between occurrences of a character; always at least one. -/
def pieces (sep : Char) : List Char → List (List Char)
  | [] => [[]]
  | c :: text =>
    if c = sep then [] :: pieces sep text
    else
      match pieces sep text with
      | [] => [[c]]
      | piece :: rest => (c :: piece) :: rest

/-- The longest stretches of characters with a property. -/
def stretches (p : Char → Bool) : List Char → List (List Char)
  | [] => []
  | c :: text =>
    if p c then
      match text with
      | [] => [[c]]
      | d :: _ =>
        if p d then
          match stretches p text with
          | [] => [[c]]
          | stretch :: rest => (c :: stretch) :: rest
        else [c] :: stretches p text
    else stretches p text

def dropEndWhile (p : Char → Bool) (text : List Char) : List Char :=
  (text.reverse.dropWhile p).reverse

/-- White space of every script, the separators of information units included. -/
def isBlank (c : Char) : Bool :=
  let n := c.toNat
  (9 ≤ n && n ≤ 13) || (28 ≤ n && n ≤ 32) || n = 0x85 || n = 0xA0 || n = 0x1680 ||
    (0x2000 ≤ n && n ≤ 0x200A) || n = 0x2028 || n = 0x2029 || n = 0x202F || n = 0x205F ||
    n = 0x3000

def strip (text : List Char) : List Char := dropEndWhile isBlank (text.dropWhile isBlank)

def join (sep : List Char) : List (List Char) → List Char
  | [] => []
  | [piece] => piece
  | piece :: rest => piece ++ sep ++ join sep rest

/-- The last part of a path text, read past closing slashes. -/
def lastSegment (path : List Char) : List Char :=
  ((path.reverse.dropWhile (· == '/')).takeWhile (· != '/')).reverse

/-- The character at the end of a line of text: a newline that ends the text is not looked at. -/
def withoutFinalNewline (text : List Char) : List Char :=
  match text.reverse with
  | '\n' :: rest => rest.reverse
  | _ => text

/-- Every way to end a line becomes one newline. -/
def plainLines : List Char → List Char
  | '\x0d' :: '\n' :: rest => '\n' :: plainLines rest
  | '\x0d' :: rest => '\n' :: plainLines rest
  | c :: rest => c :: plainLines rest
  | [] => []

/-- The order of texts by code points. -/
def le (a b : String) : Bool := !(b < a)

def sorted (texts : List String) : List String := texts.mergeSort le

end ReplayFlow.Text
