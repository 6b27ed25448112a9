import ReplayFlow.Path

/-!
Shell patterns for files: `*` stands for any text, `?` for any character, and
brackets for one character of a set, or outside it after `!`. A set holds single
characters and ranges; a range that is empty leaves no trace. A pattern may lead
through directories, and two stars stand for any number of them.
-/

namespace ReplayFlow.Storage

/-- One sign of a pattern. -/
inductive Sign where
  | anyText
  | anyChar
  | char (c : Char)
  | set (negated : Bool) (ranges : List (Char × Char))
  deriving DecidableEq

namespace Sign

def accepts (sign : Sign) (c : Char) : Bool :=
  match sign with
  | anyText => true
  | anyChar => true
  | char d => c = d
  | set negated ranges => (ranges.any fun r => r.1 ≤ c && c ≤ r.2) != negated

/-- Cuts the text of a set at the hyphens that join its parts. The characters kept at the
start of a part are in it whatever they are, and a hyphen at the end joins nothing. -/
def partsFrom : Nat → List Char → List (List Char)
  | _, [] => [[]]
  | 0, '-' :: c :: text => [] :: partsFrom 2 (c :: text)
  | kept, c :: text =>
    match partsFrom (kept - 1) text with
    | part :: rest => (c :: part) :: rest
    | [] => [[c]]

/-- A range that ends before it starts is empty: its two ends go away with it, and what is
left of the parts grows together. Ranges are looked at from right to left. -/
def withoutEmptyRanges : List (List Char) → List (List Char)
  | [] => []
  | part :: rest =>
    match withoutEmptyRanges rest, part.getLast? with
    | (c :: next) :: more, some a =>
      if c < a then (part.dropLast ++ next) :: more else part :: (c :: next) :: more
    | rest, _ => part :: rest

/-- The ranges between parts. A hyphen with nothing before it is a member itself. -/
def joins : List (List Char) → List (Char × Char)
  | [] => []
  | part :: rest =>
    match part.getLast?, rest with
    | _, [] => []
    | some a, (b :: _) :: _ => (a, b) :: joins rest
    | _, _ => ('-', '-') :: joins rest

/-- The members of a set: the characters of its parts, and the ranges between them. -/
def members (parts : List (List Char)) : List (Char × Char) :=
  (parts.flatten.map fun c => (c, c)) ++ joins parts

/-- The set that a text between brackets stands for. Empty ranges go before the sign of
negation is looked for. -/
def ofSetText (text : List Char) : Sign :=
  match withoutEmptyRanges (partsFrom (if text.head? = some '!' then 2 else 1) text) with
  | ('!' :: part) :: rest => set true (members (part :: rest))
  | parts => set false (members parts)

/-- The text before a closing bracket; a bracket that comes first is part of it. -/
def textToBracket? : List Char → Option (List Char)
  | [] => none
  | c :: rest => if ']' ∈ rest then some (c :: rest.takeWhile (· != ']')) else none

/-- The text of the set that starts after an opening bracket. -/
def setText? : List Char → Option (List Char)
  | '!' :: rest => (textToBracket? rest).map ('!' :: ·)
  | text => textToBracket? text

def readFrom : Nat → List Char → List Sign
  | _, [] => []
  | skip + 1, _ :: text => readFrom skip text
  | 0, c :: text =>
    if c = '*' then anyText :: readFrom 0 text
    else if c = '?' then anyChar :: readFrom 0 text
    else if c = '[' then
      match setText? text with
      | some inside => ofSetText inside :: readFrom (inside.length + 1) text
      | none => char c :: readFrom 0 text
    else char c :: readFrom 0 text

/-- Whether some end of a text, the whole and the empty one among them, has a property. -/
def anyEnd (p : List Char → Bool) : List Char → Bool
  | [] => p []
  | c :: text => p (c :: text) || anyEnd p text

/-- Whether signs describe a whole text. -/
def matchesAll : List Sign → List Char → Bool
  | [], text => text.isEmpty
  | anyText :: signs, text => anyEnd (matchesAll signs) text
  | _ :: _, [] => false
  | sign :: signs, c :: text => sign.accepts c && matchesAll signs text

end Sign

/-- Whether a name fits a pattern. -/
def fitsPattern (pattern name : String) : Bool :=
  Sign.matchesAll (Sign.readFrom 0 pattern.toList) name.toList

/-- What leads from a directory on. -/
inductive PatternPart where
  | anyDepth
  | exactly (name : String)
  | fitting (signs : List Sign)
  deriving DecidableEq

/-- A part has no two stars beside other signs. -/
def PatternPart.ofText? (text : String) : Option PatternPart :=
  if text = "**" then some .anyDepth
  else if Text.occursIn ['*', '*'] text.toList then none
  else if text.toList.any (· ∈ ['*', '?', '[']) then
    some (.fitting (Sign.readFrom 0 text.toList))
  else some (.exactly text)

/-- The parts of a pattern, and whether a slash closes it. -/
structure Pattern where
  parts : List PatternPart
  closed : Bool
  deriving DecidableEq

/-- A pattern is relative and leads somewhere. -/
def Pattern.ofText (text : String) : Except Fault Pattern :=
  let closed := text.toList.getLast? = some '/'
  if text = "" then .error (.badPattern text)
  else if Path.isAbsolute text then .error (.absolutePattern text)
  else
    match (Path.components text).mapM PatternPart.ofText? with
    | none => .error (.badPattern text)
    | some [] => .error (if closed then .patternOfDotsClosed else .patternOfDots)
    | some parts => .ok ⟨parts, closed⟩

end ReplayFlow.Storage
