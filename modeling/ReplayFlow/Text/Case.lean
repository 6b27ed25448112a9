import ReplayFlow.Text.CaseTable
import ReplayFlow.Text.CodeRange

/-!
Letter case of every script: the upper and lower case of a text, where one
character may become several and a capital sigma at the end of a word takes its
final form, and the tests for texts in one case.
-/

namespace ReplayFlow.Text

def isUpperChar (c : Char) : Bool :=
  if c.toNat < 128 then c.isUpper else inSteps c.toNat uppercaseSteps

def isLowerChar (c : Char) : Bool :=
  if c.toNat < 128 then c.isLower else inSteps c.toNat lowercaseSteps

def isTitleChar (c : Char) : Bool :=
  128 ≤ c.toNat && inSteps c.toNat titlecaseSteps

def isCased (c : Char) : Bool := isUpperChar c || isLowerChar c || isTitleChar c

def isCaseIgnorable (c : Char) : Bool := inRanges c.toNat ignorableRanges

/-- The lower case of one character alone. -/
def lowerOne (c : Char) : Char :=
  if c.toNat < 128 then c.toLower
  else if c = 'İ' then 'i'
  else shifted lowerShifts c

def lowerChar (c : Char) : List Char :=
  if c.toNat < 128 then [c.toLower]
  else if c = 'İ' then ['i', '\u0307']
  else [shifted lowerShifts c]

def upperChar (c : Char) : List Char :=
  if c.toNat < 128 then [c.toUpper]
  else
    match longUppers.lookup c.toNat with
    | some points => points.map Char.ofNat
    | none => [shifted upperShifts c]

/-- Whether a sigma between the reversed text before it and the text after it ends a word. -/
def endsWord (before rest : List Char) : Bool :=
  ((before.dropWhile isCaseIgnorable).head?.any isCased) &&
    !((rest.dropWhile isCaseIgnorable).head?.any isCased)

def lowerFrom (before : List Char) : List Char → List Char
  | [] => []
  | c :: rest =>
    (if c = 'Σ' then [if endsWord before rest then 'ς' else 'σ'] else lowerChar c) ++
      lowerFrom (c :: before) rest

def lower (text : List Char) : List Char := lowerFrom [] text

def upper (text : List Char) : List Char := text.flatMap upperChar

/-- A text with its first character in upper case. -/
def capitalize : List Char → List Char
  | [] => []
  | c :: rest => upperChar c ++ rest

/-- Some character has upper case and none has lower or title case. -/
def isUpperText (text : List Char) : Bool :=
  text.any isUpperChar && !text.any fun c => isLowerChar c || isTitleChar c

/-- Some character has lower case and none has upper or title case. -/
def isLowerText (text : List Char) : Bool :=
  text.any isLowerChar && !text.any fun c => isUpperChar c || isTitleChar c

/-- Whether a character stands for a lower case Latin letter when case is not told
apart: its lower case is that letter, or it is a dotless `i`. -/
def matchesLetter (letter c : Char) : Bool :=
  lowerOne c = letter || (letter = 'i' && c = 'ı')

/-- The rest of a text after a beginning given in lower case, case not told apart. -/
def afterAnyCase? : List Char → List Char → Option (List Char)
  | [], text => some text
  | _ :: _, [] => none
  | m :: marker, c :: text => if matchesLetter m c then afterAnyCase? marker text else none

end ReplayFlow.Text

namespace ReplayFlow

def lowercase (s : String) : String := String.ofList (Text.lower s.toList)

def uppercase (s : String) : String := String.ofList (Text.upper s.toList)

end ReplayFlow
