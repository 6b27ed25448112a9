import ReplayFlow.Text.Basic
import ReplayFlow.Text.Digit

/-!
What each argument of a command line is. An option may be cut short as long as
one option alone starts that way, and may bring its value after an equals sign;
the letters of one-letter options may be run together. After two hyphens alone
nothing is an option any more.
-/

namespace ReplayFlow.CommandLine

inductive OptionName where
  | help
  | inputDirectory
  | outputDirectory
  | mainFlow
  | workers
  | verbose
  deriving DecidableEq

namespace OptionName

def all : List OptionName := [help, inputDirectory, outputDirectory, mainFlow, workers, verbose]

def text : OptionName → String
  | help => "--help"
  | inputDirectory => "--input-dir"
  | outputDirectory => "--output-dir"
  | mainFlow => "--main-flow"
  | workers => "--workers"
  | verbose => "--verbose"

def takesValue : OptionName → Bool
  | inputDirectory => true
  | outputDirectory => true
  | workers => true
  | _ => false

/-- The option of a whole name; help has a short one too. -/
def ofText? (name : List Char) : Option OptionName :=
  if name = ['-', 'h'] then some help else all.find? fun option => option.text.toList = name

/-- The options that start with a text. -/
def startingWith (start : List Char) : List OptionName :=
  all.filter fun option => Text.startsWith start option.text.toList

end OptionName

inductive Argument where
  /-- An option, with the value written into the same argument. -/
  | option (name : OptionName) (value : Option String)
  | value (text : String)
  /-- Written like an option, and none. -/
  | unknown
  deriving DecidableEq

namespace Argument

/-- Whether a text after a hyphen is a number; a newline at its end is not looked at. -/
def isNumber (text : List Char) : Bool :=
  let text := Text.withoutFinalNewline text
  let isDigits (l : List Char) : Bool := l ≠ [] && l.all Text.isDecimalDigit
  isDigits text ||
    match text.dropWhile Text.isDecimalDigit with
    | '.' :: fraction => isDigits fraction
    | _ => false

/-- A run of one-letter options after a first one. Help is the only such option and takes no
value, so other letters are a value that it cannot have. -/
def ofLetters (letters : List Char) : Argument :=
  if letters ≠ [] ∧ letters.all (· == 'h') then option .help none
  else option .help (some (String.ofList letters))

/-- What is written like an option and is none may still be a number or a sentence. -/
def ofOther (text : List Char) : Argument :=
  if isNumber text.tail ∨ ' ' ∈ text then value (String.ofList text) else unknown

/-- What an argument after a hyphen is; nothing if it could be several options. -/
def ofHyphened? (text : List Char) : Option Argument :=
  let name := text.takeWhile (· != '=')
  let given : Option String :=
    match text.dropWhile (· != '=') with
    | _ :: rest => some (String.ofList rest)
    | [] => none
  match OptionName.ofText? text, text with
  | some whole, _ => some (option whole none)
  | none, '-' :: 'h' :: '=' :: letters => some (ofLetters letters)
  | none, '-' :: 'h' :: letters => some (ofLetters letters)
  | none, '-' :: '-' :: _ =>
    match OptionName.ofText? name, OptionName.startingWith name with
    | some named, _ => some (option named given)
    | none, [] => some (ofOther text)
    | none, [only] => some (option only given)
    | none, _ => none
  | none, _ => some (ofOther text)

/-- What an argument is by itself; a hyphen alone is a value. -/
def ofText? (text : String) : Option Argument :=
  match text.toList with
  | '-' :: c :: rest => ofHyphened? ('-' :: c :: rest)
  | _ => some (value text)

/-- What the arguments of a line are; nothing if one could be several options. -/
def ofTexts? : List String → Option (List Argument)
  | [] => some []
  | text :: rest =>
    if text = "--" then some (unknown :: rest.map value)
    else do
      let first ← ofText? text
      let others ← ofTexts? rest
      some (first :: others)

end Argument

end ReplayFlow.CommandLine
