import ReplayFlow.Path
import ReplayFlow.Settings

/-!
Help texts. The help of an option is a template: a percent sign starts a
directive, which shows a property of the option, named in parentheses, or else
all of them together; two percent signs stand for one. The directories of the
settings stand in the templates as they are, so help fails when they hold what
is no directive. `check` says whether it does.
-/

namespace ReplayFlow.CommandLine.HelpText

/-- The properties of an option. -/
def properties : List String :=
  ["option_strings", "dest", "nargs", "const", "default", "type", "choices", "required", "help",
    "metavar", "container", "prog"]

/-- What a directive has to show. -/
inductive Subject where
  | number
  | other
  /-- Everything there was has been shown. -/
  | nothing
  deriving DecidableEq

/-- Of the properties only whether the option is required is a number. -/
def Subject.ofProperty (name : String) : Except Fault Subject :=
  if name ∈ properties then .ok (if name = "required" then .number else .other)
  else .error (.noProperty name)

/-- The text up to the parenthesis that closes the one before it, and what follows; `depth`
counts the parentheses open inside. -/
def closedFrom? : Nat → List Char → Option (List Char × List Char)
  | _, [] => none
  | 0, ')' :: text => some ([], text)
  | depth, c :: text =>
    let depth := if c = '(' then depth + 1 else if c = ')' then depth - 1 else depth
    (closedFrom? depth text).map fun r => (c :: r.1, r.2)

/-- What a directive shows, and the rest of it. -/
def readSubject (before : Subject) : List Char → Except Fault (Subject × List Char)
  | '(' :: text =>
    match closedFrom? 0 text with
    | none => .error .badTemplate
    | some (name, rest) => (Subject.ofProperty (String.ofList name)).map fun s => (s, rest)
  | text => .ok (before, text)

/-- Passes over a count; a star takes the subject for it, which has to be a number. -/
def passCount (most : Nat) (subject : Subject) (text : List Char) :
    Except Fault (Subject × List Char) :=
  match text with
  | '*' :: rest => if subject = .number then .ok (.nothing, rest) else .error .unfitSubject
  | _ =>
    let count := (text.takeWhile Char.isDigit).foldl (fun n c => n * 10 + (c.toNat - 48)) 0
    if most < count then .error .badTemplate else .ok (subject, text.dropWhile Char.isDigit)

def mostColumns : Nat := 9223372036854775807

def mostPlaces : Nat := 2147483647

def passPlaces (subject : Subject) : List Char → Except Fault (Subject × List Char)
  | '.' :: text => passCount mostPlaces subject text
  | text => .ok (subject, text)

def passSize : List Char → List Char
  | 'h' :: text => text
  | 'l' :: text => text
  | 'L' :: text => text
  | text => text

/-- Whether a letter can show a subject: some show anything and some only numbers. -/
def checkLetter (subject : Subject) (letter : Char) : Except Fault Unit :=
  if subject = .nothing then .error .unfitSubject
  else if letter ∈ "sra".toList then .ok ()
  else if letter ∈ "diuoxXeEfFgGc".toList then
    if subject = .number then .ok () else .error .unfitSubject
  else .error .badTemplate

/-- Reads what follows the percent sign of a directive and gives back the text after it. -/
def directive (before : Subject) (text : List Char) : Except Fault (List Char) := do
  let (subject, text) ← readSubject before text
  let text := text.dropWhile (· ∈ "-+ #0".toList)
  let (subject, text) ← passCount mostColumns subject text
  let (subject, text) ← passPlaces subject text
  match passSize text with
  | [] => .error .badTemplate
  | letter :: rest => do
    checkLetter subject letter
    .ok rest

/-- Checks a template past characters that were read already. -/
def checkFrom : Nat → Subject → List Char → Except Fault Unit
  | _, _, [] => .ok ()
  | skip + 1, before, _ :: text => checkFrom skip before text
  | 0, before, c :: text =>
    if c ≠ '%' then checkFrom 0 before text
    else if text.head? = some '%' then checkFrom 1 before text
    else
      match directive before text with
      | .error fault => .error fault
      | .ok rest => checkFrom (text.length - rest.length) .nothing text

def checkTemplate (template : String) : Except Fault Unit := checkFrom 0 .other template.toList

def inputHelp (s : Settings) : String :=
  "Directory of recording JSON files (default: " ++ Path.tidy s.inputDirectory ++ ")"

def outputHelp (s : Settings) : String :=
  "Directory for generated flows (default: " ++ Path.tidy s.outputDirectory ++ ")"

/-- Whether the help of all options can be shown; the other texts have no settings in them. -/
def check (s : Settings) : Except Fault Unit := do
  checkTemplate (inputHelp s)
  checkTemplate (outputHelp s)

end ReplayFlow.CommandLine.HelpText
