import ReplayFlow.CommandLine.Argument
import ReplayFlow.CommandLine.HelpText

/-!
Reading a command line. Options are taken from left to right, over what the
settings say; help ends the reading where it stands, and what is left over makes
the line unusable at its end.
-/

namespace ReplayFlow.CommandLine

/-- What a compilation was asked for. An option whose value is two hyphens alone has none. -/
structure Options where
  inputDirectory : Option String
  outputDirectory : Option String
  mainFlow : Bool
  workers : Option Int
  verbose : Bool := false
  deriving DecidableEq

namespace Options

def ofSettings (s : Settings) : Options where
  inputDirectory := some s.inputDirectory
  outputDirectory := some s.outputDirectory
  mainFlow := s.mainFlow
  workers := some s.workers

/-- Sets an option that takes a value; a number of workers has to be an integer. -/
def set? (o : Options) (name : OptionName) (text : String) : Option Options :=
  let given : Option String := if text = "--" then none else some text
  match name, given with
  | .inputDirectory, _ => some { o with inputDirectory := given }
  | .outputDirectory, _ => some { o with outputDirectory := given }
  | .workers, none => some { o with workers := none }
  | .workers, some text => (Text.readInt? text.toList).map fun n => { o with workers := some n }
  | _, _ => none

/-- Switches an option on. -/
def switchOn (o : Options) : OptionName → Options
  | .mainFlow => { o with mainFlow := true }
  | .verbose => { o with verbose := true }
  | _ => o

end Options

/-- What a command line asks for. -/
inductive Reading where
  | compile (options : Options)
  | help
  | misuse
  | fault (fault : Fault)
  deriving DecidableEq

namespace Reading

/-- Help, if it can be shown. -/
def helpWith (s : Settings) : Reading :=
  match HelpText.check s with
  | .ok () => help
  | .error trouble => fault trouble

/-- Reads on; `leftOver` says that something before was no option and no value of one. -/
def ofArguments (s : Settings) (o : Options) (leftOver : Bool) : List Argument → Reading
  | [] => if leftOver then misuse else compile o
  | .value _ :: rest => ofArguments s o true rest
  | .unknown :: rest => ofArguments s o true rest
  | .option name (some text) :: rest =>
    match o.set? name text with
    | some o => ofArguments s o leftOver rest
    | none => misuse
  | .option name none :: rest =>
    if name.takesValue then
      match rest with
      | .value text :: rest =>
        match o.set? name text with
        | some o => ofArguments s o leftOver rest
        | none => misuse
      | _ => misuse
    else if name = .help then helpWith s
    else ofArguments s (o.switchOn name) leftOver rest

/-- Reads the texts of a command line over the settings. -/
def ofTexts (s : Settings) (texts : List String) : Reading :=
  match Argument.ofTexts? texts with
  | none => misuse
  | some arguments => ofArguments s (.ofSettings s) false arguments

end Reading

end ReplayFlow.CommandLine
