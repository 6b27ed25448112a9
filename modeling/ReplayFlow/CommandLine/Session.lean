import ReplayFlow.Batch.Output
import ReplayFlow.CommandLine.Reading

/-!
A run from the command line: the settings are read, then the line over them, and
what it asks for is done on a file tree.
-/

namespace ReplayFlow.CommandLine

/-- How a run ends. -/
inductive Ending where
  | help
  | misuse
  | failed
  /-- Stopped by what no run answers for. -/
  | broken (fault : Fault)
  | compiled (complete : Bool)
  deriving DecidableEq

namespace Ending

/-- The exit code: one if a recording was skipped or the run broke off, two if nothing came
about. -/
def code : Ending → Nat
  | help => 0
  | misuse => 2
  | failed => 2
  | broken _ => 1
  | compiled complete => if complete then 0 else 1

/-- Whether the line itself ended the run. -/
def isUsage : Ending → Bool
  | help => true
  | misuse => true
  | _ => false

end Ending

/-- What a run leaves behind. -/
structure Session where
  tree : FileTree
  ending : Ending
  verbose : Bool := false
  notices : List Notice

/-- The value of an option, which has to have one where it is used. -/
def valueOf {α : Type} (value : Option α) : Run α :=
  match value with
  | some value => return value
  | none => .fail .valueMissing

/-- Compiles the recordings of one directory into another, both seen from `here`. -/
def compileInto (o : Options) (options : CompileOptions) (here : List String) (t : FileTree) :
    FileTree × Run (CompileResult × List String) :=
  let run := do
    let input ← Run.ofExcept (Path.locate here (← valueOf o.inputDirectory))
    let _ ← valueOf o.workers
    let result ← compileSource options (Storage.directorySource t input Storage.defaultPattern)
    let output ← Run.ofExcept (Path.locate here (← valueOf o.outputDirectory))
    return (result, output)
  match run.outcome with
  | .error fault => (t, ⟨run.notices, .error fault⟩)
  | .ok (result, output) =>
    let (t, written) := result.writeInto t output
    (t, ⟨run.notices, written.map fun names => (result, names)⟩)

namespace Session

/-- Does what options ask for and reports how it went. -/
def compile (o : Options) (options : CompileOptions) (here : List String) (t : FileTree)
    (notices : List Notice) : Session :=
  let (t, run) := compileInto o options here t
  let before := notices ++ run.notices
  match run.outcome with
  | .ok (result, written) =>
    { tree := t
      ending := .compiled result.skipped.isEmpty
      verbose := o.verbose
      notices := before ++ [.compiled written.length (Path.tidy (o.outputDirectory.getD ""))
        result.skipped.length result.violations.size] }
  | .error .valueMissing =>
    { tree := t, ending := .broken .valueMissing, verbose := o.verbose, notices := before }
  | .error fault =>
    { tree := t
      ending := .failed
      verbose := o.verbose
      notices := before ++ [.compilationFailed fault.message] }

/-- Runs a command line in an environment, on a file tree, from the directory `here`. -/
def run (environment : Environment) (today : String) (here : List String) (t : FileTree)
    (arguments : List String) : Session :=
  let (settings, notices) := Settings.ofEnvironment environment
  match Reading.ofTexts settings arguments with
  | .help => { tree := t, ending := .help, notices }
  | .misuse => { tree := t, ending := .misuse, notices }
  | .fault fault => { tree := t, ending := .broken fault, notices }
  | .compile o =>
    let options : CompileOptions :=
      { today, mainFlow := o.mainFlow, mainFlowInfo := settings.mainFlowInfo }
    compile o options here t notices

end Session

end ReplayFlow.CommandLine
