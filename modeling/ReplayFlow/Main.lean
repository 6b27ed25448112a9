import ReplayFlow.CommandLine.Session
import ReplayFlow.Environment.Assignments
import Std.Time.Format

/-!
The command line program. It loads the two directories that a line names into a
file tree, runs the line on the tree, and writes out what the run has changed.
-/

namespace ReplayFlow.CommandLine.Main

def usage : String :=
  "usage: replayflow [-h] [--input-dir DIR] [--output-dir DIR] [--main-flow]\n" ++
  "                  [--workers N] [--verbose]\n\n" ++
  "Compiles recorded sessions into replayable flows.\n"

/-- The variables that settings are read from. -/
def settingNames : List String :=
  ["SAPFLOW_INPUT_DIR", "SAPFLOW_OUTPUT_DIR", "SAPFLOW_TARGETS_DIR", "SAPFLOW_MAIN_FLOW",
    "SAPFLOW_MAIN_FLOW_VERSION", "SAPFLOW_MAIN_FLOW_TX", "SAPFLOW_WORKERS", "ALLOW_ORIGINS"]

def readEnvironment : IO Environment := do
  let given ← settingNames.filterMapM fun name => do
    return (← IO.getEnv name).map fun value => (name, value)
  let directory ← IO.currentDir
  let environment : Environment := .ofList given
  if ← (directory / ".env").pathExists then
    match environment.withFile (← IO.FS.readFile (directory / ".env")) with
    | .ok environment => return environment
    | .error fault => throw (IO.userError fault.message)
  else return environment

/-- Loads what stands at a place: a directory, or a file with the bytes that `read` gives. -/
def loadPlace (read : String → IO (List UInt8)) (t : FileTree) (place : String) :
    IO FileTree := do
  let components := Path.components place
  let file := (← IO.currentDir) / place
  if ← file.isDir then return t.makeFrom [] components
  else if ← file.pathExists then return t.place components (.file (← read place))
  else return t

/-- Loads the way to a directory, the directory last. -/
def loadWay (t : FileTree) (path : List String) : IO FileTree :=
  (List.range path.length).foldlM (fun t n =>
    loadPlace (fun _ => return []) t (Path.absolute (path.take (n + 1)))) t

/-- Loads all that lies below a directory, without the bytes of its files. -/
def loadShape (t : FileTree) (path : List String) : IO FileTree := do
  let t ← loadWay t path
  let directory := (← IO.currentDir) / Path.absolute path
  if ← directory.isDir then
    (← directory.walkDir).toList.foldlM (fun t place =>
      loadPlace (fun _ => return []) t place.toString) t
  else return t

/-- Loads the files in a directory. -/
def loadFiles (t : FileTree) (path : List String) : IO FileTree := do
  let t ← loadWay t path
  let directory := (← IO.currentDir) / Path.absolute path
  let read (place : String) : IO (List UInt8) := do
    return (← IO.FS.readBinFile place).toList
  if ← directory.isDir then
    (← directory.readDir).toList.foldlM (fun t entry =>
      loadPlace read t entry.path.toString) t
  else return t

/-- Writes what a node of a tree holds. -/
def store (path : List String) (node : Node) : IO Unit :=
  match node with
  | .directory => IO.FS.createDirAll (Path.absolute path)
  | .file bytes => IO.FS.writeBinFile (Path.absolute path) ⟨bytes.toArray⟩

/-- Loads the directories that a line names. -/
def loadFor (here : List String) (reading : Reading) : IO FileTree :=
  match reading with
  | .compile o => do
    let t ← loadShape .empty (Path.resolve here (o.outputDirectory.getD ""))
    loadFiles t (Path.resolve here (o.inputDirectory.getD ""))
  | _ => return .empty

def levelText : Level → String
  | .info => "INFO"
  | .warning => "WARNING"
  | .error => "ERROR"

def run (arguments : List String) : IO UInt32 := do
  let environment ← readEnvironment
  let here := Path.components (← IO.currentDir).toString
  let today := toString (← Std.Time.PlainDate.now)
  let reading := Reading.ofTexts (Settings.ofEnvironment environment).1 arguments
  let t ← loadFor here reading
  let session := Session.run environment today here t arguments
  let changed := session.tree.nodes.filter fun entry => t.nodes.lookup entry.1 ≠ some entry.2
  changed.forM fun entry => store entry.1 entry.2
  session.notices.forM fun notice =>
    IO.eprintln (levelText notice.level ++ " - " ++ notice.message)
  if session.ending = .help then IO.print usage
  if session.ending = .misuse then IO.eprint usage
  if let .broken fault := session.ending then IO.eprintln fault.message
  return session.ending.code.toUInt32

end ReplayFlow.CommandLine.Main

def main (arguments : List String) : IO UInt32 := do
  try
    ReplayFlow.CommandLine.Main.run arguments
  catch trouble =>
    IO.eprintln ("ERROR - Compilation failed: " ++ toString trouble)
    return 2
