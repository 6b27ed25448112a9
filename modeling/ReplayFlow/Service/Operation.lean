import ReplayFlow.Service.ControlTypes
import ReplayFlow.Service.Endpoint
import ReplayFlow.Service.StoredFlow

/-!
The operations of the service. Recordings are compiled as they are sent, or from one
directory into another; flows are read, saved and validated. The settings are
read anew for each operation.
-/

namespace ReplayFlow.Service

namespace Site

/-- Whether the directories are there; without its input directory the service is degraded. -/
def showHealth (s : Site) (t : FileTree) : Run Reply := do
  let present (directory : String) : Run Bool :=
    let path := s.walkTo directory
    .ofExcept (Storage.atPath path (t.isDirectory? path))
  let input ← present s.settings.inputDirectory
  let output ← present s.settings.outputDirectory
  let targets ← present s.settings.targetsDirectory
  return .ok (.obj [("status", .str (if input then "ok" else "degraded")),
    ("service", .str "sapflow"), ("version", .str s.version),
    ("directories", .obj [("inputDir", .bool input), ("outputDir", .bool output),
      ("targetsDir", .bool targets)])])

/-- Compiles the recordings of a body. -/
def compile (s : Site) (body : CompileBody) : Run Reply := do
  let (result, notices) := compileDocuments (s.options body.mainFlow) body.recordings
  .report notices
  return .ok result.toJson

/-- A requested directory below a configured one; none requested is that one itself. -/
def below (s : Site) (base : String) (requested : Option String) :
    Except Fault (List String) := do
  let root ← s.resolve base
  match requested with
  | none => .ok root
  | some name => if name = "" then .ok root else Path.join (Path.absolute root) name

/-- What is answered about a result that was written. -/
def summary (result : CompileResult) (written : List String) : Json :=
  .obj [("written", .arr (written.map Json.str)),
    ("skipped", .arr (result.skipped.map Skipped.toJson)),
    ("violations", .obj (Entries.mapValues (fun vs => .int vs.length)
      result.violations.entries))]

/-- Reads and compiles the recordings of a directory; one that is missing is not found. -/
def compileFrom (s : Site) (t : FileTree) (input : List String) (mainFlow : Bool) :
    Handler CompileResult :=
  let run := compileSource (s.options mainFlow)
    (Storage.directorySource t input Storage.defaultPattern)
  match run.outcome with
  | .error (.inputMissing path) => do
    .ofRun (.report run.notices)
    throw (.notFound (Fault.inputMissing path).message)
  | .error (.atPath .notFound path) => do
    .ofRun (.report run.notices)
    throw (.notFound (Fault.atPath .notFound path).message)
  | _ => .ofRun run

/-- Compiles the recordings of a directory and writes the result into another. -/
def process (s : Site) (t : FileTree) (body : ProcessBody) : FileTree × Run Reply :=
  let compiled : Handler (CompileResult × List String) := do
    let input ← .ofPath (s.below s.settings.inputDirectory body.inputDirectory)
    let output ← .ofPath (s.below s.settings.outputDirectory body.outputDirectory)
    let result ← s.compileFrom t input (body.mainFlow.getD s.settings.mainFlow)
    return (result, output)
  match compiled.run.outcome with
  | .error fault => (t, ⟨compiled.run.notices, .error fault⟩)
  | .ok (.error reply) => (t, ⟨compiled.run.notices, .ok reply⟩)
  | .ok (.ok (result, output)) =>
    let (t, written) := result.writeInto t output
    (t, ⟨compiled.run.notices, written.map fun names => .ok (summary result names)⟩)

/-- Carries an operation out with the body of its request. -/
def perform (s : Site) (t : FileTree) (body : Json) : Operation → FileTree × Run Reply
  | .showHealth => (t, s.showHealth t)
  | .compile =>
    (t, match CompileBody.ofJson? body with
      | some body => s.compile body
      | none => pure .unreadable)
  | .process =>
    match ProcessBody.ofJson? body with
    | some body => s.process t body
    | none => (t, pure .unreadable)
  | .readFlow tcode =>
    (t, Handler.reply do return .ok (.obj (← s.readFlow t tcode)))
  | .saveFlow tcode =>
    match FlowBody.ofJson? body with
    | some body =>
      let (t, handler) := s.saveFlow t tcode body
      (t, handler.reply)
    | none => (t, pure .unreadable)
  | .validateFlow tcode => (t, (s.validateFlow t tcode).reply)
  | .listControlTypes => (t, s.listControlTypes t)

end Site

/-- What an endpoint answers to a method, in an environment, on a file tree, from the directory
`here`. -/
def Endpoint.answer (endpoint : Endpoint) (environment : Environment) (today : String)
    (here : List String) (t : FileTree) (method : Method) (body : Option Json) :
    FileTree × Run Reply :=
  match endpoint.access method with
  | .refused => (t, pure (Reply.wrongMethod.shownTo method))
  | .page => (t, pure (.bare 200))
  | .granted operation =>
    let (site, notices) := Site.ofEnvironment environment today here
    let (t, run) := site.perform t (body.getD .null) operation
    (t, ⟨notices ++ run.notices, run.outcome⟩)

end ReplayFlow.Service
