import ReplayFlow.Batch.Compile
import ReplayFlow.Path
import ReplayFlow.Settings

/-!
What the service knows when it handles a request: its settings, its version, the
date, and the directory that relative paths are seen from.
-/

namespace ReplayFlow.Service

structure Site where
  settings : Settings
  version : String
  today : String
  here : List String

namespace Site

/-- The site that an environment describes, with what is reported about it. -/
def ofEnvironment (environment : Environment) (today : String) (here : List String) :
    Site × List Notice :=
  let (settings, notices) := Settings.ofEnvironment environment
  (⟨settings, environment.value "APP_VERSION" "dev", today, here⟩, notices)

/-- A directory as it is walked to, `..` kept. -/
def walkTo (s : Site) (directory : String) : List String := Path.seenFrom s.here directory

/-- A directory as it is named in paths below it. -/
def resolve (s : Site) (directory : String) : Except Fault (List String) :=
  Path.locate s.here directory

/-- What a compilation is asked for. -/
def options (s : Site) (mainFlow : Bool) : CompileOptions :=
  { today := s.today, mainFlow, mainFlowInfo := s.settings.mainFlowInfo }

end Site

end ReplayFlow.Service
