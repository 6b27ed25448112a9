import ReplayFlow.Json.Basic
import ReplayFlow.Notice

/-!
The three shapes of a recording. A header field at the top decides for the
contextual shape, `steps` without `Steps` for the steps-only shape, and
everything else is read as a legacy list of events.
-/

namespace ReplayFlow

inductive Format where
  | legacy
  | stepsOnly
  | contextual
  deriving DecidableEq

namespace Format

def name : Format → String
  | legacy => "legacy"
  | stepsOnly => "steps-only"
  | contextual => "contextual"

/-- Whether a document is an object whose field is there and not null. -/
def has (document : Json) (key : String) : Bool :=
  match document with
  | .obj fields => !(Entries.field fields key).isNull
  | _ => false

def detect (document : Json) : Format :=
  if has document "$meta" || has document "targetContext" then contextual
  else if has document "steps" && !has document "Steps" then stepsOnly
  else legacy

end Format

/-- A document with its shape and the transaction code of its source. -/
structure Recording where
  format : Format
  document : Json
  tcode : String

namespace Recording

def ofDocument (document : Json) (tcode : String) : Recording :=
  ⟨Format.detect document, document, tcode⟩

/-- A document read as legacy without the events of one. -/
def isUnrecognised (recording : Recording) : Bool :=
  recording.format = .legacy && !Format.has recording.document "Steps"

def notices (recording : Recording) : List Notice :=
  if recording.isUnrecognised then [.unrecognisedFormat recording.tcode] else []

end Recording

end ReplayFlow
