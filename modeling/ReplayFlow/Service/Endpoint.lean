import ReplayFlow.Service.Reply

/-!
Where a request goes, and what its method meets there.
-/

namespace ReplayFlow.Service

inductive Endpoint where
  | health
  | compile
  | process
  | flow (tcode : String)
  | validation (tcode : String)
  | controlTypes
  /-- The pages that describe the service; they are only read. -/
  | manual
  deriving DecidableEq

/-- What the service does. -/
inductive Operation where
  | showHealth
  | compile
  | process
  | readFlow (tcode : String)
  | saveFlow (tcode : String)
  | validateFlow (tcode : String)
  | listControlTypes
  deriving DecidableEq

/-- What a method meets at an endpoint. -/
inductive Access where
  | refused
  | page
  | granted (operation : Operation)
  deriving DecidableEq

namespace Endpoint

/-- The endpoint of a path that is taken apart at slashes. -/
def ofPieces? : List String → Option Endpoint
  | ["", "healthz"] => some health
  | ["", "api", "compile"] => some compile
  | ["", "api", "process"] => some process
  | ["", "api", "control-types"] => some controlTypes
  | ["", "docs"] => some manual
  | ["", "docs", "oauth2-redirect"] => some manual
  | ["", "redoc"] => some manual
  | ["", "openapi.json"] => some manual
  | ["", "api", "flows", tcode] => if tcode = "" then none else some (flow tcode)
  | ["", "api", "flows", tcode, "validate"] =>
    if tcode = "" then none else some (validation tcode)
  | _ => none

/-- What a method meets. A page may be asked for without its text. -/
def access : Endpoint → Method → Access
  | health, .get => .granted .showHealth
  | compile, .post => .granted .compile
  | process, .post => .granted .process
  | flow tcode, .get => .granted (.readFlow tcode)
  | flow tcode, .put => .granted (.saveFlow tcode)
  | validation tcode, .post => .granted (.validateFlow tcode)
  | controlTypes, .get => .granted .listControlTypes
  | manual, .get => .page
  | manual, .head => .page
  | _, _ => .refused

end Endpoint

end ReplayFlow.Service
