import ReplayFlow.Json.Finite
import ReplayFlow.Run

/-!
Requests and replies of the service. A handler may answer early, with a reply in
place of its value, or fail with a fault that no reply stands for.
-/

namespace ReplayFlow.Service

inductive Method where
  | get
  /-- Asks for the status of a reply without its body. -/
  | head
  | put
  | post
  | other
  deriving DecidableEq

structure Request where
  method : Method
  target : String
  body : Option Json

inductive Reply where
  | ok (body : Json)
  | badRequest (detail : String)
  | notFound (detail : String)
  | wrongMethod
  /-- The body of the request is missing or has the wrong shape. -/
  | unreadable
  /-- What answers has no document: a page to look at, or no body at all. -/
  | bare (status : Nat)

namespace Reply

def status : Reply → Nat
  | ok _ => 200
  | badRequest _ => 400
  | notFound _ => 404
  | wrongMethod => 405
  | unreadable => 422
  | bare status => status

def detailed (detail : String) : Json := .obj [("detail", .str detail)]

/-- The body of a reply, if the service itself words it. -/
def body? : Reply → Option Json
  | ok body => some body.finite
  | badRequest detail => some (detailed detail)
  | notFound detail => some (detailed detail)
  | wrongMethod => some (detailed "Method Not Allowed")
  | unreadable => none
  | bare _ => none

/-- A reply as a method shows it. -/
def shownTo (method : Method) (reply : Reply) : Reply :=
  match method with
  | .head => bare reply.status
  | _ => reply

end Reply

/-- What works towards a reply. -/
abbrev Handler (α : Type) := ExceptT Reply Run α

namespace Handler

variable {α : Type}

def ofRun (run : Run α) : Handler α := ExceptT.lift run

def ofExcept (outcome : Except Fault α) : Handler α := ofRun (.ofExcept outcome)

/-- A path that cannot be used is answered as a bad request. -/
def ofPath : Except Fault α → Handler α
  | .ok path => pure path
  | .error fault => throw (.badRequest fault.message)

/-- The reply, whether it came early or at the end. -/
def reply (handler : Handler Reply) : Run Reply := do
  match ← handler.run with
  | .ok reply => return reply
  | .error reply => return reply

end Handler

end ReplayFlow.Service
