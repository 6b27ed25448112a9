import ReplayFlow.Json.Finite
import ReplayFlow.Service.Endpoint
import ReplayFlow.Service.Target
import ReplayFlow.Text.Percent

/-!
The way of a request to its endpoint. The path of its target is decoded and taken apart
at slashes. A path that says nothing until the slashes at its end are dropped sends
the request on to what is left.
-/

namespace ReplayFlow.Service

namespace Endpoint

def ofExactPath? (path : List Char) : Option Endpoint :=
  ofPieces? ((Text.pieces '/' path).map String.ofList)

/-- The endpoint of a decoded path. A newline at its end is not looked at, unless it belongs
to a transaction code. -/
def ofPath? (path : List Char) : Option Endpoint :=
  ofExactPath? path <|> ofExactPath? (Text.withoutFinalNewline path)

/-- Where a path sends a request on to. What is left without the slashes is encoded, freed of
`.` and `..`, and decoded as it was: once as it is sent and once as it is received. -/
def sentOnTo? (path : List Char) : Option (List Char) :=
  let shorter := Text.dropEndWhile (· = '/') path
  if (ofPath? path).isNone && shorter ≠ path && (ofPath? shorter).isSome then
    some (Text.percentDecode (Target.withoutDots shorter))
  else none

/-- The endpoint of a decoded path from which a request may be sent on a number of times. -/
def reach : Nat → List Char → Except Fault (Option Endpoint)
  | 0, path =>
    match sentOnTo? path with
    | some _ => .error .sentOnTooOften
    | none => .ok (ofPath? path)
  | times + 1, path =>
    match sentOnTo? path with
    | some next => reach times next
    | none => .ok (ofPath? path)

/-- How often a request is sent on. -/
def sendingLimit : Nat := 20

/-- The endpoint of a target. Its path is decoded once as it is sent and once as it is
received. -/
def ofTarget (target : Target) : Except Fault (Option Endpoint) := do
  let path ← target.writtenPath
  reach sendingLimit (Text.percentDecode (Text.percentDecode path))

end Endpoint

/-- Where a request goes, if it can be sent at all. -/
def endpointOf (r : Request) : Except Fault (Option Endpoint) :=
  match Target.ofString? r.target with
  | none => .error .badTarget
  | some target =>
    if r.body.all Json.isFinite then Endpoint.ofTarget target else .error .infiniteNumber

end ReplayFlow.Service
