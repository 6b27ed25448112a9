import ReplayFlow.Json.Parser
import ReplayFlow.Text.Utf8

/-!
Why an input document is refused. Every cause names the transaction it belongs to.
-/

namespace ReplayFlow

inductive Malformed where
  | eventField (tcode : String) (position : Nat) (key kind : String)
  | recordingNotObject (tcode kind : String)
  | eventsNotArray (tcode : String)
  | stepsNotObject (tcode : String)
  | stepNotObject (tcode step : String)
  | headersNotObjects (tcode : String)
  | contextsNotObjects (tcode : String)
  | reservedContext (tcode context : String)
  | notUtf8 (tcode : String) (failure : Utf8.Failure)
  | notJson (tcode : String) (expected : Json.Expected) (position : Nat) (excerpt : String)
  | catalogNotJson (tcode file place : String)
  | catalogNotObject (tcode file : String)
  deriving DecidableEq

namespace Malformed

def tcode : Malformed → String
  | eventField tcode _ _ _ => tcode
  | recordingNotObject tcode _ => tcode
  | eventsNotArray tcode => tcode
  | stepsNotObject tcode => tcode
  | stepNotObject tcode _ => tcode
  | headersNotObjects tcode => tcode
  | contextsNotObjects tcode => tcode
  | reservedContext tcode _ => tcode
  | notUtf8 tcode _ => tcode
  | notJson tcode _ _ _ => tcode
  | catalogNotJson tcode _ _ => tcode
  | catalogNotObject tcode _ => tcode

def message : Malformed → String
  | eventField tcode position key kind =>
    "Event " ++ toString position ++ " of " ++ tcode ++ ": " ++ key ++
      " must be a string, got " ++ kind
  | recordingNotObject tcode kind =>
    "Recording " ++ tcode ++ " must be a JSON object, got " ++ kind
  | eventsNotArray tcode => "Steps of " ++ tcode ++ " must be an array"
  | stepsNotObject tcode => "steps of " ++ tcode ++ " must be an object keyed by step id"
  | stepNotObject tcode step => "Step " ++ step ++ " of " ++ tcode ++ " must be an object"
  | headersNotObjects tcode => "$meta and targetContext of " ++ tcode ++ " must be objects"
  | contextsNotObjects tcode =>
    "steps of " ++ tcode ++ " must map context names to step objects"
  | reservedContext tcode context => "Context name " ++ context ++ " of " ++ tcode ++ " is reserved"
  | notUtf8 tcode failure => "Recording " ++ tcode ++ " is not UTF-8: " ++ failure.message
  | notJson tcode expected position excerpt =>
    "Recording " ++ tcode ++ " is not valid JSON: " ++ expected.message ++ " at position " ++
      toString position ++ " near '" ++ excerpt ++ "'"
  | catalogNotJson _ file place => "Catalog " ++ file ++ " is not valid JSON: " ++ place
  | catalogNotObject _ file => "Catalog " ++ file ++ " must be a JSON object"

end Malformed

end ReplayFlow
