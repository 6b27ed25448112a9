import ReplayFlow.Json.Display
import ReplayFlow.Text.Case

/-!
Recorded events and their grouping: inputs into one control that follow each
other directly become one event with the last value, and every other event
stands alone.
-/

namespace ReplayFlow

/-- What a user did to a control. -/
structure Event where
  action : String
  controlId : Json
  controlName : Json
  controlType : Json
  value : Json

namespace Event

/-- The event of a record; a record without action or control is none. -/
def read? (record : Json) : Option Event :=
  match record with
  | .obj fields =>
    let action := Entries.field fields "Action"
    let control := Entries.field fields "ControlId"
    if action.isGiven && control.isGiven then
      some ⟨lowercase action.display, control, Entries.field fields "ControlName",
        Entries.field fields "ControlType", Entries.field fields "Value"⟩
    else none
  | _ => none

/-- The record of an event. -/
def toJson (e : Event) : Json :=
  .obj [("Action", .str e.action), ("ControlId", e.controlId), ("ControlName", e.controlName),
    ("ControlType", e.controlType), ("Value", e.value)]

def isInput (e : Event) : Bool := e.action = "input" || e.action = "set"

/-- Whether an event continues the input of the one before it. -/
def continues (before e : Event) : Bool :=
  before.isInput && e.isInput && Json.same before.controlId e.controlId

/-- Groups the events after an open one. -/
def groupFrom (current : Event) : List Event → List Event
  | [] => [current]
  | e :: rest =>
    if continues current e then groupFrom { current with value := e.value } rest
    else current :: groupFrom e rest

def group : List Event → List Event
  | [] => []
  | e :: rest => groupFrom e rest

/-- The groups of a list of records. -/
def groupsOf (records : List Json) : List Event := group (records.filterMap read?)

end Event

end ReplayFlow
