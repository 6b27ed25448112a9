import ReplayFlow.Data.OrderedMap
import ReplayFlow.Notice
import ReplayFlow.Text.Basic
import ReplayFlow.Text.Case
import ReplayFlow.Text.Integer
import ReplayFlow.Text.Quoted

/-!
Environments: variables with their values, and what a variable says when it
stands for a switch, an integer or a list.
-/

namespace ReplayFlow

/-- The variables that are set. -/
abbrev Environment := OrderedMap String

namespace Environment

/-- The value of a variable, or a default. -/
def value (environment : Environment) (name default : String) : String :=
  (environment.get? name).getD default

/-- A switch is on when its variable says so in one of three words. -/
def isOn (environment : Environment) (name : String) : Bool :=
  lowercase (String.ofList (Text.strip (environment.value name "").toList)) ∈
    ["1", "true", "yes"]

/-- An integer variable; one that is blank is not set, and one that is no integer is
reported. -/
def integer (environment : Environment) (name : String) (default : Nat) : Int × List Notice :=
  match environment.get? name with
  | none => (default, [])
  | some text =>
    if Text.strip text.toList = [] then (default, [])
    else
      match Text.readInt? text.toList with
      | some n => (n, [])
      | none => (default, [.notInteger name (String.ofList (Text.quoted text.toList)) default])

/-- The items of a list variable: between commas, without blanks around, none of them
empty. -/
def items (environment : Environment) (name : String) (default : List String) : List String :=
  match environment.get? name with
  | none => default
  | some text =>
    (((Text.pieces ',' text.toList).map Text.strip).filter (· ≠ [])).map String.ofList

end Environment

end ReplayFlow
