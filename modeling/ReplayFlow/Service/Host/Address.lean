import ReplayFlow.Text.Basic
import ReplayFlow.Text.Hex
import ReplayFlow.Text.Integer

/-!
Addresses of hosts: four numbers between full stops, or eight groups of digits
between colons.
-/

namespace ReplayFlow.Service.Host

/-- Whether a text has the runs of digits still to come, with one character of any kind
between two of them. -/
def hasRuns : Nat → Bool → List Char → Bool
  | more, inRun, [] => more = 0 && inRun
  | more, inRun, c :: text =>
    (c.isDigit && hasRuns more true text) || (inRun && 0 < more && hasRuns (more - 1) false text)

/-- A number up to 255, written without zeros in front. -/
def isOctet (text : List Char) : Bool :=
  text.length ≤ 3 && text.all Char.isDigit && (text.head? != some '0' || text = ['0']) &&
    match Text.readNat? text with
    | some n => n ≤ 255
    | none => false

def isFourNumbers (text : List Char) : Bool :=
  let numbers := Text.pieces '.' text
  numbers.length = 4 && numbers.all isOctet

def isGroup (text : List Char) : Bool :=
  text ≠ [] && text.length ≤ 4 && text.all fun c => (Text.hexValue? c).isSome

/-- How many groups are written before or after two colons; nothing may be. -/
def groupCount? (groups : List (List Char)) : Option Nat :=
  if groups = [[]] then some 0
  else if groups.all isGroup then some groups.length
  else none

/-- Eight groups; two colons stand once for as many as are missing, at least one. -/
def isEightGroups : List (List Char) → Bool
  | [] => false
  | first :: rest =>
    let before := rest.takeWhile (· ≠ [])
    if before.length + 1 < rest.length then
      match groupCount? (first :: before), groupCount? (rest.drop (before.length + 1)) with
      | some high, some low => high + low < 8
      | _, _ => false
    else rest.length = 7 && (first :: rest).all isGroup

/-- The pieces of an address between colons. Four numbers at its end count for two groups. -/
def groups (address : List Char) : List (List Char) :=
  let pieces := Text.pieces ':' address
  match pieces.getLast? with
  | some last => if isFourNumbers last then pieces.dropLast ++ [['0'], ['0']] else pieces
  | none => []

/-- An address of eight groups, which a zone may follow after a percent sign. -/
def isGroupAddress (text : List Char) : Bool :=
  let address := text.takeWhile (· != '%')
  isEightGroups (groups address) &&
    match text.drop address.length with
    | [] => true
    | _ :: zone => zone ≠ [] && '%' ∉ zone

end ReplayFlow.Service.Host
