/-!
The size of a label in ASCII. Its ASCII characters come first; then, in the order of
code points, each other character is written by its distance from the one before,
in digits whose thresholds adapt to the distances so far.
-/

namespace ReplayFlow.Service.Host

/-- How far an encoding has come: the distance to write next, the bias of the thresholds, how
many characters are written, how many of them are in ASCII, and the size so far. -/
structure Encoding where
  distance : Nat
  bias : Nat
  written : Nat
  plain : Nat
  size : Nat

namespace Encoding

def threshold (place bias : Nat) : Nat :=
  if place ≤ bias then 1 else if bias + 26 ≤ place then 26 else place - bias

/-- The digits of a number from a place on; each place takes at least one off. -/
def digitsWithin (bias : Nat) : Nat → Nat → Nat → Nat
  | 0, _, _ => 1
  | places + 1, place, n =>
    let t := threshold place bias
    if n < t then 1 else 1 + digitsWithin bias places (place + 36) ((n - t) / (36 - t))

def digits (bias n : Nat) : Nat := digitsWithin bias n 36 n

/-- Adapts the bias to a scaled distance; each step divides it. -/
def biasWithin : Nat → Nat → Nat → Nat
  | 0, bias, _ => bias
  | steps + 1, bias, n =>
    if n ≤ 455 then bias + 36 * n / (n + 38) else biasWithin steps (bias + 36) (n / 35)

/-- The bias after a distance, which is damped the more if it is the first. -/
def adapted (distance written : Nat) (first : Bool) : Nat :=
  let n := if first then distance / 700 else distance / 2
  let n := n + n / written
  biasWithin (n + 1) 0 n

/-- Goes past a character while a code point is looked for. -/
def visit (point : Nat) (e : Encoding) (c : Char) : Encoding :=
  if c.toNat < point then { e with distance := e.distance + 1 }
  else if c.toNat = point then
    { e with
      distance := 0
      bias := adapted e.distance (e.written + 1) (e.written = e.plain)
      written := e.written + 1
      size := e.size + digits e.bias e.distance }
  else e

/-- Writes a code point wherever it stands, from another code point on. -/
def writePoint (text : List Char) (state : Encoding × Nat) (point : Nat) : Encoding × Nat :=
  let (e, reached) := state
  let e := { e with distance := e.distance + (point - reached) * (e.written + 1) }
  let e := text.foldl (visit point) e
  ({ e with distance := e.distance + 1 }, point + 1)

end Encoding

/-- The size of a label: one in ASCII stays as it is, and any other starts with a mark of four
characters. -/
def labelSize (label : List Char) : Nat :=
  let plain := (label.filter fun c => c.toNat < 128).length
  if plain = label.length then plain
  else
    let points := ((label.map Char.toNat).filter (128 ≤ ·)).mergeSort.eraseDups
    let start : Encoding := ⟨0, 72, plain, plain, if plain = 0 then 4 else plain + 5⟩
    (points.foldl (Encoding.writePoint label) (start, 128)).1.size

end ReplayFlow.Service.Host
