/-!
Sets of code points as sorted ranges, and maps on code points as shifted ranges.
-/

namespace ReplayFlow.Text

/-- Whether a code point lies in one of the closed ranges, which are sorted. -/
def inRanges (n : Nat) : List (Nat × Nat) → Bool
  | [] => false
  | (first, last) :: rest => first ≤ n && (n ≤ last || inRanges n rest)

/-- Ranges that hold every point or every second point between their ends. -/
def inSteps (n : Nat) : List (Nat × Nat × Nat) → Bool
  | [] => false
  | (first, last, step) :: rest =>
    first ≤ n && (if n ≤ last then (n - first) % step = 0 else inSteps n rest)

/-- The shift of a code point: each range moves by its last component. -/
def shiftOf (n : Nat) : List (Nat × Nat × Nat × Int) → Int
  | [] => 0
  | (first, last, step, shift) :: rest =>
    if n < first then 0
    else if n ≤ last then if (n - first) % step = 0 then shift else 0
    else shiftOf n rest

def shifted (table : List (Nat × Nat × Nat × Int)) (c : Char) : Char :=
  Char.ofNat (c.toNat + shiftOf c.toNat table).toNat

end ReplayFlow.Text
