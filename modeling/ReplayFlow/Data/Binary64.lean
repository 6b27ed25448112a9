/-!
Binary floating point numbers of 64 bits, kept as their bits. A finite number
is read as `significand * 2 ^ exponent`, and a decimal is rounded to the nearest
one, a tie to the even significand, in exact natural arithmetic.
-/

namespace ReplayFlow

/-- A 64 bit floating point number. -/
structure Binary64 where
  bits : UInt64
  deriving DecidableEq

namespace Binary64

def twoTo (k : Nat) : Nat := Nat.pow 2 k

def tenTo (k : Nat) : Nat := Nat.pow 10 k

/-- What the bits of a number stand for. -/
inductive View where
  | nan
  | infinite (negative : Bool)
  | finite (negative : Bool) (significand : Nat) (exponent : Int)
  deriving DecidableEq

/-- The stored fraction has 52 bits and the least exponent is -1074. -/
def view (x : Binary64) : View :=
  let n := x.bits.toNat
  let negative : Bool := twoTo 63 ≤ n
  let biased : Nat := n / twoTo 52 % twoTo 11
  let fraction := n % twoTo 52
  if biased = 2047 then
    if fraction = 0 then .infinite negative else .nan
  else if biased = 0 then .finite negative fraction (-1074)
  else .finite negative (twoTo 52 + fraction) ((biased : Int) - 1075)

def ofParts (negative : Bool) (magnitude : Nat) : Binary64 :=
  ⟨UInt64.ofNat (magnitude + if negative then twoTo 63 else 0)⟩

def infinity (negative : Bool) : Binary64 := ofParts negative (2047 * twoTo 52)

def nan : Binary64 := ofParts false (2047 * twoTo 52 + twoTo 51)

def isFinite (x : Binary64) : Bool :=
  match x.view with
  | .nan => false
  | .infinite _ => false
  | _ => true

def isZero (x : Binary64) : Bool :=
  match x.view with
  | .finite _ 0 _ => true
  | _ => false

/-- The quotient rounded to the nearest natural number, a tie to the even one. -/
def roundQuotient (num den : Nat) : Nat :=
  let q := num / den
  let twice := 2 * (num % den)
  if twice < den then q
  else if den < twice then q + 1
  else if q % 2 = 0 then q else q + 1

/-- The number nearest to `num / den`, both positive. -/
def ofQuotient (negative : Bool) (num den : Nat) : Binary64 :=
  let guess : Int := (Nat.log2 num : Int) - Nat.log2 den
  let top := if den * twoTo guess.toNat ≤ num * twoTo (-guess).toNat then guess else guess - 1
  let exponent := max (top - 52) (-1074)
  let significand :=
    roundQuotient (num * twoTo (-exponent).toNat) (den * twoTo exponent.toNat)
  let magnitude :=
    if significand < twoTo 52 then significand
    else (exponent + 1075).toNat * twoTo 52 + (significand - twoTo 52)
  ofParts negative (min magnitude (2047 * twoTo 52))

/-- The number nearest to `digits * 10 ^ exponent`. Decimals above `10 ^ 310`
are infinite and those below `10 ^ -330` are zero, so no larger power is formed. -/
def ofDecimal (negative : Bool) (digits : Nat) (exponent : Int) : Binary64 :=
  let size : Int := (Nat.toDigits 10 digits).length + exponent
  if digits = 0 ∨ size < -330 then ofParts negative 0
  else if 310 < size then infinity negative
  else ofQuotient negative (digits * tenTo exponent.toNat) (tenTo (-exponent).toNat)

/-- Compares a finite number with an integer exactly. -/
def equalsInt (x : Binary64) (n : Int) : Bool :=
  match x.view with
  | .finite negative significand exponent =>
    let scaled : Int := (significand * twoTo exponent.toNat : Nat)
    (if negative then -scaled else scaled) = n * (twoTo (-exponent).toNat : Nat)
  | _ => false

/-- Equality of the numbers: not-a-number differs from itself and the zeros agree. -/
def sameNumber (x y : Binary64) : Bool :=
  match x.view, y.view with
  | .nan, _ => false
  | _, .nan => false
  | _, _ => x = y || (x.isZero && y.isZero)

end Binary64

end ReplayFlow
