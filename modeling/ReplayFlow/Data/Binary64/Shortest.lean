import ReplayFlow.Data.Binary64

/-!
The shortest decimal that reads back as a given number: of one digit, then of
two, up to seventeen, the first decimal inside the interval of reals that round
to the number, the nearer of two.
-/

namespace ReplayFlow.Binary64

/-- The positive decimal `digits * 10 ^ exponent`. -/
structure Decimal where
  digits : Nat
  exponent : Int
  deriving DecidableEq

/-- The reals that round to a number, in units of `num / den`. -/
structure Interval where
  low : Nat
  value : Nat
  high : Nat
  closed : Bool
  num : Nat
  den : Nat

/-- The ends lie half way to the neighbours; below a power of two the gap is halved. -/
def Interval.around (significand : Nat) (exponent : Int) : Interval where
  low := 4 * significand - if significand = twoTo 52 ∧ -1074 < exponent then 1 else 2
  value := 4 * significand
  high := 4 * significand + 2
  closed := significand % 2 = 0
  num := twoTo (exponent - 2).toNat
  den := twoTo (2 - exponent).toNat

/-- The exponent of the leading digit of `num / den`. -/
def leadingExponent (num den : Nat) : Int :=
  let guess : Int := (Nat.toDigits 10 num).length - (Nat.toDigits 10 den).length
  if den * tenTo guess.toNat ≤ num * tenTo (-guess).toNat then guess else guess - 1

def Interval.contains (i : Interval) (d : Decimal) : Bool :=
  let point := d.digits * tenTo d.exponent.toNat * i.den
  let unit := tenTo (-d.exponent).toNat * i.num
  if i.closed then i.low * unit ≤ point && point ≤ i.high * unit
  else i.low * unit < point && point < i.high * unit

/-- The decimal of the given length inside the interval, if there is one. -/
def Interval.pick? (i : Interval) (length : Nat) : Option Decimal :=
  let exponent := leadingExponent (i.value * i.num) i.den - length + 1
  let num := i.value * i.num * tenTo (-exponent).toNat
  let den := i.den * tenTo exponent.toNat
  let below : Decimal := ⟨num / den, exponent⟩
  let above : Decimal := ⟨num / den + 1, exponent⟩
  match i.contains below, i.contains above with
  | true, true => some ⟨roundQuotient num den, exponent⟩
  | true, false => some below
  | false, true => some above
  | false, false => none

/-- The shortest decimal of a positive number; seventeen digits always suffice. -/
def shortest (significand : Nat) (exponent : Int) : Decimal :=
  let interval := Interval.around significand exponent
  ((List.range 17).findSome? fun n => interval.pick? (n + 1)).getD ⟨0, 0⟩

/-- Which exponents of the leading digit are written without an exponent part. -/
structure PlainRange where
  least : Int
  bound : Int

/-- Plain from `1e-4` up to, not including, `1e16`. -/
def plainRange : PlainRange := ⟨-4, 16⟩

def exponentText (e : Int) : List Char :=
  let digits := Nat.toDigits 10 e.natAbs
  'e' :: (if e < 0 then '-' else '+') :: (if digits.length < 2 then '0' :: digits else digits)

/-- Digits with a point, a fraction of at least one digit, or an exponent part. -/
def Decimal.text (plain : PlainRange) (d : Decimal) : List Char :=
  let all := Nat.toDigits 10 d.digits
  let leading := d.exponent + all.length - 1
  let digits := (all.reverse.dropWhile (· == '0')).reverse
  if leading < plain.least ∨ plain.bound ≤ leading then
    match digits with
    | [] => []
    | [c] => c :: exponentText leading
    | c :: rest => c :: '.' :: rest ++ exponentText leading
  else if leading < 0 then
    '0' :: '.' :: List.replicate (-leading - 1).toNat '0' ++ digits
  else
    let whole := leading.toNat + 1
    let fraction := digits.drop whole
    digits.take whole ++ List.replicate (whole - digits.length) '0' ++
      '.' :: (if fraction.isEmpty then ['0'] else fraction)

/-- The text of a number; what is not finite is named by `nanText` and `infinityText`. -/
def text (nanText infinityText : List Char) (x : Binary64) : List Char :=
  match x.view with
  | .nan => nanText
  | .infinite negative => if negative then '-' :: infinityText else infinityText
  | .finite negative significand exponent =>
    let digits :=
      if significand = 0 then ['0', '.', '0']
      else (shortest significand exponent).text plainRange
    if negative then '-' :: digits else digits

end ReplayFlow.Binary64
