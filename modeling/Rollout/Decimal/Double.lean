/-!
# Doubles

Binary floating point of 64 bits as its bit pattern, with the exact value it stands for and the
nearest double to a quotient of naturals. All arithmetic is on naturals, so every result is exact
until the one rounding step at its end, which sends ties to the even neighbour.
-/

namespace Rollout.Decimal

/-- A binary64 number by its bits: sign, eleven bits of exponent, fifty-two of fraction. -/
structure Double where
  bits : UInt64
  deriving DecidableEq, Repr, Inhabited

namespace Double

def ofFields (negative : Bool) (exponent fraction : Nat) : Double :=
  ⟨UInt64.ofNat ((if negative then Nat.pow 2 63 else 0) + exponent * Nat.pow 2 52 + fraction)⟩

def zero : Double := ofFields false 0 0

def infinity (negative : Bool) : Double := ofFields negative 2047 0

def isNegative (x : Double) : Bool := Nat.pow 2 63 ≤ x.bits.toNat

def exponentField (x : Double) : Nat := x.bits.toNat / Nat.pow 2 52 % Nat.pow 2 11

def fractionField (x : Double) : Nat := x.bits.toNat % Nat.pow 2 52

def isFinite (x : Double) : Bool := x.exponentField < 2047

def neg (x : Double) : Double :=
  ofFields (!x.isNegative) x.exponentField x.fractionField

/-- The integer significand of a finite double. -/
def significand (x : Double) : Nat :=
  if x.exponentField = 0 then x.fractionField else Nat.pow 2 52 + x.fractionField

/-- The power of two that scales the significand, raised by 1074. -/
def scale (x : Double) : Nat :=
  x.exponentField - 1

/-- Numerator of the magnitude over `2 ^ 1074`. -/
def magnitude (x : Double) : Nat :=
  x.significand * Nat.pow 2 x.scale

/-- The denominator under every magnitude. -/
def unit : Nat := Nat.pow 2 1074

/-- The natural nearest to `num / den`, ties to the even one. -/
def roundDiv (num den : Nat) : Nat :=
  let q := num / den
  let r := num % den
  if 2 * r < den then q
  else if den < 2 * r then q + 1
  else if q % 2 = 0 then q else q + 1

/-- The place of the last bit of the double nearest to `num / den`: counted in units of
`2 ^ -1074`, a double below `2 ^ (s + 53)` is a multiple of `2 ^ s`. -/
def place (num den : Nat) : Nat := (num * unit / den).log2 - 52

/-- The multiple of its last place that is nearest to `num / den`. -/
def multiple (num den : Nat) : Nat := roundDiv (num * unit) (den * Nat.pow 2 (place num den))

/-- The double of a multiple of a place; infinity when that is out of range. -/
def packed (negative : Bool) (m s : Nat) : Double :=
  if m < Nat.pow 2 52 then ofFields negative 0 m
  else if 2046 ≤ s then infinity negative
  else ofFields negative (s + 1) (m - Nat.pow 2 52)

/-- The double nearest to `num / den`, ties to the even significand; infinity when the magnitude
is out of range. -/
def ofRatio (negative : Bool) (num den : Nat) : Double :=
  let m := multiple num den
  let s := place num den
  -- rounding up may reach the next place
  if m = Nat.pow 2 53 then packed negative (Nat.pow 2 52) (s + 1) else packed negative m s

def ofNat (n : Nat) : Double := ofRatio false n 1

/-- The double nearest to a power of ten. -/
def tenPow (n : Nat) : Double := ofNat (Nat.pow 10 n)

/-- The double nearest to the product of two magnitudes. -/
def mulMagnitude (x y : Double) : Double :=
  ofRatio false (x.magnitude * y.magnitude) (unit * unit)

/-- The double nearest to the quotient of two magnitudes. -/
def divMagnitude (x y : Double) : Double :=
  ofRatio false x.magnitude y.magnitude

/-- The double nearest to the sum of two magnitudes. -/
def addMagnitude (x y : Double) : Double :=
  ofRatio false (x.magnitude + y.magnitude) unit

/-- The double for `digits · 10 ^ exponent` as it is built from a digit string: the digits are
rounded to a double first and then scaled by one power of ten, in steps of `10 ^ 308` downwards.
`none` when the magnitude is out of range. -/
def ofScaled (digits : Nat) (exponent : Int) : Option Double :=
  let start := ofNat digits
  if 0 ≤ exponent then
    if start = zero then some zero
    else if 308 < exponent then none
    else
      let x := mulMagnitude start (tenPow exponent.toNat)
      if x.isFinite then some x else none
  else some (lowered exponent.natAbs start)
where
  /-- Divides by ten, `steps` times, at most 308 times at once. -/
  lowered (steps : Nat) (x : Double) : Double :=
    if steps ≤ 308 then divMagnitude x (tenPow steps)
    else if x = zero then zero
    else lowered (steps - 308) (divMagnitude x (tenPow 308))
  termination_by steps

end Double

end Rollout.Decimal
