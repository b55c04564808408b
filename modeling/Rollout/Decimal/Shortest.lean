import Rollout.Decimal.Double
/-!
# Shortest decimal text

The fewest digits that read back as the same double, nearest to it among those, and their layout:
positional for exponents from -5 up to 15, scientific outside. Also the text of a magnitude with
one fixed decimal place.
-/

namespace Rollout.Decimal

open Double

/-- Digits and the power of ten of the last one. -/
structure Digits where
  digits : Nat
  exponent : Int
  deriving DecidableEq, Repr

/-- The interval of magnitudes that round to a double, in quarters of its last place. -/
structure Interval where
  low : Nat
  value : Nat
  high : Nat
  /-- Whether the ends themselves round to the double. -/
  closed : Bool

/-- In units of `2 ^ -1076`. -/
def Interval.of (x : Double) : Interval :=
  let m := x.significand
  let u := Nat.pow 2 x.scale
  let below := if m = Nat.pow 2 52 ∧ 1 < x.exponentField then u else 2 * u
  { low := 4 * m * u - below, value := 4 * m * u, high := 4 * m * u + 2 * u, closed := m % 2 = 0 }

def Interval.contains (i : Interval) (num den : Nat) : Bool :=
  if i.closed then i.low * den ≤ num && num ≤ i.high * den
  else i.low * den < num && num < i.high * den

/-- The multiple of `10 ^ e` nearest to the value that rounds to it, if one of the two
neighbours does. -/
def onGrid (i : Interval) (e : Int) : Option Nat :=
  -- magnitudes are counted in `2 ^ -1076`; a grid point `k` is `k · num / den` of them
  let num := if 0 ≤ e then 4 * unit * Nat.pow 10 e.toNat else 4 * unit
  let den := if 0 ≤ e then 1 else Nat.pow 10 e.natAbs
  let k := i.value * den / num
  let down := i.contains (k * num) den
  let up := i.contains ((k + 1) * num) den
  let nearer := 2 * (i.value * den - k * num)
  if down && up then
    if nearer < num then some k
    else if num < nearer then some (k + 1)
    else if k % 2 = 0 then some k else some (k + 1)
  else if down then some k
  else if up then some (k + 1)
  else none

/-- The power of ten of the leading digit of `num / den`. -/
def leadingExponent (num den : Nat) : Int :=
  if den ≤ num then ((Nat.toDigits 10 (num / den)).length : Int) - 1
  else
    let n := (Nat.toDigits 10 (den / num)).length
    -- `10 ^ (n - 1) ≤ den / num < 10 ^ n`
    if num * Nat.pow 10 (n - 1) = den then -((n : Int) - 1) else -(n : Int)

/-- Tries grids from coarse to fine, `n` of them. -/
def searchGrids (i : Interval) : Nat → Int → Option Digits
  | 0, _ => none
  | n + 1, e =>
    match onGrid i e with
    | some k => if k = 0 then searchGrids i n (e - 1) else some ⟨k, e⟩
    | none => searchGrids i n (e - 1)

/-- Trailing zeros belong to the exponent; `n` bounds how many there may be. -/
def stripZeros : Nat → Digits → Digits
  | 0, d => d
  | n + 1, d =>
    if d.digits % 10 = 0 ∧ d.digits ≠ 0 then
      stripZeros n ⟨d.digits / 10, d.exponent + 1⟩
    else d

/-- The shortest digits of a positive finite double. -/
def shortest (x : Double) : Digits :=
  let i := Interval.of x
  let top := leadingExponent i.value (4 * unit)
  stripZeros 400 ((searchGrids i 19 (top + 1)).getD ⟨0, 0⟩)

private def zeros (n : Nat) : List Char := List.replicate n '0'

/-- Digits laid out with at least one decimal place, or with an exponent. -/
def layout (d : Digits) : List Char :=
  let ds := Nat.toDigits 10 d.digits
  let count : Int := ds.length
  -- the power of ten of the leading digit
  let lead := d.exponent + count - 1
  if -5 ≤ lead ∧ lead < 16 then
    if 0 ≤ d.exponent then ds ++ zeros d.exponent.toNat ++ ['.', '0']
    else if 0 ≤ lead then
      ds.take (lead.toNat + 1) ++ ['.'] ++ ds.drop (lead.toNat + 1)
    else ['0', '.'] ++ zeros (lead.natAbs - 1) ++ ds
  else
    let fraction := match ds with
      | [d] => [d]
      | d :: rest => d :: '.' :: rest
      | [] => []
    let sign := if 0 ≤ lead then '+' else '-'
    fraction ++ ['e', sign] ++ Nat.toDigits 10 lead.natAbs

/-- The text of a finite double. -/
def Double.chars (x : Double) : List Char :=
  let digits := if x.significand = 0 then ['0', '.', '0'] else layout (shortest x)
  if x.isNegative then '-' :: digits else digits

/-- A magnitude with one decimal place; the exact value is rounded, ties to even. -/
def Double.tenths (x : Double) : String :=
  let n := roundDiv (x.magnitude * 10) unit
  s!"{n / 10}.{n % 10}"

end Rollout.Decimal
