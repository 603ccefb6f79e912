/-
Module: BundleLens.Number.Shortest
Layer: Number
Purpose: The text of a numeric value: the fewest decimal digits that read back as the value, written
  without an exponent.
Imports: BundleLens.Number.Double
Main exports: Double.shortest, Double.render
-/
import BundleLens.Number.Double

namespace BundleLens.Double

/-- A value's neighbourhood on a common denominator: every number from `low` to `high`, divided by
    `den`, reads back as `value / den`. The ends themselves do if `closed` holds. -/
structure Interval where
  low : Nat
  value : Nat
  high : Nat
  den : Nat
  closed : Bool

/-- The numbers that round to `m * 2 ^ e`. Below a power of two the grid is twice as fine. -/
def interval (m : Nat) (e : Int) : Interval :=
  let below := if m = Nat.pow 2 52 ∧ minExponent < e then 1 else 2
  let scale := fun n => if 0 ≤ e then n * Nat.pow 2 e.toNat else n
  let den := if 0 ≤ e then 4 else 4 * Nat.pow 2 (-e).toNat
  ⟨scale (4 * m - below), scale (4 * m), scale (4 * m + 2), den, m % 2 = 0⟩

/-- Whether `num / den` lies in the interval. -/
def Interval.holds (i : Interval) (num den : Nat) : Bool :=
  let x := num * i.den
  if i.closed then i.low * den ≤ x && x ≤ i.high * den else i.low * den < x && x < i.high * den

/-- The number of digits in front of the decimal point: the least `p` at or above the candidate with
    the value below `10 ^ p`. -/
def magnitude (i : Interval) : Nat → Int → Int
  | 0, p => p
  | fuel + 1, p =>
    let small :=
      if 0 ≤ p then i.value < i.den * Nat.pow 10 p.toNat
      else i.value * Nat.pow 10 (-p).toNat < i.den
    if small then p else magnitude i fuel (p + 1)

/-- The best decimal with `k` digits of which the leading one stands at magnitude `p`, as digits and
    a power of ten, if one reads back. -/
def candidate (i : Interval) (p : Int) (k : Nat) : Option (Nat × Int) :=
  let unit : Int := p - k
  let num := if 0 ≤ unit then Nat.pow 10 unit.toNat else 1
  let den := if 0 ≤ unit then 1 else Nat.pow 10 (-unit).toNat
  let floor := i.value * den / (i.den * num)
  let inside := fun d => i.holds (d * num) den
  let distDown := i.value * den - floor * num * i.den
  let distUp := (floor + 1) * num * i.den - i.value * den
  match inside floor, inside (floor + 1) with
  | true, true => some (if distUp < distDown then floor + 1 else floor, unit)
  | true, false => some (floor, unit)
  | false, true => some (floor + 1, unit)
  | false, false => none

/-- Digits without trailing zeros, which go into the power of ten. -/
def trimZeros : Nat → Nat → Int → Nat × Int
  | 0, d, e => (d, e)
  | fuel + 1, d, e => if d ≠ 0 ∧ d % 10 = 0 then trimZeros fuel (d / 10) (e + 1) else (d, e)

/-- The fewest digits that read back as `m * 2 ^ e`, with their power of ten. Seventeen digits always
    do. -/
def shortest (m : Nat) (e : Int) : Nat × Int :=
  let i := interval m e
  let start : Int := ((i.value.log2 : Int) - i.den.log2) * 3 / 10 - 2
  let p := magnitude i 400 start
  match (List.range 17).findSome? fun k => candidate i p (k + 1) with
  | some (d, unit) => trimZeros 20 d unit
  | none => (i.value / i.den, 0)

/-- Decimal digits with a point placed by the power of ten. -/
def positional (digits : Nat) (exponent : Int) : String :=
  let text := (Nat.toDigits 10 digits)
  if 0 ≤ exponent then String.ofList (text ++ List.replicate exponent.toNat '0')
  else
    let places := (-exponent).toNat
    let padded := List.replicate (places + 1 - text.length) '0' ++ text
    String.ofList (padded.take (padded.length - places)) ++ "." ++
      String.ofList (padded.drop (padded.length - places))

/-- The text of a value: shortest digits, never an exponent. -/
def render : Double → String
  | .infinity => "inf"
  | .finite m e =>
    if m = 0 then "0" else
      let (digits, exponent) := shortest m e
      positional digits exponent

end BundleLens.Double
