/-
Module: BundleLens.Number.Double
Layer: Number
Purpose: The values of numeric literals. A literal has the binary floating-point value of 53 bits
  nearest to the number that is written. Values are kept as an exact integer times a power of two, so
  that questions such as "is it an integer" are questions about natural numbers.
Main exports: Double, Double.ofRatio, Double.ofNat, Double.toNat?
-/

namespace BundleLens

/-- A nonnegative floating-point value: `mantissa * 2 ^ exponent`, or larger than all of these. -/
inductive Double where
  | finite (mantissa : Nat) (exponent : Int)
  | infinity
deriving DecidableEq, Repr, Inhabited

/-- The quotient of two naturals rounded to the nearest natural; a half goes to the even one. -/
def roundDiv (num den : Nat) : Nat :=
  let q := num / den
  let r := num % den
  if 2 * r < den then q
  else if den < 2 * r then q + 1
  else if q % 2 = 0 then q else q + 1

namespace Double

/-- The smallest exponent of a finite value. -/
def minExponent : Int := -1074

/-- The mantissa at exponent `e` of the quotient `num / den`. -/
def mantissaAt (num den : Nat) (e : Int) : Nat :=
  if 0 ≤ e then roundDiv num (den * Nat.pow 2 e.toNat) else roundDiv (num * Nat.pow 2 (-e).toNat) den

/-- The exponent at which the quotient has a mantissa of 53 bits before rounding, or the smallest
    one for a tiny quotient. -/
def exponentOf (num den : Nat) : Int :=
  let guess : Int := (num.log2 : Int) - den.log2 - 53
  let e := if mantissaAt num den guess < Nat.pow 2 53 then guess else guess + 1
  max e minExponent

/-- The value nearest to `num / den`. -/
def ofRatio (num den : Nat) : Double :=
  if num = 0 ∨ den = 0 then .finite 0 0
  else
    let e := exponentOf num den
    let m := mantissaAt num den e
    let (m, e) := if m = Nat.pow 2 53 then (Nat.pow 2 52, e + 1) else (m, e)
    if 971 < e then .infinity else .finite m e

/-- The value nearest to a natural number. -/
def ofNat (n : Nat) : Double := ofRatio n 1

/-- The value nearest to `digits * 10 ^ exponent`. An exponent beyond any finite value is not
    computed with. -/
def ofDecimal (digits : Nat) (exponent : Int) : Double :=
  if digits = 0 then .finite 0 0
  else if 400 < exponent then .infinity
  else if exponent < 0 then
    if digits.log2 + 1200 < (-exponent).toNat then .finite 0 0
    else ofRatio digits (Nat.pow 10 (-exponent).toNat)
  else ofNat (digits * Nat.pow 10 exponent.toNat)

/-- The natural number that a value is, if it is one. -/
def toNat? : Double → Option Nat
  | .infinity => none
  | .finite m e =>
    if 0 ≤ e then some (m * Nat.pow 2 e.toNat)
    else if m % Nat.pow 2 (-e).toNat = 0 then some (m / Nat.pow 2 (-e).toNat) else none

end Double
end BundleLens
