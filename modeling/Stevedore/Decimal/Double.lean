/-!
# Double-precision numbers

A finite double as a sign and a magnitude `mantissa * 2 ^ exponent`, with exact rounding of ratios
of natural numbers.

Main definitions:

- `Magnitude.nearest`: the double nearest to a ratio, ties to the even mantissa.
- `Magnitude.mul`, `Magnitude.div`: products and quotients, rounded once.
- `Double.ofDecimal?`: the double read from a decimal significand and exponent.
-/

namespace Stevedore.Decimal

/-- The magnitude `mantissa * 2 ^ exponent` of a finite double: a mantissa below `2 ^ 53`, and the
least exponent `-1074` for those below `2 ^ 52`. -/
structure Magnitude where
  mantissa : Nat
  exponent : Int
deriving DecidableEq, Repr

/-- A finite double. -/
structure Double where
  negative : Bool
  magnitude : Magnitude
deriving DecidableEq, Repr

/-- The quotient rounded to the nearest whole number; a half goes to the even neighbour. -/
def roundDiv (num den : Nat) : Nat :=
  let q := num / den
  let r := num % den
  if den < 2 * r || (2 * r == den && q % 2 == 1) then q + 1 else q

namespace Magnitude

/-- The magnitude of zero, with the least exponent. -/
def zero : Magnitude := ⟨0, -1074⟩

/-- The ratio of natural numbers that a magnitude is. -/
def ratio (x : Magnitude) : Nat × Nat :=
  (x.mantissa <<< x.exponent.toNat, 1 <<< (-x.exponent).toNat)

/-- `num / den` as a multiple of `2 ^ exponent`. -/
def scaled (num den : Nat) (exponent : Int) : Nat × Nat :=
  (num <<< (-exponent).toNat, den <<< exponent.toNat)

/-- The double nearest to `num / den`; `none` when that is beyond the greatest one. -/
def nearest (num den : Nat) : Option Magnitude :=
  if num = 0 then some zero
  else
    let low := max ((Nat.log2 num : Int) - Nat.log2 den - 53) (-1074)
    let (n, d) := scaled num den low
    let exponent := if n / d < 1 <<< 53 then low else low + 1
    let (n, d) := scaled num den exponent
    let mantissa := roundDiv n d
    let x : Magnitude :=
      if mantissa < 1 <<< 53 then ⟨mantissa, exponent⟩
      else ⟨1 <<< 52, exponent + 1⟩
    if x.exponent ≤ 971 then some x else none

/-- The product, rounded. -/
def mul (x y : Magnitude) : Option Magnitude :=
  nearest (x.ratio.1 * y.ratio.1) (x.ratio.2 * y.ratio.2)

/-- The quotient, rounded. -/
def div (x y : Magnitude) : Option Magnitude :=
  nearest (x.ratio.1 * y.ratio.2) (x.ratio.2 * y.ratio.1)

/-- The double nearest to a power of ten. -/
def powerOfTen (k : Nat) : Magnitude := (nearest (Nat.pow 10 k) 1).getD zero

/-- The greatest power of ten that is a double. -/
def greatestPowerOfTen : Magnitude := powerOfTen 308

/-- Multiplies by a power of ten in steps of at most `10 ^ 308`, rounding after each. `none` when
the result is beyond the greatest double. -/
def timesPowerOfTen (x : Magnitude) (exponent : Int) : Option Magnitude :=
  if exponent.natAbs ≤ 308 then
    if 0 ≤ exponent then x.mul (powerOfTen exponent.toNat)
    else x.div (powerOfTen (-exponent).toNat)
  else if x.mantissa = 0 then some x
  else if 0 ≤ exponent then none
  else (x.div greatestPowerOfTen).bind fun y => timesPowerOfTen y (exponent + 308)
termination_by exponent.natAbs
decreasing_by omega

end Magnitude

namespace Double

/-- The double read from `significand * 10 ^ exponent`: the significand is rounded first, then each
scaling. `none` when it is beyond the greatest double. -/
def ofDecimal? (negative : Bool) (significand : Nat) (exponent : Int) : Option Double :=
  (Magnitude.nearest significand 1).bind fun x =>
    (x.timesPowerOfTen exponent).map (⟨negative, ·⟩)

end Double

end Stevedore.Decimal
