import Stevedore.Decimal.Digits
import Stevedore.Decimal.Double
/-!
# The shortest decimal of a double

The fewest digits that read back as a double, the nearest to it among those, and their text.

Main definitions:

- `Magnitude.shortest`: digits and power of ten of the shortest decimal.
- `Double.text`: positional from `0.00001` up to sixteen digits before the point, otherwise
  scientific with a signed exponent.
-/

namespace Stevedore.Decimal

/-- A decimal `digits * 10 ^ power`. -/
structure Scaled where
  digits : Nat
  power : Int
deriving DecidableEq, Repr

namespace Magnitude

/-- Compares the decimal `digits * 10 ^ power` with `quarters` quarters of the last place of a
magnitude: the exact integers that a comparison of the two compares. -/
def against (x : Magnitude) (d : Scaled) (quarters : Nat) : Nat × Nat :=
  let q := x.exponent - 2
  ((d.digits * Nat.pow 10 d.power.toNat) <<< (-q).toNat,
    (quarters * Nat.pow 10 (-d.power).toNat) <<< q.toNat)

/-- The decimal reads back as the magnitude: it lies between the midpoints to the neighbouring
doubles, the midpoints included when the mantissa is even. -/
def readsBack (x : Magnitude) (d : Scaled) : Bool :=
  let low := if x.mantissa = 1 <<< 52 ∧ x.exponent ≠ -1074 then 4 * x.mantissa - 1
    else 4 * x.mantissa - 2
  let high := 4 * x.mantissa + 2
  let (a, l) := x.against d low
  let (b, h) := x.against d high
  if x.mantissa % 2 = 0 then l ≤ a && b ≤ h else l < a && b < h

/-- The distance between a decimal and a magnitude, up to a factor common to all decimals of one
power. -/
def distance (x : Magnitude) (d : Scaled) : Nat :=
  let (a, v) := x.against d (4 * x.mantissa)
  (a - v) + (v - a)

/-- The power of the leading decimal digit of a magnitude other than zero. -/
def leadingPower (x : Magnitude) : Int :=
  let (n, d) := x.ratio
  if d ≤ n then (digits (n / d)).length - 1
  else
    match (List.range 400).find? fun j => d ≤ n * Nat.pow 10 j with
    | some j => -j
    | none => 0

/-- The nearest decimal of `count` digits that reads back, if one of the two neighbours of the
magnitude on that grid does; of two equally near the even one. -/
def ofCount? (x : Magnitude) (count : Nat) : Option Scaled :=
  let power := x.leadingPower - (count - 1)
  let (n, d) := x.ratio
  let below : Scaled := ⟨n * Nat.pow 10 (-power).toNat / (d * Nat.pow 10 power.toNat), power⟩
  let above : Scaled := ⟨below.digits + 1, power⟩
  match x.readsBack below, x.readsBack above with
  | true, true =>
    let down := x.distance below
    let up := x.distance above
    some (if down < up || (down == up && below.digits % 2 == 0) then below else above)
  | true, false => some below
  | false, true => some above
  | false, false => none

/-- The shortest decimal that reads back. -/
def shortest (x : Magnitude) : Scaled :=
  if x.mantissa = 0 then ⟨0, 0⟩
  else ((List.range 17).findSome? fun i => x.ofCount? (i + 1)).getD ⟨0, 0⟩

end Magnitude

/-- Digits without the zeros at their end. -/
def trimZeros (cs : List Char) : List Char := (cs.reverse.dropWhile (· == '0')).reverse

/-- The text of digits whose first one has the given power of ten. -/
def layOut (cs : List Char) (power : Int) : List Char :=
  if -5 ≤ power ∧ power ≤ 15 then
    if (cs.length : Int) ≤ power + 1 then
      cs ++ List.replicate (power.toNat + 1 - cs.length) '0' ++ ['.', '0']
    else if 0 ≤ power then
      cs.take (power.toNat + 1) ++ '.' :: cs.drop (power.toNat + 1)
    else
      '0' :: '.' :: List.replicate ((-power).toNat - 1) '0' ++ cs
  else
    let exponent := 'e' :: (if power < 0 then '-' else '+') :: digits power.natAbs
    match cs with
    | [] => exponent
    | [c] => c :: exponent
    | c :: rest => c :: '.' :: rest ++ exponent

/-- The text of a double: the shortest decimal that reads back. -/
def Double.text (x : Double) : String :=
  let sign := if x.negative then "-" else ""
  if x.magnitude.mantissa = 0 then sign ++ "0.0"
  else
    let d := x.magnitude.shortest
    let cs := digits d.digits
    sign ++ String.ofList (layOut (trimZeros cs) (d.power + cs.length - 1))

end Stevedore.Decimal
