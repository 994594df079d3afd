import Stevedore.Json.Cursor
/-!
# Numbers

An integer literal without fraction and exponent is exact if it fits 64 bits; every other number is
a double. The digits of a double enter its significand as long as that fits 64 bits.

Main definitions:

- `Json.readNumber`: a number.
- `Json.skipNumber`: passes over a number of any size.
-/

namespace Stevedore.Json

/-- A number as it was read. -/
inductive Number where
  | integer (n : Int)
  | real (x : Decimal.Double)
deriving DecidableEq, Repr

/-- How a message names a number. -/
def Number.found : Number → Found
  | .integer n => .integer n
  | .real x => .real x

/-- The number as a JSON value. -/
def Number.toJson : Number → Json
  | .integer n => .integer n
  | .real x => .real x

/-! ## Runs of digits -/

/-- The value of a decimal digit. -/
def digit? (b : UInt8) : Option Nat :=
  if 48 ≤ b.toNat ∧ b.toNat ≤ 57 then some (b.toNat - 48) else none

/-- The digits that a text starts with, and the cursor after them. -/
def digitRun : List UInt8 → Position → List Nat × Cursor
  | [], p => ([], ⟨[], p⟩)
  | b :: rest, p =>
    match digit? b with
    | some d =>
      let (ds, c) := digitRun rest (p.after b)
      (d :: ds, c)
    | none => ([], ⟨b :: rest, p⟩)

namespace Cursor

/-- The digits at the cursor. -/
def digits (c : Cursor) : List Nat × Cursor := digitRun c.rest c.position

/-- The cursor after the digits. -/
def skipDigits (c : Cursor) : Cursor := c.digits.2

/-- The next byte is a digit. -/
def atDigit (c : Cursor) : Bool := (c.rest.head?.bind digit?).isSome

end Cursor

/-- The greatest significand. -/
def maxSignificand : Nat := 18446744073709551615

/-- Appends digits to a significand until one does not fit; returns the significand and the digits
that were left over. -/
def accumulate (significand : Nat) : List Nat → Nat × List Nat
  | [] => (significand, [])
  | d :: ds =>
    if significand * 10 + d ≤ maxSignificand then accumulate (significand * 10 + d) ds
    else (significand, d :: ds)

/-! ## Doubles -/

/-- The double of a significand and a power of ten, if it is in range. -/
def assemble (negative : Bool) (significand : Nat) (exponent : Int) (c : Cursor) : Read Number :=
  match Decimal.Double.ofDecimal? negative significand exponent with
  | some x => .ok (.real x, c)
  | none => fail .numberOutOfRange c

/-- The greatest exponent that is computed. -/
def maxExponent : Nat := 2147483647

/-- Reads on in the digits of an exponent. `none` is an exponent beyond the greatest; that is an
error, placed after the digit that exceeds it, if `refuse` holds. -/
def exponentRun (refuse : Bool) (exponent : Nat) : List UInt8 → Position → Read (Option Nat)
  | [], p => .ok (some exponent, ⟨[], p⟩)
  | b :: rest, p =>
    match digit? b with
    | none => .ok (some exponent, ⟨b :: rest, p⟩)
    | some d =>
      if exponent * 10 + d ≤ maxExponent then
        exponentRun refuse (exponent * 10 + d) rest (p.after b)
      else if refuse then fail .numberOutOfRange ⟨rest, p.after b⟩
      else .ok (none, (digitRun rest (p.after b)).2)

/-- Reads an exponent after its `e`, and finishes the number. -/
def readExponent (negative : Bool) (significand : Nat) (base : Int) : Reader Number := fun c =>
  let (down, c) :=
    match c.head? with
    | some '+' => (false, c.next)
    | some '-' => (true, c.next)
    | _ => (false, c)
  if c.rest.isEmpty then fail .endInValue c
  else if c.atDigit then
    match exponentRun (significand != 0 && !down) 0 c.rest c.position with
    | .error e => .error e
    | .ok (none, c) => .ok (.real ⟨negative, .zero⟩, c)
    | .ok (some e, c) => assemble negative significand (if down then base - e else base + e) c
  else fail .invalidNumber c.next

/-- Finishes a number at its exponent, if it has one. -/
def finish (negative : Bool) (significand : Nat) (exponent : Int) (c : Cursor) : Read Number :=
  match c.head? with
  | some 'e' | some 'E' => readExponent negative significand exponent c.next
  | _ => assemble negative significand exponent c

/-- Reads a fraction after its point, and finishes the number. -/
def readFraction (negative : Bool) (significand : Nat) (exponent : Int) : Reader Number := fun c =>
  match c.digits with
  | ([], c) => if c.rest.isEmpty then fail .endInValue c else failAhead .invalidNumber c
  | (ds, c) =>
    let (significand, left) := accumulate significand ds
    finish negative significand (exponent - (ds.length - left.length : Nat)) c

/-! ## Numbers -/

/-- The number of an integer literal whose digits all fit the significand. -/
def wholeNumber (negative : Bool) (significand : Nat) (c : Cursor) : Read Number :=
  if !negative then .ok (.integer significand, c)
  else if 0 < significand ∧ significand ≤ 9223372036854775808 then .ok (.integer (-significand), c)
  else assemble true significand 0 c

/-- Reads on after the digits before the point. -/
def afterDigits (negative : Bool) (ds : List Nat) (c : Cursor) : Read Number :=
  let (significand, left) := accumulate 0 ds
  match c.head? with
  | some '.' => readFraction negative significand left.length c.next
  | some 'e' | some 'E' => readExponent negative significand left.length c.next
  | _ =>
    if left.isEmpty then wholeNumber negative significand c
    else assemble negative significand left.length c

/-- Reads a number after its sign. -/
def readUnsigned (negative : Bool) : Reader Number := fun c =>
  if c.rest.isEmpty then fail .endInValue c
  else if !c.atDigit then fail .invalidNumber c.next
  else if c.head? = some '0' then
    if c.next.atDigit then failAhead .invalidNumber c.next else afterDigits negative [0] c.next
  else afterDigits negative c.digits.1 c.digits.2

/-- Reads a number. -/
def readNumber : Reader Number := fun c =>
  if c.head? = some '-' then readUnsigned true c.next else readUnsigned false c

/-! ## Numbers passed over -/

/-- Passes over an exponent after its `e`. -/
def skipExponent : Reader Unit := fun c =>
  let c := match c.head? with
    | some '+' | some '-' => c.next
    | _ => c
  if c.atDigit then .ok ((), c.skipDigits) else fail .invalidNumber c.next

/-- Passes over what follows the digits before the point. -/
def skipFraction : Reader Unit := fun c =>
  match c.head? with
  | some '.' =>
    let c := c.next
    if !c.atDigit then failAhead .invalidNumber c
    else
      let c := c.skipDigits
      match c.head? with
      | some 'e' | some 'E' => skipExponent c.next
      | _ => .ok ((), c)
  | some 'e' | some 'E' => skipExponent c.next
  | _ => .ok ((), c)

/-- Passes over a number. -/
def skipNumber : Reader Unit := fun c =>
  let c := if c.head? = some '-' then c.next else c
  if !c.atDigit then fail .invalidNumber c.next
  else if c.head? = some '0' then
    if c.next.atDigit then failAhead .invalidNumber c.next else skipFraction c.next
  else skipFraction c.skipDigits

end Stevedore.Json
