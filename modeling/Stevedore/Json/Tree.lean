import Stevedore.Json.Read
/-!
# Readers of any value

Main definitions:

- `Json.readTree`: any value, nested at most to a given depth.
- `Json.parse`: a whole text of any value.
-/

namespace Stevedore.Json

/-- Reads a value that is neither list nor object. -/
def readScalar : Reader Json := fun c =>
  match c.head? with
  | some 'n' => (readWord ['u', 'l', 'l']).map (fun _ => null) c.next
  | some 't' => (readWord ['r', 'u', 'e']).map (fun _ => boolean true) c.next
  | some 'f' => (readWord ['a', 'l', 's', 'e']).map (fun _ => boolean false) c.next
  | some '"' => readLiteral.map string c.next
  | some x =>
    if x = '-' ∨ c.atDigit then readNumber.map Number.toJson c else failAhead .expectedValue c
  | none => failAhead .expectedValue c

/-- Reads any value with at most `room` levels of lists and objects. -/
def readTree : (room : Nat) → Reader Json
  | 0 => fun c => atValue c fun c =>
    match c.head?.bind Bracket.ofOpener? with
    | some _ => failAhead .tooDeep c
    | none => readScalar c
  | room + 1 => fun c => atValue c fun c =>
    match c.head?.bind Bracket.ofOpener? with
    | some .list => closing .list (Reader.map array (readItems (readTree room) true) c.next)
    | some .object => closing .object (Reader.map object (readPairs (readTree room) true) c.next)
    | none => readScalar c

/-- The levels of lists and objects that a whole text may have. -/
def maxDepth : Nat := 127

/-- Reads a whole text of any value. -/
def parse (s : String) : Except ReadError Json := decodeString (readTree maxDepth) s

end Stevedore.Json
