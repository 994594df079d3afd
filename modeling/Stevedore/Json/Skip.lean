import Stevedore.Json.Literal
import Stevedore.Json.Number
/-!
# Values passed over

A member that nobody asked for is checked for syntax only: it may be nested to any depth and hold
numbers of any size.

Main definition: `Json.skipValue`.
-/

namespace Stevedore.Json

/-- The kinds of brackets. -/
inductive Bracket where
  | list
  | object
deriving DecidableEq, Repr

/-- The text ends inside the brackets. -/
def Bracket.unclosed : Bracket → Fault
  | .list => .endInList
  | .object => .endInObject

/-- Neither a comma nor the closing bracket follows an element. -/
def Bracket.unseparated : Bracket → Fault
  | .list => .expectedCommaOrBracket
  | .object => .expectedCommaOrBrace

/-- The character that closes the bracket. -/
def Bracket.closer : Bracket → Char
  | .list => ']'
  | .object => '\x7d'

/-- Passes over the colon after a key. -/
def skipColon : Reader Unit := fun c =>
  let c := c.skipBlanks
  match c.head? with
  | none => fail .endInObject c
  | some ':' => .ok ((), c.next)
  | some _ => failAhead .expectedColon c

/-- Passes over the start of an element: for a member of an object its key and colon. -/
def skipKey (b : Bracket) : Reader Unit := fun c =>
  match b with
  | .list => .ok ((), c)
  | .object =>
    let c := c.skipBlanks
    match c.head? with
    | none => fail .endInObject c
    | some '"' =>
      match skipLiteral c.next with
      | .ok ((), c) => skipColon c
      | .error e => .error e
    | some _ => failAhead .keyNotString c

/-- Passes over a value other than a list or object. -/
def skipScalar : Reader Unit := fun c =>
  match c.head? with
  | some 'n' => readWord ['u', 'l', 'l'] c.next
  | some 't' => readWord ['r', 'u', 'e'] c.next
  | some 'f' => readWord ['a', 'l', 's', 'e'] c.next
  | some '"' => skipLiteral c.next
  | some x => if x = '-' ∨ c.atDigit then skipNumber c else failAhead .expectedValue c
  | none => fail .endInValue c

/-- The bracket that a character opens. -/
def Bracket.ofOpener? : Char → Option Bracket
  | '[' => some .list
  | '\x7b' => some .object
  | _ => none

/-- Where a reader stands among open brackets: before an element, or at what follows the opening
bracket or an element. -/
inductive Stage where
  | element
  | opened
  | separator
deriving DecidableEq, Repr

/-- One step through a value inside the open brackets, innermost first: passes over a scalar, an
opening or closing bracket, or a separator with the key after it. `none` when the value is over. -/
def skipStep (stage : Stage) (brackets : List Bracket) (c : Cursor) :
    Read (Option (Stage × List Bracket)) :=
  let here := c.skipBlanks
  match stage, brackets with
  | .element, brackets =>
    match here.head?.bind Bracket.ofOpener? with
    | some b => .ok (some (.opened, b :: brackets), here.next)
    | none => skipScalar.map (fun _ => some (.separator, brackets)) here
  | _, [] => .ok (none, c)
  | stage, b :: brackets =>
    if here.rest.isEmpty then fail b.unclosed here
    else if here.head? = some b.closer then .ok (some (.separator, brackets), here.next)
    else if stage = .opened then (skipKey b).map (fun _ => some (.element, b :: brackets)) here
    else if here.head? = some ',' then
      (skipKey b).map (fun _ => some (.element, b :: brackets)) here.next
    else failAhead b.unseparated here

/-- What shrinks with every step: the text that is left, and at one place the stage. -/
def weight (stage : Stage) (c : Cursor) : Nat :=
  2 * c.rest.length + if stage = .element then 0 else 1

/-- Passes over what is left of a value inside the open brackets. -/
def skipFrom (stage : Stage) (brackets : List Bracket) (c : Cursor) : Read Unit :=
  match skipStep stage brackets c with
  | .error e => .error e
  | .ok (none, after) => .ok ((), after)
  | .ok (some (stage', brackets'), after) =>
    if weight stage' after < weight stage c then skipFrom stage' brackets' after
    else fail .endInValue after
termination_by weight stage c

/-- Passes over a value. -/
def skipValue : Reader Unit := fun c => skipFrom .element [] c

end Stevedore.Json
