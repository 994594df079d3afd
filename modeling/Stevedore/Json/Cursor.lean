import Stevedore.Json.Fault
/-!
# Reading from a place in a text

A text is read as bytes, front to back. A reader starts at a cursor and ends with a value and a
later cursor, or with a failure.

Main definitions:

- `Json.Cursor`: the bytes not yet read and the place of the first of them.
- `Json.Failure`: a fault that has its place, or one that waits for the enclosing list or object to
  be closed: the place reported for it is where the closing bracket leaves the cursor.
- `Json.Reader`: a reader of values of a type.
-/

namespace Stevedore.Json

/-- The bytes not yet read, and where the first of them stands. -/
structure Cursor where
  rest : List UInt8
  position : Position := {}
deriving DecidableEq, Repr

/-- Why a reader stopped. -/
inductive Failure where
  /-- A fault with the place reported for it. -/
  | located (fault : Fault) (position : Position)
  /-- A fault whose place is settled when the enclosing list or object is closed. -/
  | pending (fault : Fault) (stop : Cursor)
deriving DecidableEq, Repr

/-- A value with the cursor after it, or a failure. -/
abbrev Read (α : Type) := Except Failure (α × Cursor)

/-- A reader of values. -/
abbrev Reader (α : Type) := Cursor → Read α

namespace Cursor

/-- The start of a text given as bytes. -/
def ofBytes (bytes : List UInt8) : Cursor := { rest := bytes }

/-- The start of a text. -/
def ofString (s : String) : Cursor := ofBytes s.toUTF8.toList

/-- The next byte as a character; the bytes of characters beyond ASCII are no ASCII characters. -/
def head? (c : Cursor) : Option Char := c.rest.head?.map fun b => Char.ofNat b.toNat

/-- The cursor after the next byte. At the end of the text it stays. -/
def next (c : Cursor) : Cursor :=
  match c.rest with
  | [] => c
  | b :: rest => ⟨rest, c.position.after b⟩

/-- The end of the text. -/
def toEnd (c : Cursor) : Cursor := ⟨[], c.rest.foldl Position.after c.position⟩

/-- Passes over blanks, tabs and line ends. -/
def skipBlanks (c : Cursor) : Cursor := go c.rest c.position
where
  go : List UInt8 → Position → Cursor
    | [], p => ⟨[], p⟩
    | b :: rest, p =>
      if b = 0x20 ∨ b = 0x09 ∨ b = 0x0A ∨ b = 0x0D then go rest (p.after b) else ⟨b :: rest, p⟩

/-- The cursor `later` is nearer to the end of the text. A loop over the items of a list goes on
only from a later cursor, so it ends whatever reader it is given. -/
def Before (c later : Cursor) : Prop := later.rest.length < c.rest.length

instance (c later : Cursor) : Decidable (c.Before later) := Nat.decLt _ _

end Cursor

/-- Stops at a fault placed at the cursor. -/
def fail (fault : Fault) (c : Cursor) : Read α := .error (.located fault c.position)

/-- Stops at a fault placed after the byte that the cursor looks at. -/
def failAhead (fault : Fault) (c : Cursor) : Read α := .error (.located fault c.next.position)

/-- Reads on at the first byte that is not blank; there has to be one. -/
def atValue (c : Cursor) (read : Reader α) : Read α :=
  let c := c.skipBlanks
  if c.rest.isEmpty then fail .endInValue c else read c

/-- Reads the rest of a word. -/
def readWord : List Char → Reader Unit
  | [], c => .ok ((), c)
  | letter :: rest, c =>
    match c.head? with
    | none => fail .endInValue c
    | some x => if x = letter then readWord rest c.next else fail .expectedIdent c.next

/-- Applies a function to what was read. -/
def Reader.map (f : α → β) (read : Reader α) : Reader β := fun c =>
  match read c with
  | .ok (a, c) => .ok (f a, c)
  | .error e => .error e

end Stevedore.Json
