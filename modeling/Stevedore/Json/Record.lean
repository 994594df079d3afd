import Stevedore.Json.Read
/-!
# Readers of records

A record is described by its members; one reader serves all descriptions. Written as an object, its
members come in any order. Where a description allows it, a record may be written as the list of its
members' values in the order of the description.

Main definitions:

- `Json.Member`, `Json.Record`: descriptions.
- `Json.Record.read`: the reader of a description.
-/

namespace Stevedore.Json

/-- A member of a record of type `σ`: its key, whether it has to be there, and how its value enters
the record. -/
structure Member (σ : Type) where
  key : String
  required : Bool
  read : σ → Reader σ

namespace Member

/-- A member that may be left out. -/
def optional (key : String) (read : Reader α) (set : α → σ → σ) : Member σ :=
  ⟨key, false, fun s => read.map (set · s)⟩

/-- A member that has to be there. -/
def mandatory (key : String) (read : Reader α) (set : α → σ → σ) : Member σ :=
  ⟨key, true, fun s => read.map (set · s)⟩

/-- A member that says the same wherever it is there. -/
def fixed (key expected : String) : Member σ :=
  ⟨key, false, fun s c =>
    match readString c with
    | .error e => .error e
    | .ok (found, c) =>
      if found = expected then .ok (s, c)
      else .error (.pending (.wrongValue (.string found) expected) c)⟩

end Member

/-- What a list is where a record is read. -/
inductive ListForm where
  /-- The values of the members, in order. -/
  | values
  /-- Another kind of value, noticed before its bracket. -/
  | mismatch
  /-- Another kind of value, noticed inside its bracket. -/
  | unexpected
deriving DecidableEq, Repr

/-- The description of a record of type `σ`. -/
structure Record (σ : Type) where
  /-- How messages call the record. -/
  title : String
  /-- The record before any member is read. -/
  initial : σ
  members : List (Member σ)
  listForm : ListForm := .values
  /-- A repeated member counts with its last value; otherwise it is a fault. -/
  lastCounts : Bool := false
  /-- Passes over the value of a member that is not described. -/
  passOver : Reader Unit := skipValue

namespace Record

variable {σ : Type} (r : Record σ)

/-- The member with a key. -/
def member? (key : String) : Option (Member σ) := r.members.find? (·.key == key)

/-- Reads the members that are left of an object; `seen` are the keys already read. -/
def readMembers (first : Bool) (seen : List String) (s : σ) (c : Cursor) :
    Read (σ × List String) :=
  match moreMembers first c with
  | .error e => .error e
  | .ok (false, c) => .ok ((s, seen), c)
  | .ok (true, here) =>
    match readLiteral here.next with
    | .error e => .error e
    | .ok (key, here) =>
      if !r.lastCounts && (r.member? key).isSome && seen.contains key then
        .error (.pending (.repeatedField key) here)
      else
        match skipColon here with
        | .error e => .error e
        | .ok ((), here) =>
          let value : Read σ :=
            match r.member? key with
            | some m => m.read s here
            | none => r.passOver.map (fun _ => s) here
          match value with
          | .error e => .error e
          | .ok (s, after) =>
            if c.Before after then readMembers false (key :: seen) s after
            else fail .expectedValue after
termination_by c.rest.length
decreasing_by assumption

/-- The first member that has to be there and is not. -/
def missing? (seen : List String) : Option (Member σ) :=
  r.members.find? fun m => m.required && !seen.contains m.key

/-- Reads the content of an object. -/
def readObject (c : Cursor) : Read σ :=
  match r.readMembers true [] r.initial c with
  | .error e => .error e
  | .ok ((s, seen), c) =>
    match r.missing? seen with
    | some m => .error (.pending (.missingField m.key) c)
    | none => .ok (s, c)

/-- How messages call the list form. -/
def listTitle : String :=
  let n := r.members.length
  r.title ++ " with " ++ Decimal.ofNat n ++ if n = 1 then " element" else " elements"

/-- Reads the values that are left of a list, for the members that are left. -/
def readValues (index : Nat) (first : Bool) (s : σ) : List (Member σ) → Cursor → Read σ
  | [], c => .ok (s, c)
  | m :: rest, c =>
    match moreItems first c with
    | .error e => .error e
    | .ok (true, c) =>
      match m.read s c with
      | .error e => .error e
      | .ok (s, c) => readValues (index + 1) false s rest c
    | .ok (false, c) =>
      if m.required then .error (.pending (.wrongLength index r.listTitle) c)
      else readValues (index + 1) first s rest c

/-- Reads a list where a record is expected. -/
def readListForm (c : Cursor) : Read σ :=
  match r.listForm with
  | .values => closing .list (r.readValues 0 true r.initial r.members c.next)
  | .unexpected => closing .list (.error (.pending (.wrongType .sequence r.title) c.next))
  | .mismatch => Json.mismatch r.title c

/-- Reads a record. -/
def read : Reader σ := fun c =>
  atValue c fun c =>
    if c.head? = some '\x7b' then closing .object (r.readObject c.next)
    else if c.head? = some '[' then r.readListForm c
    else Json.mismatch r.title c

end Record

end Stevedore.Json
