import Stevedore.Json.Skip
/-!
# Readers of scalars, lists and variants

Main definitions:

- `Json.mismatch`: the failure at a value of another kind than the expected one.
- `Json.readString`, `Json.readBoolean`, `Json.readInteger`: scalars.
- `Json.readList`, `Json.readEntries`: lists and objects with free keys.
- `Json.readOptional`: a value or `null`.
- `Json.readVariant`: a named alternative.
- `Json.decode`: a whole text.
-/

namespace Stevedore.Json

/-! ## Scalars -/

/-- Another kind of value was found. The place is the end of a scalar and the start of a list or
object. -/
def mismatch (expected : String) (c : Cursor) : Read α :=
  let found (f : Found) (after : Cursor) : Read α := fail (.wrongType f expected) after
  match c.head? with
  | some 'n' => match readWord ['u', 'l', 'l'] c.next with
    | .ok (_, after) => found .null after
    | .error e => .error e
  | some 't' => match readWord ['r', 'u', 'e'] c.next with
    | .ok (_, after) => found (.boolean true) after
    | .error e => .error e
  | some 'f' => match readWord ['a', 'l', 's', 'e'] c.next with
    | .ok (_, after) => found (.boolean false) after
    | .error e => .error e
  | some '"' => match readLiteral c.next with
    | .ok (s, after) => found (.string s) after
    | .error e => .error e
  | some '[' => found .sequence c
  | some '\x7b' => found .map c
  | some x =>
    if x = '-' ∨ c.atDigit then
      match readNumber c with
      | .ok (n, after) => found n.found after
      | .error e => .error e
    else failAhead .expectedValue c
  | none => failAhead .expectedValue c

/-- Reads a string literal, described as `expected` where something else is found. -/
def readText (expected : String) : Reader String := fun c =>
  atValue c fun c => if c.head? = some '"' then readLiteral c.next else mismatch expected c

/-- Reads a string. -/
def readString : Reader String := readText "a string"

/-- Reads `true` or `false`. -/
def readBoolean : Reader Bool := fun c =>
  atValue c fun c =>
    match c.head? with
    | some 't' => (readWord ['r', 'u', 'e']).map (fun _ => true) c.next
    | some 'f' => (readWord ['a', 'l', 's', 'e']).map (fun _ => false) c.next
    | _ => mismatch "a boolean" c

/-- Accepts an integer between two bounds. -/
def withinBounds (expected : String) (low high : Int) (n : Number) (c : Cursor) : Read Int :=
  match n with
  | .integer n =>
    if low ≤ n ∧ n ≤ high then .ok (n, c) else fail (.wrongValue (.integer n) expected) c
  | .real x => fail (.wrongType (.real x) expected) c

/-- Reads an integer between two bounds. -/
def readInteger (expected : String) (low high : Int) : Reader Int := fun c =>
  atValue c fun c =>
    if c.head? = some '-' ∨ c.atDigit then
      match readNumber c with
      | .ok (n, c) => withinBounds expected low high n c
      | .error e => .error e
    else mismatch expected c

/-- Reads a number of 16 bits. -/
def readUInt16 : Reader UInt16 :=
  (readInteger "u16" 0 65535).map fun n => UInt16.ofNat n.toNat

/-- Reads a number of 64 bits. -/
def readUInt64 : Reader UInt64 :=
  (readInteger "u64" 0 18446744073709551615).map fun n => UInt64.ofNat n.toNat

/-- Reads a signed number of 32 bits. -/
def readInt32 : Reader Int32 :=
  (readInteger "i32" (-2147483648) 2147483647).map Int32.ofInt

/-- Reads a count. -/
def readCount : Reader Nat := (readInteger "usize" 0 18446744073709551615).map Int.toNat

/-- Reads `null`, or a value. -/
def readOptional (read : Reader α) : Reader (Option α) := fun c =>
  let here := c.skipBlanks
  if here.head? = some 'n' then (readWord ['u', 'l', 'l']).map (fun _ => none) here.next
  else read.map some here

/-! ## Brackets -/

/-- Passes over a closing bracket. Where none stands, the first component is the cursor that the
attempt leaves behind. -/
def close (b : Bracket) (c : Cursor) : Cursor × Except Failure Unit :=
  let c := c.skipBlanks
  let failing (c : Cursor) (fault : Fault) : Cursor × Except Failure Unit :=
    (c, .error (.located fault c.next.position))
  if c.rest.isEmpty then failing c b.unclosed
  else if c.head? = some b.closer then (c.next, .ok ())
  else if c.head? = some ',' then
    match b with
    | .object => failing c .trailingComma
    | .list =>
      let c := c.next.skipBlanks
      failing c (if c.head? = some ']' then .trailingComma else .trailingCharacters)
  else failing c .trailingCharacters

/-- Closes the bracket after its content was read. A fault that waits for its place gets it here. -/
def closing (b : Bracket) : Read α → Read α
  | .ok (a, c) =>
    match close b c with
    | (c, .ok ()) => .ok (a, c)
    | (_, .error e) => .error e
  | .error (.pending fault stop) => fail fault (close b stop).1
  | .error e => .error e

/-- Looks for another item of a list. -/
def moreItems (first : Bool) (c : Cursor) : Read Bool :=
  let c := c.skipBlanks
  if c.rest.isEmpty then fail .endInList c
  else if c.head? = some ']' then .ok (false, c)
  else if first then .ok (true, c)
  else if c.head? = some ',' then
    let c := c.next.skipBlanks
    if c.rest.isEmpty then fail .endInValue c
    else if c.head? = some ']' then failAhead .trailingComma c
    else .ok (true, c)
  else failAhead .expectedCommaOrBracket c

/-- Looks for another member of an object; its key is next. -/
def moreMembers (first : Bool) (c : Cursor) : Read Bool :=
  let c := c.skipBlanks
  if c.rest.isEmpty then fail .endInObject c
  else if c.head? = some '\x7d' then .ok (false, c)
  else if first then
    if c.head? = some '"' then .ok (true, c) else failAhead .keyNotString c
  else if c.head? = some ',' then
    let c := c.next.skipBlanks
    if c.rest.isEmpty then fail .endInValue c
    else if c.head? = some '"' then .ok (true, c)
    else if c.head? = some '\x7d' then failAhead .trailingComma c
    else failAhead .keyNotString c
  else failAhead .expectedCommaOrBrace c

/-! ## Lists and objects with free keys -/

/-- Reads the items that are left of a list. -/
def readItems (read : Reader α) (first : Bool) (c : Cursor) : Read (List α) :=
  match moreItems first c with
  | .error e => .error e
  | .ok (false, c) => .ok ([], c)
  | .ok (true, here) =>
    match read here with
    | .error e => .error e
    | .ok (item, after) =>
      if c.Before after then
        match readItems read false after with
        | .ok (items, c) => .ok (item :: items, c)
        | .error e => .error e
      else fail .expectedValue after
termination_by c.rest.length
decreasing_by assumption

/-- Reads a list. -/
def readList (read : Reader α) : Reader (List α) := fun c =>
  atValue c fun c =>
    if c.head? = some '[' then closing .list (readItems read true c.next)
    else mismatch "a sequence" c

/-- Reads a key and its colon, at the opening quote. -/
def readKey : Reader String := fun c =>
  match readLiteral c.next with
  | .error e => .error e
  | .ok (key, c) => (skipColon.map fun _ => key) c

/-- Reads the members that are left of an object with free keys. -/
def readPairs (read : Reader α) (first : Bool) (c : Cursor) : Read (List (String × α)) :=
  match moreMembers first c with
  | .error e => .error e
  | .ok (false, c) => .ok ([], c)
  | .ok (true, here) =>
    match readKey here with
    | .error e => .error e
    | .ok (key, here) =>
      match read here with
      | .error e => .error e
      | .ok (value, after) =>
        if c.Before after then
          match readPairs read false after with
          | .ok (pairs, c) => .ok ((key, value) :: pairs, c)
          | .error e => .error e
        else fail .expectedValue after
termination_by c.rest.length
decreasing_by assumption

/-- Reads an object with free keys, its members in order. -/
def readEntries (read : Reader α) : Reader (List (String × α)) := fun c =>
  atValue c fun c =>
    if c.head? = some '\x7b' then closing .object (readPairs read true c.next)
    else mismatch "a map" c

/-! ## Variants -/

/-- What belongs to the name of a variant. -/
inductive Payload (α : Type) where
  /-- Nothing, or `null`. -/
  | bare (value : α)
  /-- A record. -/
  | record (read : Reader α)

/-- Reads `null` where a variant has nothing more. -/
def readNothing : Reader Unit := fun c =>
  atValue c fun c =>
    if c.head? = some 'n' then readWord ['u', 'l', 'l'] c.next else mismatch "unit" c

/-- Reads the name of one of the variants. -/
def readVariantName (variants : List (String × Payload α)) : Reader (Payload α) := fun c =>
  match readText "variant identifier" c with
  | .error e => .error e
  | .ok (name, c) =>
    match variants.lookup name with
    | some payload => .ok (payload, c)
    | none => fail (.unknownVariant name (variants.map (·.1))) c

/-- Reads what follows the colon after the name of a variant. -/
def Payload.readAfterName : Payload α → Reader α
  | .bare value => readNothing.map fun _ => value
  | .record read => read

/-- Looks for the key of the object that a variant is. -/
def atVariantKey (read : Reader α) : Reader α := fun c =>
  let c := c.skipBlanks
  match c.head? with
  | none => fail .endInObject c
  | some '"' => read c
  | some '\x7d' => failAhead .expectedValue c
  | some _ => failAhead .keyNotString c

/-- Reads a variant: its name alone, or an object with the name as its one key. -/
def readVariant (variants : List (String × Payload α)) : Reader α := fun c =>
  atValue c fun c =>
    if c.head? = some '"' then
      match readVariantName variants c with
      | .error e => .error e
      | .ok (.bare value, c) => .ok (value, c)
      | .ok (.record _, c) => .error (.pending (.wrongType .bareVariant "struct variant") c)
    else if c.head? = some '\x7b' then
      match atVariantKey (readVariantName variants) c.next with
      | .error e => .error e
      | .ok (payload, c) =>
        match skipColon c with
        | .error e => .error e
        | .ok ((), c) =>
          match payload.readAfterName c with
          | .error e => .error e
          | .ok (value, c) =>
            let c := c.skipBlanks
            if c.rest.isEmpty then fail .endInObject c
            else if c.head? = some '\x7d' then .ok (value, c.next)
            else fail .expectedValue c
    else failAhead .expectedValue c

/-! ## Whole texts -/

/-- The error that a failure is reported as when nothing encloses it. -/
def Failure.toError : Failure → ReadError
  | .located fault position => ⟨fault, some position⟩
  | .pending fault _ => ⟨fault, none⟩

/-- Reads a whole text: one value, with nothing but blanks around it. -/
def decode (read : Reader α) (c : Cursor) : Except ReadError α :=
  match read c with
  | .error e => .error e.toError
  | .ok (a, c) =>
    let c := c.skipBlanks
    if c.rest.isEmpty then .ok a else .error ⟨.trailingCharacters, some c.next.position⟩

/-- Reads a whole text given as a string. -/
def decodeString (read : Reader α) (s : String) : Except ReadError α := decode read (.ofString s)

end Stevedore.Json
