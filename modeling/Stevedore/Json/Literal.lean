import Stevedore.Json.Cursor
/-!
# String literals

The characters of a literal after its opening quote: UTF-8 with escapes, `\u` escapes in UTF-16.

Main definitions:

- `Json.readLiteral`: the text of a literal.
- `Json.skipLiteral`: passes over a literal, checking only that its escapes are well formed.
-/

namespace Stevedore.Json

/-- The value of a hexadecimal digit. -/
def hexValue? (b : UInt8) : Option Nat :=
  let n := b.toNat
  if 48 ≤ n ∧ n ≤ 57 then some (n - 48)
  else if 97 ≤ n ∧ n ≤ 102 then some (n - 87)
  else if 65 ≤ n ∧ n ≤ 70 then some (n - 55)
  else none

/-- Reads four hexadecimal digits. -/
def readHexQuad : Reader Nat := fun c =>
  match c.rest with
  | a :: b :: d :: e :: _ =>
    let after := c.next.next.next.next
    match hexValue? a, hexValue? b, hexValue? d, hexValue? e with
    | some a, some b, some d, some e => .ok (((a * 16 + b) * 16 + d) * 16 + e, after)
    | _, _, _, _ => fail .invalidEscape after
  | _ => fail .endInString c.toEnd

/-- The unit is the first half of a surrogate pair. -/
def isLeading (n : Nat) : Bool := 0xD800 ≤ n && n ≤ 0xDBFF

/-- The unit is the second half of a surrogate pair. -/
def isTrailing (n : Nat) : Bool := 0xDC00 ≤ n && n ≤ 0xDFFF

/-- The code point of a surrogate pair. -/
def pairValue (lead trail : Nat) : Nat := (lead - 0xD800) * 1024 + (trail - 0xDC00) + 0x10000

/-- Reads the second half of a surrogate pair, written as an escape of its own. -/
def readTrailing (lead : Nat) : Reader Char := fun c =>
  match c.head? with
  | none => fail .endInString c
  | some '\\' =>
    match c.next.head? with
    | none => fail .endInString c.next
    | some 'u' =>
      match readHexQuad c.next.next with
      | .ok (trail, c) =>
        if isTrailing trail then .ok (Char.ofNat (pairValue lead trail), c)
        else fail .loneSurrogate c
      | .error e => .error e
    | some _ => fail .endOfEscape c.next.next
  | some _ => fail .endOfEscape c.next

/-- Reads the code point of a `\u` escape, after the `u`. -/
def readCodePoint : Reader Char := fun c =>
  match readHexQuad c with
  | .ok (n, c) =>
    if isTrailing n then fail .loneSurrogate c
    else if isLeading n then readTrailing n c
    else .ok (Char.ofNat n, c)
  | .error e => .error e

/-- The character that a one-letter escape stands for. -/
def escaped? : Char → Option Char
  | '"' => some '"'
  | '\\' => some '\\'
  | '/' => some '/'
  | 'b' => some (Char.ofNat 8)
  | 'f' => some (Char.ofNat 12)
  | 'n' => some '\n'
  | 'r' => some '\r'
  | 't' => some '\t'
  | _ => none

/-- Reads an escape, after its backslash. -/
def readEscape : Reader Char := fun c =>
  match c.head? with
  | none => fail .endInString c
  | some 'u' => readCodePoint c.next
  | some x =>
    match escaped? x with
    | some ch => .ok (ch, c.next)
    | none => fail .invalidEscape c.next

/-- Reads the bytes that a literal stands for, up to its closing quote. -/
def readLiteralBytes (c : Cursor) : Read (List UInt8) :=
  match _h : c.rest with
  | [] => fail .endInString c
  | b :: rest =>
    if b = 0x22 then .ok ([], c.next)
    else if b = 0x5C then
      match readEscape c.next with
      | .error e => .error e
      | .ok (ch, after) =>
        if _ : c.Before after then
          match readLiteralBytes after with
          | .ok (bytes, c) => .ok (String.utf8EncodeChar ch ++ bytes, c)
          | .error e => .error e
        else fail .invalidEscape after
    else if b < 0x20 then fail .controlCharacter c.next
    else
      match readLiteralBytes ⟨rest, c.position.after b⟩ with
      | .ok (bytes, c) => .ok (b :: bytes, c)
      | .error e => .error e
termination_by c.rest.length
decreasing_by
  · assumption
  · simp [_h]

/-- The number of bytes before the first one that is not UTF-8; the first `i` are. -/
def utf8Prefix (bytes : ByteArray) (i : Nat) : Nat :=
  match _h : bytes.utf8DecodeChar? i with
  | none => i
  | some ch => utf8Prefix bytes (i + ch.utf8Size)
termination_by bytes.size - i
decreasing_by
  have := ByteArray.le_size_of_utf8DecodeChar?_eq_some _h
  have := ch.utf8Size_pos
  omega

/-- Reads a literal after its opening quote. Its bytes have to be UTF-8; otherwise the place reported
is found by counting back from the end of the literal, one byte for each that it stands for from the
first one on that is not. -/
def readLiteral : Reader String := fun c =>
  match readLiteralBytes c with
  | .ok (bytes, c) =>
    match String.fromUTF8? bytes.toByteArray with
    | some s => .ok (s, c)
    | none =>
      let left := bytes.length - utf8Prefix bytes.toByteArray 0
      .error (.located .invalidCodePoint (c.position.back left))
  | .error e => .error e

/-! ## Literals passed over -/

/-- Passes over an escape, after its backslash; what a `\u` escape stands for does not matter. -/
def skipEscape : Reader Unit := fun c =>
  match c.head? with
  | none => fail .endInString c
  | some 'u' => readHexQuad.map (fun _ => ()) c.next
  | some x => if (escaped? x).isSome then .ok ((), c.next) else fail .invalidEscape c.next

/-- Passes over a literal after its opening quote. -/
def skipLiteral (c : Cursor) : Read Unit :=
  match _h : c.rest with
  | [] => fail .endInString c
  | b :: rest =>
    if b = 0x22 then .ok ((), c.next)
    else if b = 0x5C then
      match skipEscape c.next with
      | .error e => .error e
      | .ok ((), after) =>
        if _ : c.Before after then skipLiteral after else fail .invalidEscape after
    else if b < 0x20 then fail .controlCharacter c
    else skipLiteral ⟨rest, c.position.after b⟩
termination_by c.rest.length
decreasing_by
  · assumption
  · simp [_h]

end Stevedore.Json
