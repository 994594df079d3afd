import Stevedore.Decimal.Digits
/-!
# Socket addresses

An address of version 4 with a port, `1.2.3.4:80`, or one of version 6 in brackets, `[::1]:80`, with
a zone where it has one, `[::1%2]:80`.

Main definitions: `SocketAddress`, `SocketAddress.parse?` and `SocketAddress.text`.
-/

namespace Stevedore

/-- An address of version 4 by its four bytes, or one of version 6 by its eight groups. -/
inductive IpAddress where
  | v4 (bytes : List Nat)
  | v6 (groups : List Nat) (zone : Nat)
deriving DecidableEq, Repr

/-- An address with a port. -/
structure SocketAddress where
  ip : IpAddress
  port : Nat
deriving DecidableEq, Repr

namespace SocketAddress

/-- A parser that may not apply; the rest of the text comes with the value. -/
abbrev Parser (α : Type) := List Char → Option (α × List Char)

/-! ## Numbers -/

/-- The value of a digit in a base up to sixteen. -/
def digitIn? (base : Nat) (c : Char) : Option Nat :=
  let value :=
    if '0' ≤ c ∧ c ≤ '9' then some (c.toNat - 48)
    else if 'a' ≤ c ∧ c ≤ 'f' then some (c.toNat - 87)
    else if 'A' ≤ c ∧ c ≤ 'F' then some (c.toNat - 55)
    else none
  value.filter (· < base)

/-- The digits that a text starts with. -/
def digitsIn (base : Nat) : List Char → List Nat × List Char
  | [] => ([], [])
  | c :: rest =>
    match digitIn? base c with
    | some d => let (ds, rest) := digitsIn base rest; (d :: ds, rest)
    | none => ([], c :: rest)

/-- A number of at least one digit in a base, up to a bound and, where one is given, with at most so
many digits; zeros in front may be refused. -/
def number (base bound : Nat) (maxDigits : Option Nat) (leadingZeros : Bool) :
    Parser Nat := fun cs =>
  let (ds, rest) := digitsIn base cs
  let n := ds.foldl (fun n d => n * base + d) 0
  let tooLong := match maxDigits with
    | some most => most < ds.length
    | none => false
  if ds.isEmpty || tooLong || bound < n then none
  else if !leadingZeros && ds.head? == some 0 && 1 < ds.length then none
  else some (n, rest)

/-- A given character. -/
def char (c : Char) : Parser Unit
  | x :: rest => if x = c then some ((), rest) else none
  | [] => none

/-- A parser after a separator, which the first of a row does not have. -/
def separated (separator : Char) (index : Nat) (p : Parser α) : Parser α := fun cs =>
  if index = 0 then p cs
  else
    match char separator cs with
    | some ((), rest) => p rest
    | none => none

/-! ## Addresses -/

/-- A row of values between separators. -/
def row (separator : Char) (p : Parser α) (index : Nat) : (count : Nat) → Parser (List α)
  | 0, cs => some ([], cs)
  | count + 1, cs =>
    match separated separator index p cs with
    | none => none
    | some (a, rest) =>
      match row separator p (index + 1) count rest with
      | none => none
      | some (as, rest) => some (a :: as, rest)

/-- The four bytes of an address of version 4. -/
def v4Bytes : Parser (List Nat) := row '.' (number 10 255 (some 3) false) 0 4

/-- The two groups that the four bytes of an address make. -/
def groupsOfBytes : List Nat → List Nat
  | [a, b, c, d] => [a * 256 + b, c * 256 + d]
  | _ => []

/-- Groups of an address of version 6, at most `limit` of them; the last two may be written as an
address of version 4. Tells whether they were. -/
def v6Groups (index : Nat) : (limit : Nat) → List Char → (List Nat × Bool) × List Char
  | 0, cs => (([], false), cs)
  | limit + 1, cs =>
    match if 0 < limit then separated ':' index v4Bytes cs else none with
    | some (bytes, rest) => ((groupsOfBytes bytes, true), rest)
    | none =>
      match separated ':' index (number 16 65535 (some 4) true) cs with
      | none => (([], false), cs)
      | some (g, rest) =>
        let ((gs, embedded), rest) := v6Groups (index + 1) limit rest
        ((g :: gs, embedded), rest)

/-- The eight groups of an address of version 6; `::` stands for at least one group of zero. -/
def v6All : Parser (List Nat) := fun cs =>
  let ((front, embedded), rest) := v6Groups 0 8 cs
  if front.length = 8 then some (front, rest)
  else if embedded then none
  else
    match rest with
    | ':' :: ':' :: rest =>
      let ((back, _), rest) := v6Groups 0 (7 - front.length) rest
      some (front ++ List.replicate (8 - front.length - back.length) 0 ++ back, rest)
    | _ => none

/-- A port after its colon. -/
def portNumber : Parser Nat := fun cs =>
  match char ':' cs with
  | some ((), rest) => number 10 65535 none true rest
  | none => none

/-- A zone after its percent sign; zero where there is none. -/
def zone : Parser Nat := fun cs =>
  match cs with
  | '%' :: rest =>
    match number 10 4294967295 none true rest with
    | some r => some r
    | none => some (0, cs)
  | _ => some (0, cs)

/-- An address of version 4 with its port. -/
def v4Socket : Parser SocketAddress := fun cs =>
  match v4Bytes cs with
  | none => none
  | some (bytes, rest) => (portNumber rest).map fun (port, rest) => (⟨.v4 bytes, port⟩, rest)

/-- An address of version 6 with its zone and port. -/
def v6Socket : Parser SocketAddress := fun cs =>
  match cs with
  | '[' :: rest =>
    match v6All rest with
    | none => none
    | some (groups, rest) =>
      match zone rest with
      | some (z, ']' :: rest) =>
        (portNumber rest).map fun (port, rest) => (⟨.v6 groups z, port⟩, rest)
      | _ => none
  | _ => none

/-- Reads an address; nothing may follow it. -/
def parse? (s : String) : Option SocketAddress :=
  let cs := s.toList
  match (v4Socket cs).or (v6Socket cs) with
  | some (address, []) => some address
  | _ => none

/-! ## Text -/

/-- Numbers in decimal between dots. -/
def v4Text (bytes : List Nat) : String := ".".intercalate (bytes.map Decimal.ofNat)

/-- A group in base sixteen. -/
def groupText (g : Nat) : String := String.ofList (Nat.toDigits 16 g)

/-- Groups between colons. -/
def groupsText (groups : List Nat) : String := ":".intercalate (groups.map groupText)

/-- The start and the length of the first longest run of zeros. -/
def longestZeros (groups : List Nat) : Nat × Nat :=
  let starts := (List.range groups.length).map fun i =>
    (i, ((groups.drop i).takeWhile (· == 0)).length)
  starts.foldl (fun best run => if best.2 < run.2 then run else best) (0, 0)

/-- An address of version 6: a mapped address of version 4 shows as such, and the longest run of two
or more zeros is left out. -/
def v6Text (groups : List Nat) : String :=
  match groups with
  | [0, 0, 0, 0, 0, 0xFFFF, a, b] =>
    "::ffff:" ++ v4Text [a / 256, a % 256, b / 256, b % 256]
  | _ =>
    let (start, length) := longestZeros groups
    if 1 < length then
      groupsText (groups.take start) ++ "::" ++ groupsText (groups.drop (start + length))
    else groupsText groups

/-- The text of an address. -/
def text (a : SocketAddress) : String :=
  let port := ":" ++ Decimal.ofNat a.port
  match a.ip with
  | .v4 bytes => v4Text bytes ++ port
  | .v6 groups 0 => "[" ++ v6Text groups ++ "]" ++ port
  | .v6 groups zone => "[" ++ v6Text groups ++ "%" ++ Decimal.ofNat zone ++ "]" ++ port

end SocketAddress

end Stevedore
