/-!
# URIs

A URI is a path, an authority, or a scheme with an authority and a path. Only its form is looked at:
nothing is decoded.

Main definitions: `Uri`, `Uri.parse` and `Uri.path`.
-/

namespace Stevedore

/-- A URI in its parts; a part that is not there is empty. -/
structure Uri where
  scheme : Option (List Char) := none
  authority : List Char := []
  /-- The path and the query with its question mark. -/
  target : List Char := []
deriving DecidableEq, Repr

namespace Uri

/-- Why a text is no URI. -/
inductive Fault where
  | empty
  | tooLong
  | invalidCharacter
  | invalidAuthority
  | invalidFormat
  | schemeTooLong
deriving DecidableEq, Repr

/-- The wording of what is wrong with a URI. -/
def Fault.message : Fault → String
  | .empty => "empty string"
  | .tooLong => "uri too long"
  | .invalidCharacter => "invalid uri character"
  | .invalidAuthority => "invalid authority"
  | .invalidFormat => "invalid format"
  | .schemeTooLong => "scheme too long"

/-! ## Characters -/

/-- A character of a scheme. -/
def isSchemeChar (c : Char) : Bool := c.isAlphanum || c == '+' || c == '-' || c == '.' || c == '~'

/-- A character of an authority; brackets, colons and `@` included. -/
def isAuthorityChar (c : Char) : Bool :=
  c.isAlphanum || "!$&'()*+,-.:;=@[]_~".toList.contains c

/-- A character of a path. -/
def isPathChar (c : Char) : Bool :=
  let n := c.toNat
  n == 0x21 || (0x24 ≤ n && n ≤ 0x3B) || n == 0x3D || (0x40 ≤ n && n ≤ 0x5F) ||
    (0x61 ≤ n && n ≤ 0x7A) || n == 0x7C || n == 0x7E || 0x80 ≤ n ||
    c == '"' || c == '\x7b' || c == '\x7d'

/-- A character of a query. -/
def isQueryChar (c : Char) : Bool :=
  let n := c.toNat
  n == 0x21 || (0x24 ≤ n && n ≤ 0x3B) || n == 0x3D || (0x3F ≤ n && n ≤ 0x7E) || 0x80 ≤ n

/-! ## Path and query -/

/-- Checks a path and a query and cuts them off at the fragment. -/
def parseTarget (inQuery : Bool) : List Char → Except Fault (List Char)
  | [] => .ok []
  | c :: rest =>
    if c = '#' then .ok []
    else if !inQuery && c = '?' then (parseTarget true rest).map (c :: ·)
    else if if inQuery then isQueryChar c else isPathChar c then
      (parseTarget inQuery rest).map (c :: ·)
    else .error .invalidCharacter

/-! ## Scheme -/

/-- The greatest length of a scheme. -/
def maxScheme : Nat := 64

/-- Splits off a scheme and the `://` after it, if the text starts so and is not `://` alone. -/
def splitScheme (cs : List Char) : Except Fault (Option (List Char) × List Char) :=
  let scheme := cs.takeWhile isSchemeChar
  match cs.dropWhile isSchemeChar with
  | ':' :: '/' :: '/' :: rest =>
    if scheme.isEmpty && rest.isEmpty then .ok (none, cs)
    else if maxScheme < scheme.length then .error .schemeTooLong
    else .ok (some scheme, rest)
  | _ => .ok (none, cs)

/-! ## Authority -/

/-- What was seen of an authority. -/
structure AuthorityScan where
  colons : Nat := 0
  opened : Bool := false
  closed : Bool := false
  percent : Bool := false
  afterAt : Bool := false

/-- Looks at one more character of an authority. What stands before an `@` or inside brackets is not
counted. -/
def AuthorityScan.step (s : AuthorityScan) (c : Char) : Except Fault AuthorityScan :=
  let s' := { s with afterAt := false }
  if c = ':' then .ok { s' with colons := s.colons + 1 }
  else if c = '[' then
    if s.percent || s.opened then .error .invalidAuthority else .ok { s' with opened := true }
  else if c = ']' then
    if !s.opened || s.closed then .error .invalidAuthority
    else .ok { s' with closed := true, colons := 0, percent := false }
  else if c = '@' then .ok { s' with colons := 0, percent := false, afterAt := true }
  else if c = '%' then .ok { s' with percent := true }
  else if isAuthorityChar c then .ok s'
  else .error .invalidCharacter

/-- A scanned authority is well formed: brackets come in a pair, at most one colon stands before a
port, a host follows an `@`, and a percent sign stands only before one. -/
def AuthorityScan.wellFormed (s : AuthorityScan) : Bool :=
  s.opened == s.closed && s.colons ≤ 1 && !s.afterAt && !s.percent

/-- The most colons that are looked at: an address in brackets has seven, and one precedes a port.
-/
def maxColons : Nat := 8

/-- Scans the characters of an authority. After too many colons the rest is not looked at. -/
def scanAuthority (s : AuthorityScan) : List Char → Except Fault AuthorityScan
  | [] => .ok s
  | c :: rest =>
    if c = ':' ∧ maxColons ≤ s.colons then .ok s
    else
      match s.step c with
      | .ok s => scanAuthority s rest
      | .error e => .error e

/-- The character ends an authority. -/
def endsAuthority (c : Char) : Bool := c == '/' || c == '?' || c == '#'

/-- Splits a text after its authority. -/
def splitAuthority (cs : List Char) : Except Fault (List Char × List Char) :=
  let authority := cs.takeWhile fun c => !endsAuthority c
  match scanAuthority {} authority with
  | .error e => .error e
  | .ok s =>
    if s.wellFormed then .ok (authority, cs.dropWhile fun c => !endsAuthority c)
    else .error .invalidAuthority

/-! ## URIs -/

/-- Reads an absolute URI, or an authority alone. -/
def parseAbsolute (cs : List Char) : Except Fault Uri :=
  match splitScheme cs with
  | .error e => .error e
  | .ok (scheme, rest) =>
    if rest.isEmpty then .error .empty
    else
      match splitAuthority rest with
      | .error e => .error e
      | .ok (authority, rest) =>
        if scheme.isNone then
          if rest.isEmpty then .ok { authority } else .error .invalidFormat
        else if authority.isEmpty then .error .invalidFormat
        else
          match parseTarget false rest with
          | .error e => .error e
          | .ok target => .ok { scheme, authority, target }

/-- The greatest length of a URI in bytes. -/
def maxLength : Nat := 65534

/-- Reads a URI. -/
def parse (s : String) : Except Fault Uri :=
  if maxLength < s.utf8ByteSize then .error .tooLong
  else
    match s.toList with
    | [] => .error .empty
    | ['*'] => .ok { target := ['*'] }
    | '/' :: rest =>
      match parseTarget false ('/' :: rest) with
      | .error e => .error e
      | .ok target => .ok { target }
    | [c] =>
      match splitAuthority [c] with
      | .error e => .error e
      | .ok (authority, rest) =>
        if rest.isEmpty then .ok { authority } else .error .invalidCharacter
    | cs => parseAbsolute cs

/-- The path of a URI. A URI without path has the root as its path; an authority alone has none. -/
def path (u : Uri) : List Char :=
  if u.target.isEmpty && u.scheme.isNone then []
  else
    match u.target.takeWhile (· != '?') with
    | [] => ['/']
    | path => path

end Uri

end Stevedore
