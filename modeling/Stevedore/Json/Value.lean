import Stevedore.Decimal.Shortest
/-!
# JSON values and their compact text

Main definitions:

- `Json`: a JSON value. An integer of 64 bits is exact, any other number is a double. Members keep
  their order.
- `Json.render`: the text without blanks.
- `Json.quote`: a string literal; only quotes, backslashes and controls are escaped.
-/

namespace Stevedore

/-- A JSON value. -/
inductive Json where
  | null
  | boolean (b : Bool)
  | integer (n : Int)
  | real (x : Decimal.Double)
  | string (s : String)
  | array (items : List Json)
  | object (members : List (String × Json))
deriving Repr

namespace Json

/-! ## String literals -/

/-- The digit of a number below sixteen, lower case. -/
def hexDigit (n : Nat) : Char := if n < 10 then Char.ofNat (48 + n) else Char.ofNat (87 + n)

/-- The characters that stand for a character inside a literal. -/
def escape (c : Char) : List Char :=
  if c = '"' then ['\\', '"']
  else if c = '\\' then ['\\', '\\']
  else if c.toNat = 8 then ['\\', 'b']
  else if c.toNat = 9 then ['\\', 't']
  else if c.toNat = 10 then ['\\', 'n']
  else if c.toNat = 12 then ['\\', 'f']
  else if c.toNat = 13 then ['\\', 'r']
  else if c.toNat < 0x20 then
    ['\\', 'u', '0', '0', hexDigit (c.toNat / 16), hexDigit (c.toNat % 16)]
  else [c]

/-- The characters of a string literal. -/
def quoteChars (cs : List Char) : List Char := '"' :: cs.flatMap escape ++ ['"']

/-- The string literal of a text. -/
def quote (s : String) : String := String.ofList (quoteChars s.toList)

/-! ## Compact text -/

mutual

/-- The compact text of a value. -/
def render : Json → String
  | null => "null"
  | boolean b => if b then "true" else "false"
  | integer n => Decimal.ofInt n
  | real x => x.text
  | string s => quote s
  | array items => "[" ++ renderItems items ++ "]"
  | object members => "\x7b" ++ renderMembers members ++ "\x7d"

/-- The items of a list, separated by commas. -/
def renderItems : List Json → String
  | [] => ""
  | item :: rest =>
    if rest.isEmpty then render item else render item ++ "," ++ renderItems rest

/-- The members of an object, separated by commas. -/
def renderMembers : List (String × Json) → String
  | [] => ""
  | (key, value) :: rest =>
    if rest.isEmpty then quote key ++ ":" ++ render value
    else quote key ++ ":" ++ render value ++ "," ++ renderMembers rest

end

/-! ## Members that may be left out -/

/-- An object of the members that are present. -/
def ofMembers (members : List (String × Option Json)) : Json :=
  object (members.filterMap fun (key, value) => value.map (key, ·))

/-- A member that is always written. -/
def always (key : String) (value : Json) : String × Option Json := (key, some value)

/-- A member that is left out when it says nothing. -/
def omitIf (key : String) (silent : Bool) (value : Json) : String × Option Json :=
  (key, if silent then none else some value)

/-- A string, left out when it is empty. -/
def omitEmpty (key : String) (s : String) : String × Option Json :=
  omitIf key s.isEmpty (string s)

/-- A list, left out when it is empty. -/
def omitNil (key : String) (write : α → Json) (items : List α) : String × Option Json :=
  omitIf key items.isEmpty (array (items.map write))

/-- A value, left out when it is absent. -/
def whenPresent (key : String) (write : α → Json) (value : Option α) : String × Option Json :=
  (key, value.map write)

/-- The list of the written items. -/
def list (write : α → Json) (items : List α) : Json := array (items.map write)

/-- The value of an object's member; the last one counts when the key is repeated. -/
def member? : Json → String → Option Json
  | object members, key => (members.reverse.find? fun m => m.1 == key).map (·.2)
  | _, _ => none

end Json

end Stevedore
