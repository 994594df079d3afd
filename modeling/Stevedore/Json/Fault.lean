import Stevedore.Json.Value
import Stevedore.Text.Quoted
/-!
# What can be wrong with a JSON text

Main definitions:

- `Json.Fault`: the causes, `Json.Fault.message` their wording and `Json.Fault.category` the class
  a cause belongs to.
- `Json.Position`: a place in a text, by line and by bytes consumed of that line.
- `Json.ReadError`: a cause with the place that is reported for it.
-/

namespace Stevedore.Json

/-- What stood where something else was expected. -/
inductive Found where
  | null
  | boolean (b : Bool)
  | integer (n : Int)
  | real (x : Decimal.Double)
  | string (s : String)
  | sequence
  | map
  | bareVariant
deriving DecidableEq, Repr

/-- Names in grave accents. -/
def ticked (s : String) : String := "`" ++ s ++ "`"

/-- How a message names what was found. -/
def Found.describe : Found → String
  | .null => "null"
  | .boolean b => "boolean " ++ ticked (if b then "true" else "false")
  | .integer n => "integer " ++ ticked (Decimal.ofInt n)
  | .real x => "floating point " ++ ticked x.text
  | .string s => "string " ++ Text.quoted s
  | .sequence => "sequence"
  | .map => "map"
  | .bareVariant => "unit variant"

/-- Why a text was not read. -/
inductive Fault where
  | endInValue
  | endInList
  | endInObject
  | endInString
  | expectedValue
  | expectedIdent
  | expectedColon
  | expectedCommaOrBracket
  | expectedCommaOrBrace
  | keyNotString
  | trailingComma
  | trailingCharacters
  | invalidNumber
  | numberOutOfRange
  | invalidEscape
  | controlCharacter
  | loneSurrogate
  | endOfEscape
  | invalidCodePoint
  | tooDeep
  | wrongType (found : Found) (expected : String)
  | wrongValue (found : Found) (expected : String)
  | missingField (name : String)
  | repeatedField (name : String)
  | wrongLength (length : Nat) (expected : String)
  | unknownVariant (name : String) (known : List String)
deriving DecidableEq, Repr

/-- The classes of faults: the text ends early, it is not JSON, or it is JSON of another shape. -/
inductive Category where
  | eof
  | syntactic
  | data
deriving DecidableEq, Repr

/-- The class of a fault. -/
def Fault.category : Fault → Category
  | .endInValue | .endInList | .endInObject | .endInString => .eof
  | .wrongType .. | .wrongValue .. | .missingField _ | .repeatedField _ | .wrongLength ..
  | .unknownVariant .. => .data
  | _ => .syntactic

/-- How a message lists the variants it expected. -/
def expectedVariants : List String → String
  | [] => "there are no variants"
  | [a] => "expected " ++ ticked a
  | [a, b] => "expected " ++ ticked a ++ " or " ++ ticked b
  | names => "expected one of " ++ ", ".intercalate (names.map ticked)

/-- The wording of a fault. -/
def Fault.message : Fault → String
  | .endInValue => "EOF while parsing a value"
  | .endInList => "EOF while parsing a list"
  | .endInObject => "EOF while parsing an object"
  | .endInString => "EOF while parsing a string"
  | .expectedValue => "expected value"
  | .expectedIdent => "expected ident"
  | .expectedColon => "expected `:`"
  | .expectedCommaOrBracket => "expected `,` or `]`"
  | .expectedCommaOrBrace => "expected `,` or `\x7d`"
  | .keyNotString => "key must be a string"
  | .trailingComma => "trailing comma"
  | .trailingCharacters => "trailing characters"
  | .invalidNumber => "invalid number"
  | .numberOutOfRange => "number out of range"
  | .invalidEscape => "invalid escape"
  | .controlCharacter => "control character (\\u0000-\\u001F) found while parsing a string"
  | .loneSurrogate => "lone leading surrogate in hex escape"
  | .endOfEscape => "unexpected end of hex escape"
  | .invalidCodePoint => "invalid unicode code point"
  | .tooDeep => "recursion limit exceeded"
  | .wrongType found expected => "invalid type: " ++ found.describe ++ ", expected " ++ expected
  | .wrongValue found expected => "invalid value: " ++ found.describe ++ ", expected " ++ expected
  | .missingField name => "missing field " ++ ticked name
  | .repeatedField name => "duplicate field " ++ ticked name
  | .wrongLength length expected =>
    "invalid length " ++ Decimal.ofNat length ++ ", expected " ++ expected
  | .unknownVariant name known =>
    "unknown variant " ++ ticked name ++ ", " ++ expectedVariants known

/-- A place in a text: its line, from 1, and the number of bytes of that line before it. -/
structure Position where
  line : Nat := 1
  column : Nat := 0
deriving DecidableEq, Repr

/-- The place after one more byte. -/
def Position.after (p : Position) (b : UInt8) : Position :=
  if b = 10 then ⟨p.line + 1, 0⟩ else ⟨p.line, p.column + 1⟩

/-- The place some bytes back on the same line. -/
def Position.back (p : Position) (count : Nat) : Position := ⟨p.line, p.column - count⟩

/-- A fault with its place; a few faults have none. -/
structure ReadError where
  fault : Fault
  position : Option Position
deriving DecidableEq, Repr

/-- The wording of an error: the fault, and its place where there is one. -/
def ReadError.message (e : ReadError) : String :=
  match e.position with
  | none => e.fault.message
  | some p =>
    e.fault.message ++ " at line " ++ Decimal.ofNat p.line ++ " column " ++ Decimal.ofNat p.column

end Stevedore.Json
