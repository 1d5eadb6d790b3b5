import TypedCatalog.Json.Printer
import TypedCatalog.Text.Quoted

/-!
# What can be wrong with a JSON text

A `Reason` is a cause: a break of the grammar, a value of the wrong kind, or a record with the
wrong fields. A `Fault` is a reason with a place. The wording of both is in `Reason.message` and
`Fault.message`.
-/

namespace TypedCatalog.Json

/-- A value that stands where another kind was expected. -/
inductive Found where
  /-- The literal `null`. -/
  | null
  /-- A truth value. -/
  | boolean (b : Bool)
  /-- A number. -/
  | number (n : Number)
  /-- A string. -/
  | text (s : String)
  /-- Some array. -/
  | sequence
  /-- Some object. -/
  | map
  deriving DecidableEq, Repr

/-- The kind of a value, as a message tells it. -/
def Value.found : Value → Found
  | .null => .null
  | .boolean b => .boolean b
  | .number n => .number n
  | .text s => .text s
  | .list _ => .sequence
  | .object _ => .map

/-- How a message names a value. -/
def Found.description : Found → String
  | .null => "null"
  | .boolean true => "boolean `true`"
  | .boolean false => "boolean `false`"
  | .number (.real d) => "floating point `" ++ (Number.real d).text ++ "`"
  | .number n => "integer `" ++ n.text ++ "`"
  | .text s => "string " ++ Text.quoted s
  | .sequence => "sequence"
  | .map => "map"

/-- Why a text is not the JSON that was expected. -/
inductive Reason where
  /-- The text ends before a value. -/
  | endBeforeValue
  /-- The text ends inside an array. -/
  | endInList
  /-- The text ends inside an object. -/
  | endInObject
  /-- The text ends inside a string. -/
  | endInText
  /-- A key without a colon after it. -/
  | colonExpected
  /-- An item of an array with neither a comma nor the end after it. -/
  | commaOrListEndExpected
  /-- A member of an object with neither a comma nor the end after it. -/
  | commaOrObjectEndExpected
  /-- A misspelled literal. -/
  | literalExpected
  /-- A character that begins no value. -/
  | valueExpected
  /-- An unknown escape in a string. -/
  | badEscape
  /-- A number that breaks the grammar. -/
  | badNumber
  /-- A number beyond the doubles. -/
  | numberOutOfRange
  /-- A control character inside a string. -/
  | controlCharacter
  /-- A key that is not a string. -/
  | keyNotText
  /-- One half of a surrogate pair without its partner. -/
  | loneSurrogate
  /-- A first half of a surrogate pair without an escape after it. -/
  | endOfHexEscape
  /-- A comma before a closing bracket. -/
  | trailingComma
  /-- More text after the end. -/
  | trailingCharacters
  /-- Too many brackets inside each other. -/
  | tooDeep
  /-- A value of another kind than expected. -/
  | mismatch (found : Found) (expected : String)
  /-- A record written as an array with too few items. -/
  | tooShort (length : Nat) (record : String) (size : Nat)
  /-- A record written as an array with too many items. -/
  | tooLong (length : Nat)
  /-- A field that comes twice. -/
  | duplicateField (name : String)
  /-- A field that does not come. -/
  | missingField (name : String)
  deriving DecidableEq, Repr

/-- A natural number in decimal digits, as a string. -/
def countText (n : Nat) : String := String.ofList (Text.decimal n)

/-- The wording of a reason. -/
def Reason.message : Reason → String
  | .endBeforeValue => "EOF while parsing a value"
  | .endInList => "EOF while parsing a list"
  | .endInObject => "EOF while parsing an object"
  | .endInText => "EOF while parsing a string"
  | .colonExpected => "expected `:`"
  | .commaOrListEndExpected => "expected `,` or `]`"
  | .commaOrObjectEndExpected => "expected `,` or `\x7d`"
  | .literalExpected => "expected ident"
  | .valueExpected => "expected value"
  | .badEscape => "invalid escape"
  | .badNumber => "invalid number"
  | .numberOutOfRange => "number out of range"
  | .controlCharacter => "control character (\\u0000-\\u001F) found while parsing a string"
  | .keyNotText => "key must be a string"
  | .loneSurrogate => "lone leading surrogate in hex escape"
  | .endOfHexEscape => "unexpected end of hex escape"
  | .trailingComma => "trailing comma"
  | .trailingCharacters => "trailing characters"
  | .tooDeep => "recursion limit exceeded"
  | .mismatch found expected => "invalid type: " ++ found.description ++ ", expected " ++ expected
  | .tooShort length record size =>
    "invalid length " ++ countText length ++ ", expected struct " ++ record ++ " with " ++
      countText size ++ (if size = 1 then " element" else " elements")
  | .tooLong length =>
    "invalid length " ++ countText length ++ ", expected fewer elements in array"
  | .duplicateField name => "duplicate field `" ++ name ++ "`"
  | .missingField name => "missing field `" ++ name ++ "`"

/-- A place in a text. -/
structure Place where
  /-- The line, the first being 1. -/
  line : Nat
  /-- The number of bytes of that line before the place. -/
  column : Nat
  deriving DecidableEq, Repr

/-- A reason and the place at which it was noticed. -/
structure Fault where
  /-- What is wrong. -/
  reason : Reason
  /-- Where. -/
  place : Place
  deriving DecidableEq, Repr

/-- The wording of a fault. -/
def Fault.message (fault : Fault) : String :=
  fault.reason.message ++ " at line " ++ countText fault.place.line ++ " column " ++
    countText fault.place.column

end TypedCatalog.Json
