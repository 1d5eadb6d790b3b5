import TypedCatalog.Json.Decimal
import TypedCatalog.Json.Value

/-!
# Compact JSON text

`Value.compact` writes a value without spaces. Of the characters of a string only the quote, the
backslash and the controls below the space are escaped.
-/

namespace TypedCatalog.Json

/-- One character of a JSON string. -/
def stringChar (c : Char) : List Char :=
  match c with
  | '\x22' => ['\\', '\x22']
  | '\\' => ['\\', '\\']
  | '\x08' => ['\\', 'b']
  | '\x0c' => ['\\', 'f']
  | '\n' => ['\\', 'n']
  | '\r' => ['\\', 'r']
  | '\t' => ['\\', 't']
  | c => if c.toNat < 0x20 then ['\\', 'u'] ++ Text.hexFixed 4 c.toNat else [c]

/-- A JSON string. -/
def stringText (s : String) : String :=
  String.ofList ('\x22' :: s.toList.flatMap stringChar ++ ['\x22'])

/-- A JSON number. -/
def Number.text : Number → String
  | .natural n => String.ofList (Text.decimal n)
  | .negative n => String.ofList ('-' :: Text.decimal n)
  | .real d => String.ofList d.text

mutual

/-- The text of a value, without spaces. -/
def Value.compact : Value → String
  | .null => "null"
  | .boolean true => "true"
  | .boolean false => "false"
  | .number n => n.text
  | .text s => stringText s
  | .list [] => "[]"
  | .list (item :: items) => "[" ++ item.compact ++ compactItems items ++ "]"
  | .object [] => "\x7b\x7d"
  | .object ((key, value) :: members) =>
    "\x7b" ++ stringText key ++ ":" ++ value.compact ++ compactMembers members ++ "\x7d"

/-- The further items of an array, each after a comma. -/
def compactItems : List Value → String
  | [] => ""
  | item :: items => "," ++ item.compact ++ compactItems items

/-- The further members of an object, each after a comma. -/
def compactMembers : List (String × Value) → String
  | [] => ""
  | (key, value) :: members =>
    "," ++ stringText key ++ ":" ++ value.compact ++ compactMembers members

end

end TypedCatalog.Json
