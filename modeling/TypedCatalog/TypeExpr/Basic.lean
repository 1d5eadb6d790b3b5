import TypedCatalog.TypeExpr.Literal

/-!
# Type expressions

The types that a declaration gives to its members, and their text. `TypeExpr.unionOf` joins types
into a union without putting unions inside each other, and `TypeExpr.orNull` widens a type by null
once.
-/

namespace TypedCatalog

/-- A type that is a word of its own. -/
inductive Keyword where
  /-- Truth values. -/
  | boolean
  /-- Numbers. -/
  | number
  /-- Strings. -/
  | string
  /-- Any value. -/
  | any
  /-- No value, for fields that have no type. -/
  | never
  /-- The null value. -/
  | null
  deriving DecidableEq, Repr

/-- The word of a keyword type. -/
def Keyword.text : Keyword → String
  | boolean => "boolean"
  | number => "number"
  | string => "string"
  | any => "any"
  | never => "never"
  | null => "null"

/-- A type expression. -/
inductive TypeExpr where
  /-- A keyword type. -/
  | keyword (word : Keyword)
  /-- A declared type. -/
  | reference (identifier : String)
  /-- The type of the property `key` of a declared type. -/
  | indexedAccess (object key : String)
  /-- The type of one string. -/
  | literal (text : String)
  /-- Arrays of items of one type. -/
  | array (item : TypeExpr)
  /-- The values of any of the members. -/
  | union (members : List TypeExpr)
  deriving BEq, Repr, Inhabited

namespace TypeExpr

/-- The type of truth values. -/
abbrev boolean : TypeExpr := keyword .boolean

/-- The type of numbers. -/
abbrev number : TypeExpr := keyword .number

/-- The type of strings. -/
abbrev string : TypeExpr := keyword .string

/-- The type of any value. -/
abbrev any : TypeExpr := keyword .any

/-- The type without values. -/
abbrev never : TypeExpr := keyword .never

/-- The type of null. -/
abbrev null : TypeExpr := keyword .null

/-- The members of a union; any other type is its own only member. -/
def members : TypeExpr → List TypeExpr
  | union members => members
  | other => [other]

/-- The union with the given members, a single one of which stands for itself. -/
def ofMembers : List TypeExpr → TypeExpr
  | [only] => only
  | members => union members

/-- The union of types: the members of unions among them become members, and a single member
stands for itself. -/
def unionOf (types : List TypeExpr) : TypeExpr :=
  ofMembers (types.flatMap members)

/-- Whether a type is the type of null. -/
def isNull : TypeExpr → Bool
  | keyword .null => true
  | _ => false

/-- Whether null is one of the members. -/
def hasNull (type : TypeExpr) : Bool :=
  type.members.any isNull

/-- The type widened by null, unless null is a member already. -/
def orNull (type : TypeExpr) : TypeExpr :=
  if type.hasNull then type else unionOf [type, null]

/-- Whether a type is a union. -/
def isUnion : TypeExpr → Bool
  | union _ => true
  | _ => false

/-! ### Text -/

/-- The text of an array type, given that of its items; a union needs parentheses. -/
def arrayText (item : TypeExpr) (text : String) : String :=
  if item.isUnion then "(" ++ text ++ ")[]" else text ++ "[]"

mutual

/-- The text of a type. -/
def text : TypeExpr → String
  | keyword word => word.text
  | reference identifier => identifier
  | indexedAccess object key => object ++ "[\"" ++ escaped key doubleQuote ++ "\"]"
  | literal text => "'" ++ escaped text singleQuote ++ "'"
  | array item => arrayText item item.text
  | union [] => ""
  | union (first :: rest) => first.text ++ furtherText rest

/-- The text of the further members of a union. -/
def furtherText : List TypeExpr → String
  | [] => ""
  | member :: rest => " | " ++ member.text ++ furtherText rest

end

end TypeExpr

end TypedCatalog
