/-!
# Kinds of fields

The type that a schema gives a field. A schema's name for a type always denotes a kind, and the
kind keeps the name: a name that is not known denotes the kind `unknown` with that name.
-/

namespace TypedCatalog

/-- The type of a field in the schema. -/
inductive Kind where
  /-- True or false. -/
  | boolean
  /-- An integer of 32 bits. -/
  | integer
  /-- An integer of 64 bits. -/
  | bigInteger
  /-- A floating point number. -/
  | float
  /-- A number with fixed places. -/
  | decimal
  /-- A date with a time, without a zone. -/
  | dateTime
  /-- A date. -/
  | date
  /-- A time of day. -/
  | time
  /-- A date with a time and a zone. -/
  | timestamp
  /-- A long text. -/
  | text
  /-- A short text. -/
  | string
  /-- A universally unique identifier. -/
  | uuid
  /-- A hashed text. -/
  | hash
  /-- Any JSON value. -/
  | json
  /-- Values separated by commas. -/
  | csv
  /-- A field without a column, the place of the other side of a relation. -/
  | aliasField
  /-- Bytes. -/
  | binary
  /-- A geometry, of some subtype or of any. -/
  | geometry (subtype : Option String)
  /-- A type that is not known. -/
  | unknown (name : String)
  deriving DecidableEq, Repr

namespace Kind

/-- The kinds with one name each. -/
def named : List (Kind × String) := [
  (boolean, "boolean"), (integer, "integer"), (bigInteger, "bigInteger"), (float, "float"),
  (decimal, "decimal"), (dateTime, "dateTime"), (date, "date"), (time, "time"),
  (timestamp, "timestamp"), (text, "text"), (string, "string"), (uuid, "uuid"), (hash, "hash"),
  (json, "json"), (csv, "csv"), (aliasField, "alias"), (binary, "binary"),
  (geometry none, "geometry")]

/-- What comes before the subtype in the name of a geometry. -/
def geometryMark : String := "geometry."

/-- The subtype in the name of a geometry that has one. -/
def geometrySubtype? (name : String) : Option String :=
  if geometryMark.toList.isPrefixOf name.toList then
    some (String.ofList (name.toList.drop geometryMark.length))
  else none

/-- The kind that a schema's type name denotes. -/
def ofName (name : String) : Kind :=
  match named.find? (·.2 == name) with
  | some (kind, _) => kind
  | none =>
    match geometrySubtype? name with
    | some subtype => geometry (some subtype)
    | none => unknown name

/-- The schema's name for a kind. -/
def name : Kind → String
  | boolean => "boolean"
  | integer => "integer"
  | bigInteger => "bigInteger"
  | float => "float"
  | decimal => "decimal"
  | dateTime => "dateTime"
  | date => "date"
  | time => "time"
  | timestamp => "timestamp"
  | text => "text"
  | string => "string"
  | uuid => "uuid"
  | hash => "hash"
  | json => "json"
  | csv => "csv"
  | aliasField => "alias"
  | binary => "binary"
  | geometry none => "geometry"
  | geometry (some subtype) => geometryMark ++ subtype
  | unknown name => name

/-- Whether values of the kind are numbers. -/
def isNumeric : Kind → Bool
  | integer | bigInteger | float | decimal => true
  | _ => false

/-- Whether values of the kind are dates or times. -/
def isTemporal : Kind → Bool
  | dateTime | date | time | timestamp => true
  | _ => false

/-- Whether fields of the kind have no column. -/
def isAlias : Kind → Bool
  | aliasField => true
  | _ => false

/-- The table of names agrees with the names. -/
theorem name_of_mem_named {kind : Kind} {s : String} (h : (kind, s) ∈ named) : kind.name = s := by
  have : ∀ entry ∈ named, entry.1.name = entry.2 := by decide
  exact this _ h

end Kind

end TypedCatalog
