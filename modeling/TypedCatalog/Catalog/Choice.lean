import TypedCatalog.Json.Structure

/-!
# Choices

A field may be restricted to a list of permitted values, each with an optional label for display.
A choice is read from JSON text, where faults have a place, or decoded from a JSON value that has
been read before, where they have none.
-/

namespace TypedCatalog

open Json

/-- A permitted value of a field. -/
structure Choice where
  /-- The stored value. -/
  value : Value
  /-- The text shown for it. -/
  label : Option String
  deriving Repr

namespace Choice

/-- The text of the stored value: a string is its own text, any other value its JSON text. -/
def literal (choice : Choice) : String :=
  match choice.value with
  | .text s => s
  | value => value.compact

/-- The name of the record in messages. -/
def recordName : String := "Choice"

/-- The fields of a choice; `text` is another key for the label. -/
def slots : List (Reader.Slot Choice) := [
  { key := "value", otherKeys := [], required := true
    read := fun depth => do
      let value ← Reader.value depth
      return ({ · with value := value }) },
  { key := "label", otherKeys := ["text"], required := false
    read := fun _ => do
      let label ← Reader.optional Reader.string
      return ({ · with label := label }) }]

/-- Reads one choice from JSON text. -/
def parse (text : String) : Except Fault Choice :=
  (Reader.record recordName slots ⟨.null, none⟩ Reader.maxDepth).document text

/-- The JSON object of a choice. -/
def toValue (choice : Choice) : Value :=
  .object [("value", choice.value), ("label", (choice.label.map Value.text).getD .null)]

/-! ### Decoding from a value -/

/-- The label in a value. -/
def labelOf : Value → Except Reason (Option String)
  | .null => .ok none
  | .text s => .ok (some s)
  | value => .error (.mismatch value.found "a string")

/-- Decodes the members of an object one after the other; `value` and `label` are what has been
found so far. -/
def ofMembers (value : Option Value) (label : Option (Option String)) :
    List (String × Value) → Except Reason Choice
  | [] =>
    match value with
    | some value => .ok ⟨value, label.getD none⟩
    | none => .error (.missingField "value")
  | (key, member) :: rest =>
    if key = "value" then ofMembers (some member) label rest
    else if key = "label" ∨ key = "text" then
      if label.isSome then .error (.duplicateField "label")
      else do ofMembers value (some (← labelOf member)) rest
    else ofMembers value label rest

/-- Decodes the items of an array: the value, and a label if there is a second one. -/
def ofItems : List Value → Except Reason Choice
  | [] => .error (.tooShort 0 recordName 2)
  | [value] => .ok ⟨value, none⟩
  | value :: label :: rest => do
    let label ← labelOf label
    if rest.isEmpty then .ok ⟨value, label⟩ else .error (.tooLong (rest.length + 2))

/-- Decodes one choice. -/
def ofValue : Value → Except Reason Choice
  | .object members => ofMembers none none members
  | .list items => ofItems items
  | value => .error (.mismatch value.found ("struct " ++ recordName))

/-- Decodes a list of choices. -/
def listOfValue : Value → Except Reason (List Choice)
  | .list items => items.mapM ofValue
  | value => .error (.mismatch value.found "a sequence")

end Choice

end TypedCatalog
