import TypedCatalog.Json.Double

/-!
# JSON values

A number keeps the form in which it was written as far as a reader can tell: a whole number of 64
bits, or a double. The members of an object stay in the order in which their keys first came.
-/

namespace TypedCatalog.Json

/-- A JSON number. -/
inductive Number where
  /-- A whole number from zero to `2 ^ 64 - 1`. -/
  | natural (n : Nat)
  /-- A whole number below zero, `-n`, with `n` at most `2 ^ 63`. -/
  | negative (n : Nat)
  /-- Any other number, as the double it is read as. -/
  | real (d : Double)
  deriving DecidableEq, Repr

/-- A JSON value. -/
inductive Value where
  /-- The literal `null`. -/
  | null
  /-- A truth value. -/
  | boolean (b : Bool)
  /-- A number. -/
  | number (n : Number)
  /-- A string. -/
  | text (s : String)
  /-- An array. -/
  | list (items : List Value)
  /-- An object. -/
  | object (members : List (String × Value))
  deriving Repr, Inhabited

/-- The members with `value` under `key`: in the place of the value that was there, or at the
end. -/
def putMember (key : String) (value : Value) : List (String × Value) → List (String × Value)
  | [] => [(key, value)]
  | (k, v) :: rest => if k = key then (key, value) :: rest else (k, v) :: putMember key value rest

/-- The value under `key`, if the value is an object with such a member. -/
def Value.member? (key : String) : Value → Option Value
  | .object members => (members.find? (·.1 == key)).map (·.2)
  | _ => none

end TypedCatalog.Json
