import TypedCatalog.Json.Skip

/-!
# Arrays, objects and records

Readers for the JSON values that hold others. `value` reads a value of any kind. A record is read
from an object with its fields as keys or from an array with its fields in order; its fields are
described by `Slot`s. Brackets that are built may stand inside each other up to `maxDepth`.

When the contents of a bracket fail for a reason that has no place of its own, such as a missing
field, the closing bracket is looked for all the same, and the fault is placed after it.
-/

namespace TypedCatalog.Json

namespace Reader

/-! ### Items and members -/

/-- Whether an array that has just been opened has an item. -/
def firstItem : Reader Bool := do
  spaces
  match ← peek with
  | none => failNext .endInList
  | some c => pure (c != ']')

/-- Takes the opening quote of the first key of an object that has just been opened, if it has a
member. -/
def firstKey : Reader Bool := do
  spaces
  match ← peek with
  | none => failNext .endInObject
  | some c =>
    if c = '\x7d' then pure false
    else if c = '\x22' then
      eat
      pure true
    else failNext .keyNotText

/-- Takes the spaces before the next item of an array, a comma having been taken. -/
def itemStart : Reader Unit := do
  spaces
  match ← peek with
  | none => failNext .endBeforeValue
  | some c => if c = ']' then failNext .trailingComma

/-- Takes the opening quote of the next key of an object, a comma having been taken. -/
def keyStart : Reader Unit := do
  spaces
  match ← peek with
  | none => failNext .endBeforeValue
  | some c =>
    if c = '\x22' then eat
    else if c = '\x7d' then failNext .trailingComma
    else failNext .keyNotText

/-- What follows a part of an array or object. -/
inductive Following (c : Cursor) where
  /-- The closing bracket. -/
  | done (d : Cursor) (h : d.size ≤ c.size)
  /-- Another part, after a comma. -/
  | more (d : Cursor) (h : d.size < c.size)

/-- Looks for the closing bracket or for a comma, after which `start` takes what must come before
the next part. -/
def following (bracket : Bracket) (start : Reader Unit) (c : Cursor) :
    Except Fault (Following c) :=
  let d := c.skipSpaces
  have hd : d.size ≤ c.size := c.size_skipSpaces_le
  match hrest : d.rest with
  | [] => .error (d.faultNext bracket.endReason)
  | char :: _ =>
    if char = bracket.closing then .ok (.done d hd)
    else if char = ',' then
      match start d.eat with
      | .error fault => .error fault
      | .ok ⟨(_, e), he⟩ =>
        .ok (.more e (Nat.lt_of_le_of_lt he (Nat.lt_of_lt_of_le (Cursor.size_eat_lt hrest) hd)))
    else .error (d.faultNext bracket.commaReason)

/-- Takes the colon after a key. -/
def colon : Reader Unit := do
  spaces
  match ← peek with
  | none => failNext .endInObject
  | some c => if c = ':' then eat else failNext .colonExpected

/-- Whether another item follows in an array; the comma before it is taken. -/
def nextItem : Reader Bool := fun c =>
  match following .list itemStart c with
  | .error fault => .error fault
  | .ok (.done d hd) => .ok ⟨(false, d), hd⟩
  | .ok (.more d hd) => .ok ⟨(true, d), Nat.le_of_lt hd⟩

/-- Reads on with `body` as long as there are more parts; `state` is what has been made of
everything so far. -/
def loopFrom {σ : Type} (bracket : Bracket) (next : Reader Unit)
    (body : σ → Reader (Except Reason σ)) (start : Cursor) (state : σ) (c : Cursor)
    (h : c.size ≤ start.size) : Step (Except Reason σ) start :=
  match following bracket next c with
  | .error fault => .error fault
  | .ok (.done d hd) => .ok ⟨(.ok state, d), Nat.le_trans hd h⟩
  | .ok (.more d hd) =>
    match body state d with
    | .error fault => .error fault
    | .ok ⟨(.error reason, e), he⟩ =>
      .ok ⟨(.error reason, e), Nat.le_trans he (Nat.le_trans (Nat.le_of_lt hd) h)⟩
    | .ok ⟨(.ok state', e), he⟩ =>
      loopFrom bracket next body start state' e
        (Nat.le_trans he (Nat.le_trans (Nat.le_of_lt hd) h))
termination_by c.size
decreasing_by exact Nat.lt_of_le_of_lt he hd

/-- Reads a first part with `body` if `first` says that there is one, and then further ones, each
after a comma and `next`. -/
def loop {σ : Type} (bracket : Bracket) (first : Reader Bool) (next : Reader Unit)
    (body : σ → Reader (Except Reason σ)) (state : σ) : Reader (Except Reason σ) := do
  if ← first then
    match ← body state with
    | .error reason => pure (.error reason)
    | .ok state' => fun c => loopFrom bracket next body c state' c c.size_le_self
  else pure (.ok state)

/-- Reads the items of an array up to its closing bracket. -/
def items {α : Type} (item : Reader α) : Reader (Except Reason (List α)) := do
  let read ← loop .list firstItem itemStart (fun read => do return .ok ((← item) :: read)) []
  return read.map List.reverse

/-- Reads the members of an object up to its closing brace; `member` goes on after each key. -/
def members {σ : Type} (member : String → σ → Reader (Except Reason σ)) (state : σ) :
    Reader (Except Reason σ) :=
  loop .object firstKey keyStart (fun state => do member (← text) state) state

/-! ### Brackets -/

/-- Looks for the closing bracket: the fault if it does not come next, and what has been taken. -/
def close (bracket : Bracket) (c : Cursor) : Option Fault × { d : Cursor // d.size ≤ c.size } :=
  let d := c.skipSpaces
  have hd : d.size ≤ c.size := c.size_skipSpaces_le
  match d.rest with
  | [] => (some (d.faultNext bracket.endReason), ⟨d, hd⟩)
  | char :: _ =>
    if char = bracket.closing then (none, ⟨d.eat, Nat.le_trans d.size_eat_le hd⟩)
    else if char = ',' then
      match bracket with
      | .object => (some (d.faultNext .trailingComma), ⟨d, hd⟩)
      | .list =>
        let e := d.eat.skipSpaces
        have he : e.size ≤ c.size :=
          Nat.le_trans d.eat.size_skipSpaces_le (Nat.le_trans d.size_eat_le hd)
        let reason :=
          if e.rest.head? = some ']' then Reason.trailingComma else Reason.trailingCharacters
        (some (e.faultNext reason), ⟨e, he⟩)
    else (some (d.faultNext .trailingCharacters), ⟨d, hd⟩)

/-- Takes the opening bracket, reads `contents` and takes the closing bracket. -/
def enclosed {α : Type} (bracket : Bracket) (contents : Reader (Except Reason α)) : Reader α :=
  fun c =>
    match contents c.eat with
    | .error fault => .error fault
    | .ok ⟨(result, d), hd⟩ =>
      match result, close bracket d with
      | .error reason, (_, ⟨e, _⟩) => .error (e.fault reason)
      | .ok _, (some fault, _) => .error fault
      | .ok a, (none, ⟨e, he⟩) =>
        .ok ⟨(a, e), Nat.le_trans he (Nat.le_trans hd c.size_eat_le)⟩

/-! ### Values of any kind -/

/-- How many brackets may stand inside each other. -/
def maxDepth : Nat := 127

/-- Reads a value; `list` and `object` read one that begins with a bracket, from that bracket
on. -/
def valueOf (list object : Reader Value) : Reader Value := do
  spaces
  match ← peek with
  | none => failNext .endBeforeValue
  | some c =>
    if c = 'n' then
      eat
      literal ['u', 'l', 'l']
      pure .null
    else if c = 't' then
      eat
      literal ['r', 'u', 'e']
      pure (.boolean true)
    else if c = 'f' then
      eat
      literal ['a', 'l', 's', 'e']
      pure (.boolean false)
    else if c = '-' then
      eat
      return .number (← number true)
    else if c.isDigit then return .number (← number false)
    else if c = '\x22' then
      eat
      return .text (← text)
    else if c = '[' then list
    else if c = '\x7b' then object
    else failNext .valueExpected

/-- Reads a value of any kind with up to `depth` brackets inside each other. -/
def value : (depth : Nat) → Reader Value
  | 0 => valueOf (failNext .tooDeep) (failNext .tooDeep)
  | depth + 1 =>
    valueOf (Value.list <$> enclosed .list (items (value depth)))
      (Value.object <$> enclosed .object (members (fun key read => do
        colon
        return .ok (putMember key (← value depth) read)) []))

/-! ### Values of a given kind -/

/-- Fails because the next value is not of the kind `expected`. A value without brackets is read
first, and what is wrong with it counts more. -/
def mismatch {α : Type} (expected : String) : Reader α := do
  let found ← fun c =>
    match c.rest.head? with
    | some '[' => .ok ⟨(Found.sequence, c), Nat.le_refl _⟩
    | some '\x7b' => .ok ⟨(Found.map, c), Nat.le_refl _⟩
    | _ => (Value.found <$> value 0) c
  failHere (.mismatch found expected)

/-- Reads a value of a kind that begins with the character `opening`; `read` goes on from that
character. -/
def beginning {α : Type} (opening : Char) (expected : String) (read : Reader α) : Reader α := do
  spaces
  match ← peek with
  | none => failNext .endBeforeValue
  | some c => if c = opening then read else mismatch expected

/-- Reads a string. -/
def string : Reader String :=
  beginning '\x22' "a string" do
    eat
    text

/-- Reads a truth value. -/
def flag : Reader Bool := do
  spaces
  match ← peek with
  | none => failNext .endBeforeValue
  | some c =>
    if c = 't' then
      eat
      literal ['r', 'u', 'e']
      pure true
    else if c = 'f' then
      eat
      literal ['a', 'l', 's', 'e']
      pure false
    else mismatch "a boolean"

/-- Reads a value that may be `null`. -/
def optional {α : Type} (read : Reader α) : Reader (Option α) := do
  spaces
  match ← peek with
  | none => failNext .endBeforeValue
  | some c =>
    if c = 'n' then
      eat
      literal ['u', 'l', 'l']
      pure none
    else return some (← read)

/-- One level deeper, or a failure if there is none left. -/
def deeper {α : Type} (depth : Nat) (read : (depth : Nat) → Reader α) : Reader α :=
  match depth with
  | 0 => failNext .tooDeep
  | depth + 1 => read depth

/-- Reads an array of items of one kind. -/
def listOf {α : Type} (item : (depth : Nat) → Reader α) (depth : Nat) : Reader (List α) :=
  beginning '[' "a sequence" (deeper depth fun depth => enclosed .list (items (item depth)))

/-! ### Records -/

/-- A field of a record that is being put together in a value of type `σ`. -/
structure Slot (σ : Type) where
  /-- The key of the field. -/
  key : String
  /-- Other keys that mean the same field. -/
  otherKeys : List String
  /-- Whether the field must be there. -/
  required : Bool
  /-- Reads the field's value; gives what that makes of the record. -/
  read : (depth : Nat) → Reader (σ → σ)

/-- Reads a record from the items of an array, one for each slot and in their order. -/
def slotsInOrder {σ : Type} (name : String) (size depth : Nat) :
    (index : Nat) → List (Slot σ) → σ → Reader (Except Reason σ)
  | _, [], record => pure (.ok record)
  | index, slot :: rest, record => do
    if ← (if index = 0 then firstItem else nextItem) then
      let change ← slot.read depth
      slotsInOrder name size depth (index + 1) rest (change record)
    else if slot.required then pure (.error (.tooShort index name size))
    else slotsInOrder name size depth (index + 1) rest record

/-- Reads a record from the members of an object. A slot is filled once, and the value of a key that
belongs to no slot is skipped. -/
def slotsByKey {σ : Type} (slots : List (Slot σ)) (depth : Nat) (start : σ) :
    Reader (Except Reason σ) := do
  let member (key : String) (state : List String × σ) :
      Reader (Except Reason (List String × σ)) := do
    match slots.find? (fun slot => slot.key == key || slot.otherKeys.contains key) with
    | none =>
      colon
      skip
      return .ok state
    | some slot =>
      if state.1.contains slot.key then return .error (.duplicateField slot.key)
      else
        colon
        let change ← slot.read depth
        return .ok (slot.key :: state.1, change state.2)
  match ← members member ([], start) with
  | .error reason => return .error reason
  | .ok (filled, record) =>
    match slots.find? (fun slot => slot.required && !filled.contains slot.key) with
    | some slot => return .error (.missingField slot.key)
    | none => return .ok record

/-- Reads a record with the given slots; `start` is the record with no slot filled. -/
def record {σ : Type} (name : String) (slots : List (Slot σ)) (start : σ) (depth : Nat) :
    Reader σ := do
  spaces
  match ← peek with
  | none => failNext .endBeforeValue
  | some c =>
    if c = '[' then
      deeper depth fun depth =>
        enclosed .list (slotsInOrder name slots.length depth 0 slots start)
    else if c = '\x7b' then
      deeper depth fun depth => enclosed .object (slotsByKey slots depth start)
    else mismatch ("struct " ++ name)

/-- Reads a whole text: one value and nothing but spaces after it. -/
def document {α : Type} (read : Reader α) (text : String) : Except Fault α :=
  let whole : Reader α := do
    let a ← read
    spaces
    match ← peek with
    | none => pure a
    | some _ => failNext .trailingCharacters
  match whole (Cursor.start text) with
  | .error fault => .error fault
  | .ok ⟨(a, _), _⟩ => .ok a

end Reader

/-- Reads a JSON text with one value of any kind. -/
def Value.parse (text : String) : Except Fault Value :=
  (Reader.value Reader.maxDepth).document text

end TypedCatalog.Json
