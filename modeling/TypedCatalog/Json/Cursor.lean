import TypedCatalog.Json.Fault
import TypedCatalog.Text.Bytes

/-!
# Reading from left to right

A `Cursor` is what is left of a text, with the place that has been reached. A `Reader` takes a
cursor and gives a value and a cursor with no more text left, or a fault. That a reader never gives
text back is part of its type; the loops over items and characters end because of it.
-/

namespace TypedCatalog.Json

namespace Place

/-- The place after one character. -/
def after (place : Place) (c : Char) : Place :=
  if c = '\n' then ⟨place.line + 1, 0⟩ else ⟨place.line, place.column + c.utf8Size⟩

/-- The place after the first `n` bytes of a text, or at its end if it is shorter. -/
def afterBytes (place : Place) : (n : Nat) → List Char → Place
  | 0, _ => place
  | _ + 1, [] => place
  | n + 1, c :: rest =>
    if c.utf8Size ≤ n + 1 then (place.after c).afterBytes (n + 1 - c.utf8Size) rest
    else ⟨place.line, place.column + n + 1⟩

end Place

/-- The rest of a text and the place at which it begins. -/
structure Cursor where
  /-- Where the rest begins. -/
  place : Place
  /-- The text that has not been read. -/
  rest : List Char
  deriving Repr

namespace Cursor

/-- The cursor at the beginning of a text. -/
def start (text : String) : Cursor := ⟨⟨1, 0⟩, text.toList⟩

/-- The number of characters left. -/
def size (c : Cursor) : Nat := c.rest.length

/-- The cursor after one more character. -/
def eat (c : Cursor) : Cursor :=
  match c.rest with
  | [] => c
  | char :: rest => ⟨c.place.after char, rest⟩

/-- The cursor after four more characters. -/
def eatFour (c : Cursor) : Cursor := c.eat.eat.eat.eat

/-- The cursor after the characters that satisfy `p`, of which none is a line feed and each is one
byte long. -/
def eatWhile (p : Char → Bool) (c : Cursor) : Cursor :=
  ⟨⟨c.place.line, c.place.column + (c.rest.takeWhile p).length⟩, c.rest.dropWhile p⟩

/-- Whether a character may stand between the parts of a JSON text. -/
def isSpace (c : Char) : Bool :=
  c == ' ' || c == '\n' || c == '\r' || c == '\t'

/-- The cursor after the spaces of a text that begins at `place`. -/
def afterSpaces (place : Place) : List Char → Cursor
  | [] => ⟨place, []⟩
  | c :: rest => if isSpace c then afterSpaces (place.after c) rest else ⟨place, c :: rest⟩

/-- The cursor after the spaces that come next. -/
def skipSpaces (c : Cursor) : Cursor := afterSpaces c.place c.rest

/-- A fault at the cursor. -/
def fault (c : Cursor) (reason : Reason) : Fault := ⟨reason, c.place⟩

/-- A fault one byte after the cursor, or at the cursor if the text has ended. -/
def faultNext (c : Cursor) (reason : Reason) : Fault := ⟨reason, c.place.afterBytes 1 c.rest⟩

/-! ### How much is left -/

theorem size_eat (c : Cursor) : c.eat.size = c.size - 1 := by
  obtain ⟨place, _ | ⟨char, rest⟩⟩ := c <;> simp [eat, size]

theorem size_eat_le (c : Cursor) : c.eat.size ≤ c.size := by
  rw [size_eat]; omega

theorem size_eatFour_le (c : Cursor) : c.eatFour.size ≤ c.size := by
  simp only [eatFour, size_eat]; omega

/-- A cursor is no further back than itself. -/
theorem size_le_self (c : Cursor) : c.size ≤ c.size := Nat.le_refl _

theorem size_of_rest {c : Cursor} {char : Char} {rest : List Char} (h : c.rest = char :: rest) :
    c.size = rest.length + 1 := by
  simp [size, h]

theorem size_eat_lt {c : Cursor} {char : Char} {rest : List Char} (h : c.rest = char :: rest) :
    c.eat.size < c.size := by
  rw [size_eat, size_of_rest h]; omega

theorem size_eatWhile_le (p : Char → Bool) (c : Cursor) : (c.eatWhile p).size ≤ c.size :=
  (List.dropWhile_suffix p).length_le

theorem size_afterSpaces_le (place : Place) (text : List Char) :
    (afterSpaces place text).size ≤ text.length := by
  induction text generalizing place with
  | nil => simp [afterSpaces, size]
  | cons c rest ih =>
    rw [afterSpaces]
    split
    · exact Nat.le_trans (ih _) (Nat.le_succ _)
    · simp [size]

theorem size_skipSpaces_le (c : Cursor) : c.skipSpaces.size ≤ c.size :=
  size_afterSpaces_le _ _

end Cursor

/-- What a reader gives at cursor `c`: a value and a cursor that is no further back, or a fault. -/
abbrev Step (α : Type) (c : Cursor) : Type :=
  Except Fault { out : α × Cursor // out.2.size ≤ c.size }

/-- A step from a later cursor is a step from an earlier one. -/
def Step.since {α : Type} {c d : Cursor} (h : d.size ≤ c.size) : Step α d → Step α c
  | .error fault => .error fault
  | .ok ⟨out, hout⟩ => .ok ⟨out, Nat.le_trans hout h⟩

/-- Something that reads a value of type `α` off the front of a text. -/
def Reader (α : Type) : Type := (c : Cursor) → Step α c

namespace Reader

instance : Monad Reader where
  pure a := fun c => .ok ⟨(a, c), Nat.le_refl _⟩
  bind read next := fun c =>
    match read c with
    | .error fault => .error fault
    | .ok ⟨(a, d), h⟩ => (next a d).since h

/-- The next character, which is left where it is. -/
def peek : Reader (Option Char) := fun c => .ok ⟨(c.rest.head?, c), Nat.le_refl _⟩

/-- Takes the next character. -/
def eat : Reader Unit := fun c => .ok ⟨((), c.eat), c.size_eat_le⟩

/-- Takes the spaces that come next. -/
def spaces : Reader Unit := fun c => .ok ⟨((), c.skipSpaces), c.size_skipSpaces_le⟩

/-- Takes the decimal digits that come next. -/
def digits : Reader (List Char) := fun c =>
  .ok ⟨(c.rest.takeWhile Char.isDigit, c.eatWhile Char.isDigit), c.size_eatWhile_le _⟩

/-- The place that has been reached. -/
def place : Reader Place := fun c => .ok ⟨(c.place, c), Nat.le_refl _⟩

/-- Fails at the given place. -/
def failAt {α : Type} (place : Place) (reason : Reason) : Reader α :=
  fun _ => .error ⟨reason, place⟩

/-- Fails at this place. -/
def failHere {α : Type} (reason : Reason) : Reader α := fun c => .error (c.fault reason)

/-- Fails one byte further on, or at this place if the text has ended. -/
def failNext {α : Type} (reason : Reason) : Reader α := fun c => .error (c.faultNext reason)

end Reader

end TypedCatalog.Json
