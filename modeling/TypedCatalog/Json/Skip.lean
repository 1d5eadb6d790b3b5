import TypedCatalog.Json.Scalar

/-!
# Skipping a value

The value of an unknown key is checked for its grammar and not built. Brackets may be nested as
deep as they like: the open ones are kept in a list.
-/

namespace TypedCatalog.Json

/-- The two kinds of brackets. -/
inductive Bracket where
  /-- The brackets of an array. -/
  | list
  /-- The braces of an object. -/
  | object
  deriving DecidableEq, Repr

namespace Bracket

/-- The closing character. -/
def closing : Bracket → Char
  | .list => ']'
  | .object => '\x7d'

/-- The reason given where the text ends inside. -/
def endReason : Bracket → Reason
  | .list => .endInList
  | .object => .endInObject

/-- The reason given where neither a comma nor the end follows. -/
def commaReason : Bracket → Reason
  | .list => .commaOrListEndExpected
  | .object => .commaOrObjectEndExpected

end Bracket

namespace Reader

/-- Checks the rest of a string up to its closing quote. Escapes with a number are not checked for
surrogates. -/
def skipTextFrom (start : Cursor) (c : Cursor) (h : c.size ≤ start.size) : Step Unit start :=
  match _hrest : c.rest with
  | [] => .error (c.fault .endInText)
  | char :: _ =>
    if char = '\x22' then .ok ⟨((), c.eat), Nat.le_trans c.size_eat_le h⟩
    else if char = '\\' then
      match escape c.eat with
      | .error fault => .error fault
      | .ok ⟨(_, d), hd⟩ => skipTextFrom start d (Nat.le_trans hd (Nat.le_trans c.size_eat_le h))
    else if char.toNat < 0x20 then .error (c.fault .controlCharacter)
    else skipTextFrom start c.eat (Nat.le_trans c.size_eat_le h)
termination_by c.size
decreasing_by
  · exact Nat.lt_of_le_of_lt hd (Cursor.size_eat_lt _hrest)
  · exact Cursor.size_eat_lt _hrest
where
  /-- Checks an escape after its backslash. -/
  escape : Reader Unit := do
    match ← peek with
    | none => failHere .endInText
    | some c =>
      if (shortEscape? c).isSome then eat
      else if c = 'u' then
        eat
        let _ ← hexFour
      else failNext .badEscape

/-- Checks a string whose opening quote has been taken. -/
def skipText : Reader Unit := fun c => skipTextFrom c c c.size_le_self

/-- Checks the power of ten of a number, its `e` being next. -/
def skipExponent : Reader Unit := do
  eat
  let sign ← peek
  if sign = some '+' ∨ sign = some '-' then eat
  match ← peek with
  | some d =>
    if d.isDigit then
      let _ ← digits
    else failNext .badNumber
  | none => failHere .badNumber

/-- Checks what may follow the whole digits of a number. -/
def skipAfterWhole : Reader Unit := do
  match ← peek with
  | some '.' =>
    eat
    if (← digits).isEmpty then failNext .badNumber
    else
      match ← peek with
      | some 'e' => skipExponent
      | some 'E' => skipExponent
      | _ => pure ()
  | some 'e' => skipExponent
  | some 'E' => skipExponent
  | _ => pure ()

/-- Checks a number whose first character, `first`, has been taken. -/
def skipNumber (first : Char) : Reader Unit := do
  if first = '0' then
    match ← peek with
    | some d => if d.isDigit then failNext .badNumber else skipAfterWhole
    | none => pure ()
  else
    let _ ← digits
    skipAfterWhole

/-- Checks a number whose minus sign has been taken. -/
def skipNegative : Reader Unit := do
  match ← peek with
  | some d =>
    if d.isDigit then
      eat
      skipNumber d
    else failNext .badNumber
  | none => failHere .badNumber

/-- Checks the rest of a value without brackets that begins with the character `first`, which has
been taken; `none` if no such value begins so. -/
def skipScalar? (first : Char) : Option (Reader Unit) :=
  if first = 'n' then some (literal ['u', 'l', 'l'])
  else if first = 't' then some (literal ['r', 'u', 'e'])
  else if first = 'f' then some (literal ['a', 'l', 's', 'e'])
  else if first = '\x22' then some skipText
  else if first = '-' then some skipNegative
  else if first.isDigit then some (skipNumber first)
  else none

/-- Checks a key of an object and the colon after it. -/
def skipKey : Reader Unit := do
  spaces
  match ← peek with
  | some c =>
    if c = '\x22' then
      eat
      skipText
    else failNext .keyNotText
  | none => failNext .endInObject
  spaces
  match ← peek with
  | some c => if c = ':' then eat else failNext .colonExpected
  | none => failNext .endInObject

mutual

/-- Checks a value that stands inside the brackets `outer`, innermost first, and all that follows
up to the end of the outermost one. -/
def skipValue (start : Cursor) (outer : List Bracket) (c : Cursor) (h : c.size ≤ start.size) :
    Step Unit start :=
  let d := c.skipSpaces
  have hd : d.size ≤ c.size := c.size_skipSpaces_le
  match hrest : d.rest with
  | [] => .error (d.faultNext .endBeforeValue)
  | char :: _ =>
    have hlt := Cursor.size_eat_lt hrest
    if char = '[' then skipItems start .list outer false d.eat (by omega)
    else if char = '\x7b' then skipItems start .object outer false d.eat (by omega)
    else
      match skipScalar? char with
      | none => .error (d.faultNext .valueExpected)
      | some scalar =>
        match scalar d.eat with
        | .error fault => .error fault
        | .ok ⟨(_, e), he⟩ => skipOutside start outer e (by simp only at he; omega)
termination_by (c.size, 1)
decreasing_by all_goals (apply Prod.Lex.left; simp +zetaDelta only at *; omega)

/-- Goes on after a value that stands inside the brackets `outer`. -/
def skipOutside (start : Cursor) (outer : List Bracket) (c : Cursor) (h : c.size ≤ start.size) :
    Step Unit start :=
  match outer with
  | [] => .ok ⟨((), c), h⟩
  | bracket :: others => skipItems start bracket others true c h
termination_by (c.size, 3)
decreasing_by all_goals (apply Prod.Lex.right; omega)

/-- Goes on inside `bracket`, which stands inside `outer`; `afterItem` tells whether an item has
just been read. -/
def skipItems (start : Cursor) (bracket : Bracket) (outer : List Bracket) (afterItem : Bool)
    (c : Cursor) (h : c.size ≤ start.size) : Step Unit start :=
  let d := c.skipSpaces
  have hd : d.size ≤ c.size := c.size_skipSpaces_le
  match hrest : d.rest with
  | [] => .error (d.faultNext bracket.endReason)
  | char :: _ =>
    have hlt := Cursor.size_eat_lt hrest
    if afterItem && char = ',' then
      match (if bracket = .object then skipKey else pure ()) d.eat with
      | .error fault => .error fault
      | .ok ⟨(_, e), he⟩ =>
        skipValue start (bracket :: outer) e (by simp only at he; omega)
    else if char = bracket.closing then skipOutside start outer d.eat (by omega)
    else if afterItem then .error (d.faultNext bracket.commaReason)
    else
      match (if bracket = .object then skipKey else pure ()) d with
      | .error fault => .error fault
      | .ok ⟨(_, e), he⟩ =>
        skipValue start (bracket :: outer) e (by simp only at he; omega)
termination_by (c.size, 2)
decreasing_by
  · apply Prod.Lex.left; simp +zetaDelta only at *; omega
  · apply Prod.Lex.left; simp +zetaDelta only at *; omega
  · have hec : e.size ≤ c.size := by simp +zetaDelta only at *; omega
    rcases Nat.lt_or_eq_of_le hec with hlt' | heq
    · exact Prod.Lex.left _ _ hlt'
    · rw [heq]; apply Prod.Lex.right; omega

end

/-- Checks one value of any kind. -/
def skip : Reader Unit := fun c => skipValue c [] c c.size_le_self

end Reader

end TypedCatalog.Json
