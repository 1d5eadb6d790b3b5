import TypedCatalog.Json.Cursor

/-!
# Literals, numbers and strings

Readers for the JSON values that hold no others. A whole number of 64 bits is kept as such, and any
other number becomes a double: its digits are collected while they fit 64 bits, later ones only
move the decimal point, and the power of ten is applied last.
-/

namespace TypedCatalog.Json

namespace Reader

/-- Takes the characters of a literal one by one. -/
def literal : List Char → Reader Unit
  | [] => pure ()
  | char :: rest => do
    match ← peek with
    | none => failHere .endBeforeValue
    | some c =>
      if c = char then
        eat
        literal rest
      else failNext .literalExpected

/-! ### Numbers -/

/-- One more than the greatest whole number that is kept exactly. -/
def wholeLimit : Nat := Nat.pow 2 64

/-- The greatest power of ten that a number may be written with. -/
def exponentLimit : Nat := Nat.pow 2 31 - 1

/-- The value of a decimal digit. -/
def digitOf (c : Char) : Nat := c.toNat - '0'.toNat

/-- Appends digits to a number as long as it stays below `wholeLimit`; gives the number and the
digits that were not taken. -/
def absorb (number : Nat) : List Char → Nat × List Char
  | [] => (number, [])
  | d :: rest =>
    if number * 10 + digitOf d < wholeLimit then absorb (number * 10 + digitOf d) rest
    else (number, d :: rest)

/-- How many digits it takes for a number to pass `exponentLimit`, if it does. -/
def overflowAfter? (number : Nat) : List Char → Option Nat
  | [] => none
  | d :: rest =>
    if exponentLimit < number * 10 + digitOf d then some 1
    else (overflowAfter? (number * 10 + digitOf d) rest).map (· + 1)

/-- The double of the given decimal parts; fails after the number if there is none. -/
def real (negative : Bool) (significand : Nat) (exponent : Int) : Reader Number :=
  match Double.ofDecimal? negative significand exponent with
  | some d => pure (.real d)
  | none => failHere .numberOutOfRange

/-- Reads the power of ten of a number, its `e` being next, and finishes the number. A power beyond
the limit is fine for zero and for a negative power: the number is then zero. -/
def exponentPart (negative : Bool) (significand : Nat) (exponent : Int) : Reader Number := do
  eat
  let sign ← peek
  if sign = some '+' ∨ sign = some '-' then eat
  let down := sign == some '-'
  match ← peek with
  | none => failHere .endBeforeValue
  | some c =>
    if c.isDigit then
      let before ← place
      let ds ← digits
      match overflowAfter? 0 ds with
      | some n =>
        if significand ≠ 0 ∧ !down then
          failAt ⟨before.line, before.column + n⟩ .numberOutOfRange
        else pure (.real ⟨negative, 0, Double.minExponent⟩)
      | none =>
        let power : Int := (absorb 0 ds).1
        real negative significand (if down then exponent - power else exponent + power)
    else failNext .badNumber

/-- Finishes a number after its whole digits, of which `skipped` at the end were not collected. -/
def afterWhole (negative : Bool) (significand skipped : Nat) : Reader Number := do
  match ← peek with
  | some '.' =>
    eat
    let ds ← digits
    if ds.isEmpty then
      match ← peek with
      | none => failNext .endBeforeValue
      | some _ => failNext .badNumber
    else
      let (collected, left) := absorb significand ds
      let exponent : Int := skipped - (ds.length - left.length : Nat)
      match ← peek with
      | some 'e' => exponentPart negative collected exponent
      | some 'E' => exponentPart negative collected exponent
      | _ => real negative collected exponent
  | some 'e' => exponentPart negative significand skipped
  | some 'E' => exponentPart negative significand skipped
  | _ =>
    if skipped ≠ 0 then real negative significand skipped
    else if !negative then pure (.natural significand)
    else if 0 < significand ∧ significand ≤ Nat.pow 2 63 then pure (.negative significand)
    else real negative significand 0

/-- Reads a number whose minus sign, if any, has been taken. -/
def number (negative : Bool) : Reader Number := do
  match ← peek with
  | none => failHere .endBeforeValue
  | some '0' =>
    eat
    match ← peek with
    | some d => if d.isDigit then failNext .badNumber else afterWhole negative 0 0
    | none => afterWhole negative 0 0
  | some d =>
    if d.isDigit then
      let (collected, left) := absorb 0 (← digits)
      afterWhole negative collected left.length
    else failNext .badNumber

/-! ### Strings -/

/-- Reads the four hexadecimal digits of an escape. -/
def hexFour : Reader Nat := fun c =>
  if Text.byteLength (c.rest.take 4) < 4 then
    .error ⟨.endInText, c.place.afterBytes 4 c.rest⟩
  else
    match (c.rest.take 4).mapM Text.hexValue? with
    | some ds =>
      .ok ⟨(ds.foldl (fun n d => n * 16 + d) 0, c.eatFour), c.size_eatFour_le⟩
    | none => .error ⟨.badEscape, c.place.afterBytes 4 c.rest⟩

/-- Takes `char`, which an escape for the second half of a surrogate pair needs here. -/
def pairMark (char : Char) : Reader Unit := do
  match ← peek with
  | none => failHere .endInText
  | some c => if c = char then eat else failNext .endOfHexEscape

/-- Whether `n` is the second half of a surrogate pair. -/
def isLowSurrogate (n : Nat) : Bool := 0xDC00 ≤ n && n ≤ 0xDFFF

/-- Whether `n` is the first half of a surrogate pair. -/
def isHighSurrogate (n : Nat) : Bool := 0xD800 ≤ n && n ≤ 0xDBFF

/-- Reads the number of a character after `\u`, in two escapes if it is beyond four digits. -/
def hexEscape : Reader Char := do
  let n ← hexFour
  if isLowSurrogate n then failHere .loneSurrogate
  else if isHighSurrogate n then
    pairMark '\\'
    pairMark 'u'
    let m ← hexFour
    if isLowSurrogate m then pure (Char.ofNat (0x10000 + (n - 0xD800) * 0x400 + (m - 0xDC00)))
    else failHere .loneSurrogate
  else pure (Char.ofNat n)

/-- The character that a short escape stands for. -/
def shortEscape? : Char → Option Char
  | '\x22' => some '\x22'
  | '\\' => some '\\'
  | '/' => some '/'
  | 'b' => some '\x08'
  | 'f' => some '\x0c'
  | 'n' => some '\n'
  | 'r' => some '\r'
  | 't' => some '\t'
  | _ => none

/-- Reads an escape after its backslash. -/
def escapeSequence : Reader Char := do
  match ← peek with
  | none => failHere .endInText
  | some c =>
    match shortEscape? c with
    | some char =>
      eat
      pure char
    | none =>
      if c = 'u' then
        eat
        hexEscape
      else failNext .badEscape

/-- Reads the rest of a string up to its closing quote; `read` holds what came before, last
character first. -/
def textFrom (start : Cursor) (read : List Char) (c : Cursor) (h : c.size ≤ start.size) :
    Step String start :=
  match _hrest : c.rest with
  | [] => .error (c.fault .endInText)
  | char :: _ =>
    if char = '\x22' then
      .ok ⟨(String.ofList read.reverse, c.eat), Nat.le_trans c.size_eat_le h⟩
    else if char = '\\' then
      match escapeSequence c.eat with
      | .error fault => .error fault
      | .ok ⟨(escaped, d), hd⟩ =>
        textFrom start (escaped :: read) d (Nat.le_trans hd (Nat.le_trans c.size_eat_le h))
    else if char.toNat < 0x20 then .error (c.faultNext .controlCharacter)
    else textFrom start (char :: read) c.eat (Nat.le_trans c.size_eat_le h)
termination_by c.size
decreasing_by
  · exact Nat.lt_of_le_of_lt hd (Cursor.size_eat_lt _hrest)
  · exact Cursor.size_eat_lt _hrest

/-- Reads a string whose opening quote has been taken. -/
def text : Reader String := fun c => textFrom c [] c (Nat.le_refl _)

end Reader

end TypedCatalog.Json
