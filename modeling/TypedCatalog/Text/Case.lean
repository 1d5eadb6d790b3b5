import TypedCatalog.Text.CaseTable

/-!
# Case mapping

`lowerChar` and `upperChar` map one character by Unicode's full mappings, without regard to what
stands around it. `lowercase` maps a whole text, where a capital sigma at the end of a word has a
form of its own.
-/

namespace TypedCatalog.Text

/-- Whether code point `n` lies in one of the inclusive `ranges`. -/
def inRanges (ranges : List (Nat × Nat)) (n : Nat) : Bool :=
  ranges.any fun range => range.1 ≤ n && n ≤ range.2

/-- The image of a character under the runs of a simple mapping. -/
def mapRuns (runs : List CaseRun) (c : Char) : Char :=
  match runs.find? (·.covers c.toNat) with
  | some run => Char.ofNat (c.toNat + run.shift).toNat
  | none => c

/-- The lower-case form of one character. Only the capital I with a dot above has a form of two
characters. -/
def lowerChar (c : Char) : List Char :=
  if c.toNat < 0x80 then [c.toLower]
  else if c.toNat == 0x130 then ['i', Char.ofNat 0x307]
  else [mapRuns lowerRuns c]

/-- The upper-case form of one character. -/
def upperChar (c : Char) : List Char :=
  if c.toNat < 0x80 then [c.toUpper]
  else
    match upperSequences.find? (·.1 == c.toNat) with
    | some (_, form) => form.map Char.ofNat
    | none => [mapRuns upperRuns c]

/-- Whether a character with case comes first once the ignorable ones are skipped. -/
def letterFirst (text : List Char) : Bool :=
  match text.dropWhile fun c => inRanges caseIgnorable c.toNat with
  | c :: _ => inRanges cased c.toNat
  | [] => false

/-- The lower-case form of `text` when it follows `before`, which is given last character first.
A capital sigma ends a word if a letter comes before it and none after it. -/
def lowercaseAfter (before : List Char) : List Char → List Char
  | [] => []
  | c :: rest =>
    (if c.toNat = 0x3A3 then
      [Char.ofNat (if letterFirst before && !letterFirst rest then 0x3C2 else 0x3C3)]
     else lowerChar c) ++ lowercaseAfter (c :: before) rest

/-- The lower-case form of a text. -/
def lowercase (text : List Char) : List Char :=
  lowercaseAfter [] text

/-- The lower-case form of a string, under which two names are compared where upper and lower case
must not matter. -/
def foldCase (s : String) : String :=
  String.ofList (lowercase s.toList)

/-! ### Characters of ASCII -/

@[simp] theorem lowerChar_of_lt {c : Char} (h : c.toNat < 0x80) : lowerChar c = [c.toLower] := by
  simp [lowerChar, h]

@[simp] theorem upperChar_of_lt {c : Char} (h : c.toNat < 0x80) : upperChar c = [c.toUpper] := by
  simp [upperChar, h]

@[simp] theorem lowercase_nil : lowercase [] = [] := rfl

end TypedCatalog.Text
