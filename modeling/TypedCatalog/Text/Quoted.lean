import TypedCatalog.Text.Case
import TypedCatalog.Text.Digits
import TypedCatalog.Text.PrintTable

/-!
# Quoted text in messages

A text that a message quotes stands in double quotes. Quotes and backslashes are escaped, four
control characters have short forms, and a character that does not show by itself is spelled by
its number.
-/

namespace TypedCatalog.Text

/-- Whether a character shows by itself: it has a printed form and does not attach to the character
before it. -/
def showsAlone (c : Char) : Bool :=
  !inRanges unprintable c.toNat && !inRanges hangulFiller c.toNat &&
    (!inRanges graphemeExtend c.toNat || inRanges halfwidthSoundMark c.toNat)

/-- One character of a quoted text. -/
def quotedChar (c : Char) : List Char :=
  match c with
  | '\x00' => ['\\', '0']
  | '\t' => ['\\', 't']
  | '\r' => ['\\', 'r']
  | '\n' => ['\\', 'n']
  | '\\' => ['\\', '\\']
  | '\x22' => ['\\', '\x22']
  | c =>
    if showsAlone c then [c] else ['\\', 'u', '\x7b'] ++ hex c.toNat ++ ['\x7d']

/-- A text in double quotes, on one line. -/
def quoted (s : String) : String :=
  String.ofList ('\x22' :: s.toList.flatMap quotedChar ++ ['\x22'])

end TypedCatalog.Text
