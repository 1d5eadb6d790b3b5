import TypedCatalog.Text.Blank
import TypedCatalog.Text.Digits

/-!
# Text inside quotes

The body of a quoted literal in a declaration. Line breaks, tabs and other control characters are
written as escapes, so that a literal stays on its line; the quote and the backslash get a backslash
in front.
-/

namespace TypedCatalog

/-- The escape of a character by its number, in four digits. -/
def numberEscape (c : Char) : List Char :=
  '\\' :: 'u' :: Text.hexFixed 4 c.toNat

/-- One character of a literal that stands between two `quote`s. -/
def escapedChar (quote c : Char) : List Char :=
  if c = '\n' then ['\\', 'n']
  else if c = '\r' then ['\\', 'r']
  else if c = '\t' then ['\\', 't']
  else if c.toNat = 0x2028 ∨ c.toNat = 0x2029 then numberEscape c
  else if Text.isControl c then numberEscape c
  else if c = '\\' ∨ c = quote then ['\\', c]
  else [c]

/-- The body of a literal that stands between two `quote`s. -/
def escapedText (quote : Char) (text : List Char) : List Char :=
  text.flatMap (escapedChar quote)

/-- The body of a literal, as a string. -/
def escaped (s : String) (quote : Char) : String :=
  String.ofList (escapedText quote s.toList)

theorem toList_escaped (s : String) (quote : Char) :
    (escaped s quote).toList = escapedText quote s.toList :=
  String.toList_ofList

/-- The double quote. -/
def doubleQuote : Char := '\x22'

/-- The single quote. -/
def singleQuote : Char := '\x27'

@[simp] theorem escapedText_nil (quote : Char) : escapedText quote [] = [] := rfl

@[simp] theorem escapedText_cons (quote c : Char) (text : List Char) :
    escapedText quote (c :: text) = escapedChar quote c ++ escapedText quote text := rfl

theorem escapedText_append (quote : Char) (s t : List Char) :
    escapedText quote (s ++ t) = escapedText quote s ++ escapedText quote t :=
  List.flatMap_append

end TypedCatalog
