import TypedCatalog.Naming.Singular

/-!
# Type identifiers

The type declared for a collection is named by the singular of the collection's name in
PascalCase. `isIdentifier` says which names can stand unquoted in a declaration.
-/

namespace TypedCatalog.Naming

open Text

/-- PascalCase of a text, `atStart` telling whether a word begins here: the first character of
every word in upper case, the others in lower case, no separators. -/
def pascalFrom : (atStart : Bool) → List Char → List Char
  | _, [] => []
  | atStart, c :: rest =>
    if isSeparator c then pascalFrom true rest
    else (if atStart then upperChar c else lowerChar c) ++ pascalFrom false rest

/-- PascalCase of a text. -/
def pascalCase (text : List Char) : List Char :=
  pascalFrom true text

/-- The singular of a name, as a string. -/
def singular (name : String) : String :=
  String.ofList (singularize name.toList)

/-- PascalCase of a string. -/
def pascal (s : String) : String :=
  String.ofList (pascalCase s.toList)

/-- The identifier of the type declared for a collection. -/
def typeIdentifier (collection : String) : String :=
  String.ofList (pascalCase (singularize collection.toList))

/-- Whether `c` can begin an identifier. -/
def isIdentifierStart (c : Char) : Bool :=
  c.isAlpha || c == '_' || c == '$'

/-- Whether `c` can stand inside an identifier. -/
def isIdentifierPart (c : Char) : Bool :=
  c.isAlphanum || c == '_' || c == '$'

/-- Whether a text is an identifier: letters and digits of ASCII, underscores and dollar signs,
with no digit first. -/
def isIdentifierText : List Char → Bool
  | [] => false
  | c :: rest => isIdentifierStart c && rest.all isIdentifierPart

/-- Whether `name` can be written unquoted as the name of a type or a property. -/
def isIdentifier (name : String) : Bool :=
  isIdentifierText name.toList

/-! ### PascalCase of a name in parts -/

/-- A separator ends a word, so both sides of it are converted on their own. -/
theorem pascalFrom_append_separator {s : Char} (hs : isSeparator s) (before after : List Char)
    (atStart : Bool) :
    pascalFrom atStart (before ++ s :: after) =
      pascalFrom atStart before ++ pascalFrom true after := by
  induction before generalizing atStart with
  | nil => simp [pascalFrom, hs]
  | cons c rest ih => by_cases hc : isSeparator c <;> simp [pascalFrom, hc, ih]

end TypedCatalog.Naming
