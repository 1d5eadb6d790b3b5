import TypedCatalog.Naming.Identifier
import TypedCatalog.TypeExpr.Basic

/-!
# Names in declarations

How a property is written, and how a declared type is imported from the unit that declares it.
-/

namespace TypedCatalog

/-- The name of a property, in quotes unless it is an identifier. -/
def propertyName (name : String) : String :=
  if Naming.isIdentifier name then name else "\"" ++ escaped name doubleQuote ++ "\""

/-- The line that imports a declared type. -/
def importLine (identifier : String) : String :=
  "import type \x7b " ++ identifier ++ " \x7d from \"./" ++ identifier ++ "\";\n"

/-- The lines that import declared types, and an empty line after them if there are any. -/
def importLines (identifiers : List String) : String :=
  if identifiers.isEmpty then "" else String.join (identifiers.map importLine) ++ "\n"

end TypedCatalog
