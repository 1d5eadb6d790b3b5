import TypedCatalog.Catalog.Validation
import TypedCatalog.Declaration.Name
import TypedCatalog.Resolution.Choices

/-!
# The index declaration

The index declares one type whose members are the collections of a catalog, each with the type of
its records.
-/

namespace TypedCatalog

/-- The declaration of the index. -/
structure IndexDecl where
  /-- The name of the type. -/
  typeName : String
  /-- The declared types that it needs. -/
  imports : List String
  /-- Collections with the types of their records, in order. -/
  members : List (String × String)
  deriving DecidableEq, Repr

namespace IndexDecl

/-- The index of a catalog: each identifier is imported once, in the order in which it first
comes. -/
def ofCatalog (catalog : Catalog) (typeName : String) : IndexDecl where
  typeName := typeName
  imports := firstOccurrences (catalog.entities.toList.map Entity.typeName)
  members := catalog.entities.toList.map fun entity => (entity.collection, entity.typeName)

/-- The index imports the type identifier of every collection. -/
theorem mem_imports_ofCatalog {catalog : Catalog} {typeName name : String} :
    name ∈ (ofCatalog catalog typeName).imports ↔
      ∃ entity ∈ catalog.entities.toList, entity.typeName = name :=
  mem_firstOccurrences.trans List.mem_map

/-- The line of a member. -/
def memberLine (member : String × String) : String :=
  "  " ++ propertyName member.1 ++ ": " ++ member.2 ++ ";\n"

/-- The text of an index. -/
def text (decl : IndexDecl) : String :=
  importLines decl.imports ++ "export type " ++ decl.typeName ++ " = \x7b\n" ++
    String.join (decl.members.map memberLine) ++ "\x7d;\n"

end IndexDecl

end TypedCatalog
