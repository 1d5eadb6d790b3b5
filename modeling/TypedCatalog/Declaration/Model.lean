import TypedCatalog.Catalog.Basic
import TypedCatalog.Declaration.Comment
import TypedCatalog.Declaration.Name

/-!
# Model declarations

A model declares the type of a collection's records: a comment, and one member for each field with
a comment of its own. `ModelDecl` is what is declared, `ModelDecl.text` how it is written.
-/

namespace TypedCatalog

/-- A field and the type that it is declared with. -/
structure MemberDecl where
  /-- The field. -/
  field : Field
  /-- The type. -/
  type : TypeExpr
  deriving Repr

/-- The declaration of a collection's type. -/
structure ModelDecl where
  /-- The name of the type. -/
  typeName : String
  /-- The declared types that it needs. -/
  imports : List String
  /-- The collection. -/
  collection : String
  /-- The note on the collection. -/
  note : Option String
  /-- The members, in order. -/
  members : List MemberDecl
  deriving Repr

/-- What stands for the note of a field without one. -/
def noNote : String := "No description."

/-- What stands for the database type of a field without one. -/
def noColumn : String := "none (virtual field)"

namespace MemberDecl

/-- The comment of a member: note, schema type and database type. -/
def commentBlock (member : MemberDecl) : String :=
  "  /**\n" ++ comment "  " (member.field.note.getD noNote) ++ "   *\n" ++
    "   * Schema type: " ++ member.field.kind.name ++ "\n" ++
    "   * Database type: " ++ member.field.databaseType.getD noColumn ++ "\n" ++ "   */\n"

/-- The line of a member. -/
def line (member : MemberDecl) : String :=
  "  " ++ propertyName member.field.name ++ ": " ++ member.type.text ++ ";\n"

/-- A member with its comment. -/
def text (member : MemberDecl) : String := member.commentBlock ++ member.line

end MemberDecl

namespace ModelDecl

/-- The comment of a model: the note, if there is one, and the collection. -/
def commentBlock (decl : ModelDecl) : String :=
  let note :=
    match decl.note with
    | some note => comment "" note ++ " *\n"
    | none => ""
  "/**\n" ++ note ++ " * Generated from the `" ++ decl.collection ++ "` collection.\n" ++ " */\n"

/-- The text of a model. -/
def text (decl : ModelDecl) : String :=
  importLines decl.imports ++ decl.commentBlock ++ "export type " ++ decl.typeName ++ " = \x7b\n" ++
    String.join (decl.members.map MemberDecl.text) ++ "\x7d;\n"

end ModelDecl

end TypedCatalog
