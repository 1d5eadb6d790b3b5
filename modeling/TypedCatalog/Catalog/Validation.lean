import TypedCatalog.Catalog.Relations
import TypedCatalog.Naming.Identifier
import TypedCatalog.Snapshot.Basic
import TypedCatalog.Text.Case

/-!
# Checking a catalog

A catalog is fit for generation without loss if every collection has a usable type identifier, no
two of them would name the same file, and every relation belongs to a field that it alone claims.
Each check reports the first problem in an order that depends on nothing but the catalog.
-/

namespace TypedCatalog

open Naming Text

/-- Why a catalog is not fit. -/
inductive CatalogError where
  /-- The catalog's snapshot could not be read. -/
  | snapshot (error : SnapshotError)
  /-- Two collections have the same type identifier. -/
  | identifierCollision (identifier first second : String)
  /-- A collection has no usable type identifier. -/
  | invalidIdentifier (collection identifier : String)
  /-- Several relations claim a field. -/
  | duplicateRelation (key : FieldKey)
  /-- A relation belongs to a field that does not exist. -/
  | relationWithoutField (key : FieldKey)
  deriving DecidableEq, Repr

/-- A key as messages show it. -/
def FieldKey.text (key : FieldKey) : String := key.collection ++ "." ++ key.field

namespace CatalogError

/-- The wording of an error. -/
def message : CatalogError → String
  | snapshot error => "parse error: " ++ error.message
  | identifierCollision identifier first second =>
    "collections '" ++ first ++ "' and '" ++ second ++ "' both derive the type identifier '" ++
      identifier ++ "'"
  | invalidIdentifier collection identifier =>
    "collection '" ++ collection ++ "' derives invalid type identifier '" ++ identifier ++ "'"
  | duplicateRelation key => "more than one relation defined for field '" ++ key.text ++ "'"
  | relationWithoutField key => "relation refers to missing field '" ++ key.text ++ "'"

/-- What caused an error, the nearest cause first. -/
def causes : CatalogError → List String
  | snapshot error => error.message :: error.causes
  | _ => []

end CatalogError

/-- Two collections whose type identifiers differ at most in case. -/
structure IdentifierCollision where
  /-- The identifier of the first collection. -/
  identifier : String
  /-- The collection that comes first in the catalog. -/
  first : String
  /-- The collection that comes later. -/
  second : String
  deriving DecidableEq, Repr

/-- The error of a collision. -/
def IdentifierCollision.error (collision : IdentifierCollision) : CatalogError :=
  .identifierCollision collision.identifier collision.first collision.second

/-- The collection that was the first to have an identifier. -/
structure IdentifierClaim where
  /-- The identifier in lower case. -/
  folded : String
  /-- The identifier. -/
  identifier : String
  /-- The collection. -/
  collection : String
  deriving DecidableEq, Repr

/-- The identifier of the type declared for an entity. -/
def Entity.typeName (entity : Entity) : String := typeIdentifier entity.collection

/-- The claim of an entity to its identifier. -/
def Entity.claim (entity : Entity) : IdentifierClaim :=
  ⟨foldCase entity.typeName, entity.typeName, entity.collection⟩

/-- The collisions among `entities` after `claims` have been made: an entity collides with the first
one that made its claim, and does not make a claim of its own then. -/
def collisionsAfter (claims : List IdentifierClaim) : List Entity → List IdentifierCollision
  | [] => []
  | entity :: rest =>
    match claims.find? (·.folded == entity.claim.folded) with
    | some claim =>
      ⟨claim.identifier, claim.collection, entity.collection⟩ :: collisionsAfter claims rest
    | none => collisionsAfter (claims ++ [entity.claim]) rest

/-- The least key of a list. -/
def FieldKey.least? : List FieldKey → Option FieldKey
  | [] => none
  | key :: rest =>
    match least? rest with
    | none => some key
    | some other => some (if other.before key then other else key)

namespace Catalog

/-- The collisions of a catalog, in the order of the later collection. -/
def collisions (catalog : Catalog) : List IdentifierCollision :=
  collisionsAfter [] catalog.entities.toList

/-- Every collection must have a type identifier that can be written. -/
def checkIdentifiers (catalog : Catalog) : Except CatalogError Unit :=
  match catalog.entities.toList.find? (!isIdentifier ·.typeName) with
  | some entity => .error (.invalidIdentifier entity.collection entity.typeName)
  | none => .ok ()

/-- The fields that several relations claim, in either direction. -/
def ambiguousKeys (catalog : Catalog) : List FieldKey :=
  let index := RelationIndex.ofRelations catalog.relations
  index.ambiguous .forward ++ index.ambiguous .reverse

/-- Every relation must belong to a field of the catalog, and no other relation to the same. -/
def checkRelations (catalog : Catalog) : Except CatalogError Unit :=
  match catalog.relations.find? (fun relation => (catalog.field? relation.forwardKey).isNone) with
  | some relation => .error (.relationWithoutField relation.forwardKey)
  | none =>
    match FieldKey.least? catalog.ambiguousKeys with
    | some key => .error (.duplicateRelation key)
    | none => .ok ()

/-- All checks: identifiers, then collisions, then relations. -/
def check (catalog : Catalog) : Except CatalogError Unit := do
  catalog.checkIdentifiers
  match catalog.collisions with
  | collision :: _ => .error collision.error
  | [] => catalog.checkRelations

end Catalog

end TypedCatalog
