import TypedCatalog.Catalog.Relations
import TypedCatalog.Naming.Identifier
import TypedCatalog.Resolution.Scalar

/-!
# Types of fields with relations

The field that holds the key of a relation has the related type or the type of the key. The alias
field on the other side has an array of the type on the many-side. Either needs an import unless
the relation points back to the field's own collection.
-/

namespace TypedCatalog

open Naming

/-- The type of a field, before null is added, and the identifier it needs. -/
structure Resolution where
  /-- The type. -/
  type : TypeExpr
  /-- The declared type that has to be imported for it. -/
  needs : Option String
  deriving Repr

/-- A catalog with its relations by field. -/
structure RelationView where
  /-- The catalog. -/
  catalog : Catalog
  /-- The relations of the catalog by field. -/
  index : RelationIndex

namespace RelationView

/-- The view of a catalog. -/
def ofCatalog (catalog : Catalog) : RelationView := ⟨catalog, .ofRelations catalog.relations⟩

/-- The type identifier of the collection that a relation points to. -/
def relatedIdentifier (view : RelationView) (relation : Relation) (related : String) :
    Except ResolveError String :=
  if view.catalog.has related then .ok (typeIdentifier related)
  else .error (.relation (.unknownRelated relation.forwardKey related))

/-- The import that a field of `collection` needs for the type of `related`. -/
def importFor (collection related identifier : String) : Option String :=
  if collection = related then none else some identifier

/-- The type of a field that holds the key of `relation`. With a key column it is the related type
or the type of that column, otherwise the related type or the type of the field's kind. -/
def forwardType (view : RelationView) (key : FieldKey) (kind : Kind) (relation : Relation) :
    Except ResolveError Resolution := do
  let some related := relation.related | .error (.relation (.withoutRelated key))
  let identifier ← view.relatedIdentifier relation related
  let keyType ←
    match relation.keyColumn with
    | some column => .ok (.indexedAccess identifier column)
    | none => kind.scalarType
  return ⟨.unionOf [.reference identifier, keyType], importFor key.collection related identifier⟩

/-- The type of the alias field of `relation`. -/
def reverseType (view : RelationView) (key : FieldKey) (relation : Relation) :
    Except ResolveError Resolution := do
  let related := relation.manyCollection
  let identifier ← view.relatedIdentifier relation related
  return ⟨.array (.reference identifier), importFor key.collection related identifier⟩

/-- The type that relations give a field in the given direction; `none` if no relation claims the
field. -/
def classify (view : RelationView) (direction : Direction) (key : FieldKey) (kind : Kind) :
    Except ResolveError (Option Resolution) :=
  match view.index.claim direction key with
  | .missing => .ok none
  | .ambiguous count => .error (.relation (.claimedBy count key))
  | .found relation =>
    some <$>
      match direction with
      | .forward => view.forwardType key kind relation
      | .reverse => view.reverseType key relation

end RelationView

end TypedCatalog
