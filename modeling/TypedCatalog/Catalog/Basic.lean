import TypedCatalog.Catalog.Kind
import TypedCatalog.Roster

/-!
# Catalogs

A catalog describes the collections of a content store: entities with their fields, in order and
with pairwise different names, and the relations between them. A relation describes both sides of
a link from many records to one: the field that holds the key, and, if its one-side is complete,
the alias field on the other side.
-/

namespace TypedCatalog

/-- A field of an entity. -/
structure Field where
  /-- The name. -/
  name : String
  /-- The type in the schema. -/
  kind : Kind
  /-- Whether a stored value may be null. -/
  nullable : Bool
  /-- A note for readers. -/
  note : Option String
  /-- The type of the column, if there is one. -/
  databaseType : Option String
  deriving DecidableEq, Repr

instance : Named Field := ⟨Field.name⟩

/-- A field without note or column that is never null. -/
def Field.ofKind (name : String) (kind : Kind) : Field := ⟨name, kind, false, none, none⟩

/-- Whether the field has no column. -/
def Field.isAlias (field : Field) : Bool := field.kind.isAlias

/-- A collection and its fields. -/
structure Entity where
  /-- The name of the collection. -/
  collection : String
  /-- A note for readers. -/
  note : Option String
  /-- The fields, in order. -/
  fields : Roster Field
  deriving Repr

instance : Named Entity := ⟨Entity.collection⟩

/-- An entity without note or fields. -/
def Entity.ofName (collection : String) : Entity := ⟨collection, none, .empty⟩

/-- The entity with one more field, or with `field` in the place of the field of its name. -/
def Entity.addField (entity : Entity) (field : Field) : Entity :=
  { entity with fields := entity.fields.insert field }

/-- A field of a collection, by name. -/
structure FieldKey where
  /-- The collection. -/
  collection : String
  /-- The field. -/
  field : String
  deriving DecidableEq, Repr

/-- Keys are ordered by collection first; strings by their characters. -/
def FieldKey.before (a b : FieldKey) : Bool :=
  a.collection < b.collection || (a.collection == b.collection && a.field < b.field)

/-- What a relation says about its two sides. -/
structure RelationSides where
  /-- The collection on the one-side. -/
  oneCollection : Option String
  /-- The alias field on the one-side. -/
  oneField : Option String
  /-- The collection on the many-side. -/
  manyCollection : Option String
  /-- The field with the key, on the many-side. -/
  manyField : Option String
  deriving DecidableEq, Repr

/-- A link from many records to one. -/
structure Relation where
  /-- The collection that holds the key. -/
  collection : String
  /-- The field that holds the key. -/
  field : String
  /-- The collection that the key points to. -/
  related : Option String
  /-- The column there that the key refers to. -/
  keyColumn : Option String
  /-- The two sides. -/
  sides : Option RelationSides
  deriving DecidableEq, Repr

namespace Relation

/-- A relation from `collection.field` to the collection `related`. -/
def toOne (collection field related : String) : Relation :=
  ⟨collection, field, some related, none, none⟩

/-- The relation with a column that its key refers to. -/
def withKeyColumn (relation : Relation) (column : String) : Relation :=
  { relation with keyColumn := some column }

/-- The relation with an alias field on the one-side. -/
def withOneField (relation : Relation) (oneField : String) : Relation :=
  { relation with
    sides := some ⟨relation.related, some oneField, some relation.collection,
      some relation.field⟩ }

/-- The field that holds the key. -/
def forwardKey (relation : Relation) : FieldKey := ⟨relation.collection, relation.field⟩

/-- The alias field on the one-side, if both its names are there. -/
def reverseKey? (relation : Relation) : Option FieldKey :=
  match relation.sides with
  | some ⟨some oneCollection, some oneField, _, _⟩ => some ⟨oneCollection, oneField⟩
  | _ => none

/-- The collection on the many-side: the one that holds the key unless the relation names
another. -/
def manyCollection (relation : Relation) : String :=
  (relation.sides.bind (·.manyCollection)).getD relation.collection

end Relation

/-- The collections of a content store and the relations between them. -/
structure Catalog where
  /-- The entities, in order. -/
  entities : Roster Entity
  /-- The relations, in order. -/
  relations : List Relation
  deriving Repr

namespace Catalog

/-- The catalog without entities or relations. -/
def empty : Catalog := ⟨.empty, []⟩

instance : Inhabited Catalog := ⟨empty⟩

/-- The catalog with one more entity, or with `entity` in the place of the entity of its name. -/
def addEntity (catalog : Catalog) (entity : Entity) : Catalog :=
  { catalog with entities := catalog.entities.insert entity }

/-- The catalog with one more relation. -/
def addRelation (catalog : Catalog) (relation : Relation) : Catalog :=
  { catalog with relations := catalog.relations ++ [relation] }

/-- The entity of a collection. -/
def entity? (catalog : Catalog) (collection : String) : Option Entity :=
  catalog.entities.find? collection

/-- Whether a collection is in the catalog. -/
def has (catalog : Catalog) (collection : String) : Bool :=
  catalog.entities.contains collection

/-- The field of the given key. -/
def field? (catalog : Catalog) (key : FieldKey) : Option Field :=
  (catalog.entity? key.collection).bind (·.fields.find? key.field)

end Catalog

end TypedCatalog
