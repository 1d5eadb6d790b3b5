import TypedCatalog.Catalog.Metadata

/-!
# Snapshot documents

A snapshot is a JSON text with the collections, fields and relations of a content store, each in a
list of its own. A `Document` is what the text says, before anything is checked; `Document.parse`
reads it.
-/

namespace TypedCatalog.Snapshot

open Json

/-- A collection as a document lists it. -/
structure CollectionEntry where
  /-- The name. -/
  collection : String
  /-- The note. -/
  note : Option String
  deriving DecidableEq, Repr

/-- The column of a field. -/
structure Column where
  /-- The type of the column. -/
  dataType : Option String
  /-- Whether the column may hold null. -/
  nullable : Bool
  deriving DecidableEq, Repr

/-- A field as a document lists it. -/
structure FieldEntry where
  /-- The collection of the field. -/
  collection : String
  /-- The name. -/
  field : String
  /-- The schema's name for the type. -/
  type : String
  /-- The note. -/
  note : Option String
  /-- The options, among which the choices are. -/
  options : Option Value
  /-- The column, if there is one. -/
  column : Option Column
  deriving Repr

/-- What a snapshot says. -/
structure Document where
  /-- The collections. -/
  collections : List CollectionEntry
  /-- The fields of all collections. -/
  fields : List FieldEntry
  /-- The relations. -/
  relations : List Relation
  deriving Repr

/-! ### Reading -/

/-- A field that must be there, with a string for a value. -/
def requiredText {σ : Type} (key : String) (set : String → σ → σ) : Reader.Slot σ where
  key := key
  otherKeys := []
  required := true
  read := fun _ => set <$> Reader.string

/-- A field that may be missing or null, with a string for a value. -/
def optionalText {σ : Type} (key : String) (set : Option String → σ → σ) : Reader.Slot σ where
  key := key
  otherKeys := []
  required := false
  read := fun _ => set <$> Reader.optional Reader.string

/-- A field that may be missing or null, with a record for a value. -/
def optionalRecord {σ τ : Type} (key : String) (read : (depth : Nat) → Reader τ)
    (set : Option τ → σ → σ) : Reader.Slot σ where
  key := key
  otherKeys := []
  required := false
  read := fun depth => set <$> Reader.optional (read depth)

/-- A field that may be missing, with a list of records for a value. -/
def recordList {σ τ : Type} (key : String) (read : (depth : Nat) → Reader τ)
    (set : List τ → σ → σ) : Reader.Slot σ where
  key := key
  otherKeys := []
  required := false
  read := fun depth => set <$> Reader.listOf read depth

/-- Reads the notes of a collection. -/
def collectionNotes : (depth : Nat) → Reader (Option String) :=
  Reader.record "RawCollectionMeta" [optionalText "note" fun note _ => note] none

/-- Reads a collection. -/
def collectionEntry : (depth : Nat) → Reader CollectionEntry :=
  Reader.record "RawCollection"
    [requiredText "collection" fun s entry => { entry with collection := s },
      optionalRecord "meta" collectionNotes fun notes entry => { entry with note := notes.join }]
    ⟨"", none⟩

/-- Reads the notes and options of a field. -/
def fieldNotes : (depth : Nat) → Reader (Option String × Option Value) :=
  Reader.record "RawFieldMeta"
    [optionalText "note" fun note notes => (note, notes.2),
      optionalRecord "options" Reader.value fun options notes => (notes.1, options)]
    (none, none)

/-- Reads the column of a field. -/
def column : (depth : Nat) → Reader Column :=
  Reader.record "RawColumn"
    [optionalText "data_type" fun type column => { column with dataType := type },
      { key := "is_nullable", otherKeys := [], required := false
        read := fun _ => do
          let nullable ← Reader.flag
          return ({ · with nullable := nullable }) }]
    ⟨none, false⟩

/-- Reads a field. -/
def fieldEntry : (depth : Nat) → Reader FieldEntry :=
  Reader.record "RawField"
    [requiredText "collection" fun s entry => { entry with collection := s },
      requiredText "field" fun s entry => { entry with field := s },
      requiredText "type" fun s entry => { entry with type := s },
      optionalRecord "meta" fieldNotes fun notes entry =>
        { entry with note := notes.bind (·.1), options := notes.bind (·.2) },
      optionalRecord "schema" column fun column entry => { entry with column := column }]
    ⟨"", "", "", none, none, none⟩

/-- Reads the column that a relation refers to. -/
def keyColumn : (depth : Nat) → Reader (Option String) :=
  Reader.record "RawRelationSchema" [optionalText "foreign_key_column" fun column _ => column] none

/-- Reads the two sides of a relation. -/
def relationSides : (depth : Nat) → Reader RelationSides :=
  Reader.record "RawRelationMeta"
    [optionalText "one_collection" fun s sides => { sides with oneCollection := s },
      optionalText "one_field" fun s sides => { sides with oneField := s },
      optionalText "many_collection" fun s sides => { sides with manyCollection := s },
      optionalText "many_field" fun s sides => { sides with manyField := s }]
    ⟨none, none, none, none⟩

/-- Reads a relation. -/
def relation : (depth : Nat) → Reader Relation :=
  Reader.record "RawRelation"
    [requiredText "collection" fun s relation => { relation with collection := s },
      requiredText "field" fun s relation => { relation with field := s },
      optionalText "related_collection" fun s relation => { relation with related := s },
      optionalRecord "schema" keyColumn fun column relation =>
        { relation with keyColumn := column.join },
      optionalRecord "meta" relationSides fun sides relation => { relation with sides := sides }]
    ⟨"", "", none, none, none⟩

/-- Reads a document. -/
def document : (depth : Nat) → Reader Document :=
  Reader.record "RawSnapshot"
    [recordList "collections" collectionEntry fun entries doc =>
        { doc with collections := entries },
      recordList "fields" fieldEntry fun entries doc => { doc with fields := entries },
      recordList "relations" relation fun entries doc => { doc with relations := entries }]
    ⟨[], [], []⟩

/-- Reads the text of a snapshot. -/
def Document.parse (text : String) : Except Fault Document :=
  (document Reader.maxDepth).document text

end TypedCatalog.Snapshot
