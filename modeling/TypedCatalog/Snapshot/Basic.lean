import TypedCatalog.Snapshot.Document

/-!
# Snapshots

`Snapshot.ofDocument` turns a document into a catalog and the records of its fields' choices. The
collections come first, then the fields, then the relations, and the first entry that does not fit
what came before it is the error. Choices that cannot be read are no error of the snapshot: they are
recorded for their field.
-/

namespace TypedCatalog

open Json

/-- Why a text is no snapshot. -/
inductive SnapshotError where
  /-- The text is not the JSON of a document. -/
  | json (fault : Fault)
  /-- Something refers to a collection that is not declared. -/
  | unknownCollection (collection context : String)
  /-- A collection or a field is declared twice. -/
  | duplicate (kind name : String)
  /-- An entry lacks what it cannot do without. -/
  | invalidStructure (detail : String)
  deriving DecidableEq, Repr

namespace SnapshotError

/-- The wording of an error. -/
def message : SnapshotError → String
  | json fault => "JSON parsing error: " ++ fault.message
  | unknownCollection collection context =>
    "unknown collection '" ++ collection ++ "' referenced by " ++ context
  | duplicate kind name => "duplicate " ++ kind ++ " definition: '" ++ name ++ "'"
  | invalidStructure detail => "invalid snapshot structure: " ++ detail

/-- What caused an error, the nearest cause first. -/
def causes : SnapshotError → List String
  | json fault => [fault.message]
  | _ => []

end SnapshotError

/-- A catalog and what is known about the choices of its fields. -/
structure Snapshot where
  /-- The catalog. -/
  catalog : Catalog
  /-- The records of choices, in the order of the document. -/
  choices : List ChoiceRecord

namespace Snapshot

/-- The snapshot of an empty document. -/
def empty : Snapshot := ⟨.empty, []⟩

/-- What the options of a field say about its choices. Without an object, without `choices` in it
or with null there, no choices are configured. -/
def choicesOf (options : Option Value) : Except String (Option (List Choice)) :=
  match options.bind (·.member? "choices") with
  | none => .ok none
  | some .null => .ok none
  | some value =>
    match Choice.listOfValue value with
    | .ok choices => .ok (some choices)
    | .error reason => .error ("invalid choices: " ++ reason.message)

/-- The key of a field entry. -/
def FieldEntry.key (entry : FieldEntry) : FieldKey := ⟨entry.collection, entry.field⟩

/-- The field of an entry. Without a column it has no database type and is never null. -/
def FieldEntry.toField (entry : FieldEntry) : Field where
  name := entry.field
  kind := .ofName entry.type
  nullable := (entry.column.map (·.nullable)).getD false
  note := entry.note
  databaseType := entry.column.bind (·.dataType)

/-- The record of an entry's choices, if there is something to record. -/
def FieldEntry.record? (entry : FieldEntry) : Option ChoiceRecord :=
  match choicesOf entry.options with
  | .ok none => none
  | choices => some ⟨entry.key, choices⟩

/-- Declares a collection. -/
def addCollection (snapshot : Snapshot) (entry : CollectionEntry) :
    Except SnapshotError Snapshot :=
  if snapshot.catalog.has entry.collection then .error (.duplicate "collection" entry.collection)
  else
    .ok { snapshot with
      catalog := snapshot.catalog.addEntity { Entity.ofName entry.collection with
        note := entry.note } }

/-- Declares a field. -/
def addField (snapshot : Snapshot) (entry : FieldEntry) : Except SnapshotError Snapshot :=
  match snapshot.catalog.entity? entry.collection with
  | none => .error (.unknownCollection entry.collection ("field '" ++ entry.field ++ "'"))
  | some entity =>
    if entity.fields.contains entry.field then
      .error (.duplicate "field" (entry.collection ++ "." ++ entry.field))
    else
      .ok {
        catalog := snapshot.catalog.addEntity (entity.addField entry.toField)
        choices := snapshot.choices ++ entry.record?.toList }

/-- Declares a relation. -/
def addRelation (snapshot : Snapshot) (relation : Relation) : Except SnapshotError Snapshot :=
  if relation.collection.isEmpty || relation.field.isEmpty then
    .error (.invalidStructure "relation without collection or field")
  else .ok { snapshot with catalog := snapshot.catalog.addRelation relation }

/-- The snapshot that a document describes. -/
def ofDocument (document : Document) : Except SnapshotError Snapshot := do
  let withCollections ← document.collections.foldlM addCollection empty
  let withFields ← document.fields.foldlM addField withCollections
  document.relations.foldlM addRelation withFields

/-- The snapshot in a text. -/
def parse (text : String) : Except SnapshotError Snapshot :=
  match Document.parse text with
  | .error fault => .error (.json fault)
  | .ok document => ofDocument document

/-- The choices of the snapshot as a table. -/
def table (snapshot : Snapshot) : ChoiceTable := .ofRecords snapshot.choices

end Snapshot

end TypedCatalog
