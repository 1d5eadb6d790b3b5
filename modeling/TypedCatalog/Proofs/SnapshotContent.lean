import TypedCatalog.Proofs.Documents

/-!
# What a snapshot holds

The snapshot of a document loses nothing and adds nothing (`Snapshot.ofDocument_exact`): it has one
entity for every collection, one field for every field entry, in the entity of its collection, and
the relations one for one, all in the order of the document.
-/

namespace TypedCatalog.Snapshot

/-- Whether a field is what an entry declares. Without a column it has no database type and is never
null. -/
structure FieldEntry.Declares (entry : FieldEntry) (field : Field) : Prop where
  /-- The name. -/
  name : field.name = entry.field
  /-- The kind. -/
  kind : field.kind = .ofName entry.type
  /-- The note. -/
  note : field.note = entry.note
  /-- What follows from the column, or from there being none. -/
  column : match entry.column with
    | some column => field.databaseType = column.dataType ∧ field.nullable = column.nullable
    | none => field.databaseType = none ∧ field.nullable = false

theorem FieldEntry.declares_toField (entry : FieldEntry) : entry.Declares entry.toField := by
  refine ⟨rfl, rfl, rfl, ?_⟩
  cases hcolumn : entry.column <;> simp [toField, hcolumn]

/-- Whether an entity is what a document says of a collection: its name and note, and one field for
every entry of the collection, in order, found under its name. -/
structure CollectionEntry.Describes (fields : List FieldEntry) (entry : CollectionEntry)
    (entity : Entity) : Prop where
  /-- The name. -/
  collection : entity.collection = entry.collection
  /-- The note. -/
  note : entity.note = entry.note
  /-- The fields. -/
  fields : List.Forall₂ (fun fieldEntry field =>
      fieldEntry.Declares field ∧ entity.fields.find? fieldEntry.field = some field)
    (fields.filter (·.collection == entry.collection)) entity.fields.toList

/-- The fields that are declared for a collection have different names. -/
theorem nodup_fields {fields : List FieldEntry} (h : (fields.map FieldEntry.key).Nodup)
    (collection : String) :
    (((fields.filter (·.collection == collection)).map FieldEntry.toField).map
      Named.name).Nodup := by
  rw [List.map_map, List.Nodup, List.pairwise_map]
  refine ((List.pairwise_map.mp h).filter _).imp_of_mem fun {first second} hfirst hsecond hne => ?_
  have hcollection : first.collection = second.collection := by
    rw [beq_iff_eq.mp (List.mem_filter.mp hfirst).2, beq_iff_eq.mp (List.mem_filter.mp hsecond).2]
  intro hname
  refine hne ?_
  rw [FieldEntry.key, FieldEntry.key, hcollection]
  exact congrArg (FieldKey.mk _) hname

theorem CollectionEntry.toList_fields_toEntity {fields : List FieldEntry}
    (h : (fields.map FieldEntry.key).Nodup) (entry : CollectionEntry) :
    (entry.toEntity fields).fields.toList =
      (fields.filter (·.collection == entry.collection)).map FieldEntry.toField :=
  Roster.toList_ofList (nodup_fields h entry.collection)

theorem CollectionEntry.describes_toEntity {fields : List FieldEntry}
    (h : (fields.map FieldEntry.key).Nodup) (entry : CollectionEntry) :
    entry.Describes fields (entry.toEntity fields) := by
  refine ⟨rfl, rfl, ?_⟩
  rw [toList_fields_toEntity h, List.forall₂_map_right_iff, List.forall₂_same]
  intro field hfield
  refine ⟨field.declares_toField, ?_⟩
  have hmem : field.toField ∈ (entry.toEntity fields).fields.toList := by
    rw [toList_fields_toEntity h]
    exact List.mem_map_of_mem hfield
  exact Roster.find?_of_mem hmem

/-- A document describes a snapshot exactly if its entries fit together. The snapshot then holds one
entity for every collection, in order and found under its name, with exactly the fields that are
declared for it, and the relations one for one. Otherwise the error is that of the first entry that
does not fit. A text that reads as the document describes the same. -/
theorem ofDocument_exact (document : Document) :
    ((∃ snapshot, ofDocument document = .ok snapshot) ↔ document.Fits) ∧
    (∀ snapshot, ofDocument document = .ok snapshot →
      List.Forall₂ (fun entry entity => entry.Describes document.fields entity ∧
          snapshot.catalog.entity? entry.collection = some entity)
        document.collections snapshot.catalog.entities.toList ∧
      snapshot.catalog.relations = document.relations) ∧
    (∀ error, ofDocument document = .error error ↔ document.Offends error) ∧
    ∀ text, Document.parse text = .ok document → parse text = ofDocument document := by
  refine ⟨exists_ofDocument_iff, fun snapshot h => ?_, fun error => ofDocument_eq_error,
    fun text h => ?_⟩
  · obtain ⟨hfits, rfl⟩ := ofDocument_eq_ok.mp h
    refine ⟨?_, rfl⟩
    rw [toList_entities_ofEntries hfits.collections, List.forall₂_map_right_iff,
      List.forall₂_same]
    intro entry hentry
    exact ⟨entry.describes_toEntity hfits.fields,
      entity?_ofEntries hfits.collections _ _ hentry⟩
  · rw [parse, h]

/-- Authors and articles with their fields in turns, and a field with choices. -/
def blogDocument : Document where
  collections := [⟨"authors", some "People who write"⟩, ⟨"articles", none⟩]
  fields := [
    ⟨"articles", "id", "uuid", none, none, some ⟨some "uuid", false⟩⟩,
    ⟨"authors", "articles", "alias", some "Written articles", none, none⟩,
    ⟨"articles", "status", "string", none,
      some (.object [("choices", .list [.object [("value", .text "draft")]])]),
      some ⟨none, true⟩⟩]
  relations := [(Relation.toOne "articles" "author" "authors").withOneField "articles"]

/-- Several faults: a field of no declared collection, a field declared twice and a relation without
a name. -/
def strayDocument : Document where
  collections := [⟨"articles", none⟩]
  fields := [
    ⟨"articles", "id", "uuid", none, none, none⟩,
    ⟨"ghosts", "id", "uuid", none, none, none⟩,
    ⟨"articles", "id", "integer", none, none, none⟩]
  relations := [⟨"", "author", none, none, none⟩]

/-- Fields in turns come to their own collections, and of several faults the first is the error. -/
theorem ofDocument_exact_blog :
    blogDocument.Fits ∧
      (∃ snapshot, ofDocument blogDocument = .ok snapshot ∧
        snapshot.catalog.relations = blogDocument.relations ∧
        ∃ entity, snapshot.catalog.entity? "articles" = some entity ∧
          entity.fields.toList = [⟨"id", .uuid, false, none, some "uuid"⟩,
            ⟨"status", .string, true, none, none⟩]) ∧
      ofDocument strayDocument = .error (.unknownCollection "ghosts" "field 'id'") := by
  obtain ⟨hfits, hholds, -, -⟩ := ofDocument_exact blogDocument
  obtain ⟨snapshot, h⟩ : ∃ snapshot, ofDocument blogDocument = .ok snapshot := ⟨_, rfl⟩
  refine ⟨hfits.mp ⟨snapshot, h⟩, ⟨snapshot, h, (hholds snapshot h).2, ?_⟩, ?_⟩
  · cases h
    exact ⟨_, rfl, rfl⟩
  · have hoffends : strayDocument.Offends (.unknownCollection "ghosts" "field 'id'") :=
      @Document.Offends.unknown _ (strayDocument.fields.take 1) (strayDocument.fields.drop 2)
        ⟨"ghosts", "id", "uuid", none, none, none⟩ (by decide) rfl (by decide) (by decide)
        (by decide)
    exact ((ofDocument_exact strayDocument).2.2.1 _).mpr hoffends

end TypedCatalog.Snapshot
