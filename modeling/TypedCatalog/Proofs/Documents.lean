import Mathlib.Data.List.Nodup
import TypedCatalog.Proofs.Outcomes
import TypedCatalog.Snapshot.Basic

/-!
# Documents whose entries fit together

A document describes a snapshot exactly if its entries fit together (`Document.Fits`): names are
declared once, fields belong to declared collections, and relations name their fields. The snapshot
is then made of all the entries (`Snapshot.ofDocument_eq_ok`). Otherwise the error is that of the
first offending entry, where all collections come before all fields and these before all relations
(`Snapshot.ofDocument_eq_error`).
-/

namespace TypedCatalog.Snapshot

/-! ### Entries that fit together -/

namespace Document

/-- The names of the declared collections, in order. -/
def names (document : Document) : List String := document.collections.map (·.collection)

/-- Whether the entries of a document fit together. -/
structure Fits (document : Document) : Prop where
  /-- No collection is declared twice. -/
  collections : document.names.Nodup
  /-- Every field belongs to a declared collection. -/
  known : ∀ entry ∈ document.fields, entry.collection ∈ document.names
  /-- No field is declared twice. -/
  fields : (document.fields.map FieldEntry.key).Nodup
  /-- Every relation names the field that holds its key. -/
  relations : ∀ relation ∈ document.relations, relation.collection ≠ "" ∧ relation.field ≠ ""

/-- Whether an error tells of the first entry that does not fit to those before it. A field of a
collection that is not declared is not looked at any further. -/
inductive Offends (document : Document) : SnapshotError → Prop where
  /-- A collection is declared twice. -/
  | collection {before after : List CollectionEntry} {entry : CollectionEntry}
    (split : document.collections = before ++ entry :: after)
    (passed : (before.map (·.collection)).Nodup)
    (twice : entry.collection ∈ before.map (·.collection)) :
    Offends document (.duplicate "collection" entry.collection)
  /-- A field belongs to a collection that is not declared. -/
  | unknown {before after : List FieldEntry} {entry : FieldEntry}
    (collections : document.names.Nodup)
    (split : document.fields = before ++ entry :: after)
    (known : ∀ earlier ∈ before, earlier.collection ∈ document.names)
    (passed : (before.map FieldEntry.key).Nodup)
    (unknown : entry.collection ∉ document.names) :
    Offends document (.unknownCollection entry.collection ("field '" ++ entry.field ++ "'"))
  /-- A field is declared twice. -/
  | field {before after : List FieldEntry} {entry : FieldEntry}
    (collections : document.names.Nodup)
    (split : document.fields = before ++ entry :: after)
    (known : ∀ earlier ∈ before, earlier.collection ∈ document.names)
    (passed : (before.map FieldEntry.key).Nodup)
    (declared : entry.collection ∈ document.names)
    (twice : entry.key ∈ before.map FieldEntry.key) :
    Offends document (.duplicate "field" (entry.collection ++ "." ++ entry.field))
  /-- A relation does not name its field. -/
  | relation {before after : List Relation} {relation : Relation}
    (collections : document.names.Nodup)
    (known : ∀ entry ∈ document.fields, entry.collection ∈ document.names)
    (fields : (document.fields.map FieldEntry.key).Nodup)
    (split : document.relations = before ++ relation :: after)
    (passed : ∀ earlier ∈ before, earlier.collection ≠ "" ∧ earlier.field ≠ "")
    (unnamed : relation.collection = "" ∨ relation.field = "") :
    Offends document (.invalidStructure "relation without collection or field")

end Document

/-! ### The snapshot of entries that fit together -/

/-- The entity of a collection, with the fields that are declared for it, in order. -/
def CollectionEntry.toEntity (fields : List FieldEntry) (entry : CollectionEntry) : Entity where
  collection := entry.collection
  note := entry.note
  fields := .ofList ((fields.filter (·.collection == entry.collection)).map FieldEntry.toField)

/-- The snapshot of the given entries. -/
def ofEntries (collections : List CollectionEntry) (fields : List FieldEntry)
    (relations : List Relation) : Snapshot where
  catalog := ⟨.ofList (collections.map (·.toEntity fields)), relations⟩
  choices := fields.filterMap FieldEntry.record?

theorem map_name_toEntity (collections : List CollectionEntry) (fields : List FieldEntry) :
    (collections.map (·.toEntity fields)).map Named.name = collections.map (·.collection) := by
  rw [List.map_map]
  rfl

/-- The collections of the snapshot are the declared ones. -/
theorem has_ofEntries {collections : List CollectionEntry} {fields : List FieldEntry}
    {relations : List Relation} {name : String} :
    (ofEntries collections fields relations).catalog.has name = true ↔
      name ∈ collections.map (·.collection) := by
  rw [Catalog.has, Roster.contains_eq_true, ofEntries, Roster.mem_names_ofList, map_name_toEntity]

/-- One more field changes the entity of its own collection only. -/
theorem CollectionEntry.toEntity_append (fields : List FieldEntry) (field : FieldEntry)
    (entry : CollectionEntry) :
    entry.toEntity (fields ++ [field]) =
      if field.collection = entry.collection then (entry.toEntity fields).addField field.toField
      else entry.toEntity fields := by
  unfold toEntity
  rw [List.filter_append, List.map_append]
  split
  · rename_i h
    rw [List.filter_singleton, beq_iff_eq.mpr h, cond_true, List.map_singleton,
      Roster.ofList_append_singleton]
    rfl
  · rename_i h
    rw [List.filter_singleton, beq_eq_false_iff_ne.mpr h, cond_false, List.map_nil,
      List.append_nil]

/-- A collection has a field of the given name exactly if one is declared for it. -/
theorem CollectionEntry.contains_toEntity {fields : List FieldEntry} {entry : CollectionEntry}
    {name : String} :
    (entry.toEntity fields).fields.contains name = true ↔
      ⟨entry.collection, name⟩ ∈ fields.map FieldEntry.key := by
  rw [Roster.contains_eq_true, toEntity, Roster.mem_names_ofList]
  simp only [List.map_map, List.mem_map, List.mem_filter, beq_iff_eq, Function.comp_apply]
  constructor
  · rintro ⟨field, ⟨hfield, hcollection⟩, rfl⟩
    exact ⟨field, hfield, by rw [FieldEntry.key, hcollection]; rfl⟩
  · rintro ⟨field, hfield, hkey⟩
    exact ⟨field, ⟨hfield, congrArg FieldKey.collection hkey⟩, congrArg FieldKey.field hkey⟩

/-! ### The steps -/

/-- What is wrong with a collection after those before it. -/
def collectionProblem? (before : List CollectionEntry) (entry : CollectionEntry) :
    Option SnapshotError :=
  if entry.collection ∈ before.map (·.collection) then
    some (.duplicate "collection" entry.collection)
  else none

/-- What is wrong with a field of a document with the given collections, after the fields before
it. -/
def fieldProblem? (names : List String) (before : List FieldEntry) (entry : FieldEntry) :
    Option SnapshotError :=
  if entry.collection ∉ names then
    some (.unknownCollection entry.collection ("field '" ++ entry.field ++ "'"))
  else if entry.key ∈ before.map FieldEntry.key then
    some (.duplicate "field" (entry.collection ++ "." ++ entry.field))
  else none

/-- What is wrong with a relation. -/
def relationProblem? (relation : Relation) : Option SnapshotError :=
  if relation.collection = "" ∨ relation.field = "" then
    some (.invalidStructure "relation without collection or field")
  else none

theorem collectionProblem?_eq_some {before : List CollectionEntry} {entry : CollectionEntry}
    {error : SnapshotError} :
    collectionProblem? before entry = some error ↔
      entry.collection ∈ before.map (·.collection) ∧
        .duplicate "collection" entry.collection = error := by
  rw [collectionProblem?, Option.ite_none_right_eq_some, Option.some_inj]

theorem fieldProblem?_eq_some {names : List String} {before : List FieldEntry}
    {entry : FieldEntry} {error : SnapshotError} :
    fieldProblem? names before entry = some error ↔
      entry.collection ∉ names ∧
          .unknownCollection entry.collection ("field '" ++ entry.field ++ "'") = error ∨
        (entry.collection ∈ names ∧ entry.key ∈ before.map FieldEntry.key) ∧
          .duplicate "field" (entry.collection ++ "." ++ entry.field) = error := by
  unfold fieldProblem?
  by_cases hknown : entry.collection ∈ names
  · simp only [hknown, not_true, if_false, Option.ite_none_right_eq_some, Option.some_inj,
      false_and, true_and, false_or]
  · simp only [hknown, not_false_iff, if_true, Option.some_inj, true_and, false_and, or_false]

theorem relationProblem?_eq_some {relation : Relation} {error : SnapshotError} :
    relationProblem? relation = some error ↔ (relation.collection = "" ∨ relation.field = "") ∧
      .invalidStructure "relation without collection or field" = error := by
  rw [relationProblem?, Option.ite_none_right_eq_some, Option.some_inj]

theorem addCollection_ofEntries (before : List CollectionEntry) (entry : CollectionEntry) :
    addCollection (ofEntries before [] []) entry =
      (collectionProblem? before entry).elim (.ok (ofEntries (before ++ [entry]) [] []))
        .error := by
  have hhas : (ofEntries before [] []).catalog.has entry.collection = true ↔
      entry.collection ∈ before.map (·.collection) := has_ofEntries
  unfold addCollection collectionProblem?
  by_cases h : entry.collection ∈ before.map (·.collection)
  · rw [if_pos h, if_pos (hhas.mpr h)]
    rfl
  · rw [if_neg h, if_neg (mt hhas.mp h), Option.elim_none, ofEntries, ofEntries, List.map_append,
      List.map_singleton, Roster.ofList_append_singleton]
    rfl

section Fields

variable {collections : List CollectionEntry} (h : (collections.map (·.collection)).Nodup)
include h

theorem toList_entities_ofEntries (fields : List FieldEntry) (relations : List Relation) :
    (ofEntries collections fields relations).catalog.entities.toList =
      collections.map (·.toEntity fields) :=
  Roster.toList_ofList (by rwa [map_name_toEntity])

/-- A declared collection is found under its name. -/
theorem entity?_ofEntries (fields : List FieldEntry) (relations : List Relation)
    {entry : CollectionEntry} (hentry : entry ∈ collections) :
    (ofEntries collections fields relations).catalog.entity? entry.collection =
      some (entry.toEntity fields) := by
  have hmem : entry.toEntity fields ∈
      (ofEntries collections fields relations).catalog.entities.toList := by
    rw [toList_entities_ofEntries h]
    exact List.mem_map_of_mem hentry
  exact Roster.find?_of_mem hmem

/-- A new field of a declared collection is added to the entity of that collection. -/
theorem addEntity_ofEntries (fields : List FieldEntry) {field : FieldEntry}
    {entry : CollectionEntry} (hentry : entry ∈ collections)
    (hfield : field.collection = entry.collection) :
    (ofEntries collections fields []).catalog.addEntity
        ((entry.toEntity fields).addField field.toField) =
      (ofEntries collections (fields ++ [field]) []).catalog := by
  have hnames := (map_name_toEntity collections fields).symm ▸ h
  have hmem : entry.collection ∈ (collections.map (·.toEntity fields)).map Named.name := by
    rw [map_name_toEntity]
    exact List.mem_map_of_mem hentry
  have hentities : ((ofEntries collections fields []).catalog.entities.insert
      ((entry.toEntity fields).addField field.toField)).toList =
        (ofEntries collections (fields ++ [field]) []).catalog.entities.toList := by
    rw [Roster.toList_insert, toList_entities_ofEntries h, toList_entities_ofEntries h,
      Roster.put_of_mem hnames hmem, List.map_map]
    refine List.map_congr_left fun other hother => ?_
    rw [Function.comp_apply, CollectionEntry.toEntity_append, hfield]
    by_cases hsame : other.collection = entry.collection
    · obtain rfl := List.inj_on_of_nodup_map h hother hentry hsame
      rw [if_pos rfl]
      exact if_pos rfl
    · rw [if_neg (Ne.symm hsame)]
      exact if_neg hsame
  exact congrArg (Catalog.mk · []) (Roster.eq_of_toList_eq hentities)

theorem addField_ofEntries (before : List FieldEntry) (field : FieldEntry) :
    addField (ofEntries collections before []) field =
      (fieldProblem? (collections.map (·.collection)) before field).elim
        (.ok (ofEntries collections (before ++ [field]) [])) .error := by
  unfold addField fieldProblem?
  by_cases hknown : field.collection ∈ collections.map (·.collection)
  · obtain ⟨entry, hentry, hcollection⟩ := List.mem_map.mp hknown
    have hfind : (ofEntries collections before []).catalog.entity? field.collection =
        some (entry.toEntity before) := hcollection ▸ entity?_ofEntries h before [] hentry
    have hcontains : (entry.toEntity before).fields.contains field.field = true ↔
        field.key ∈ before.map FieldEntry.key := by
      rw [CollectionEntry.contains_toEntity, hcollection]
      rfl
    rw [hfind, if_neg (not_not.mpr hknown)]
    dsimp only
    by_cases htwice : field.key ∈ before.map FieldEntry.key
    · rw [if_pos htwice, if_pos (hcontains.mpr htwice)]
      rfl
    · rw [if_neg htwice, if_neg (mt hcontains.mp htwice),
        addEntity_ofEntries h before hentry hcollection.symm, Option.elim_none, ofEntries,
        List.filterMap_append]
      rfl
  · have hfind : (ofEntries collections before []).catalog.entity? field.collection = none := by
      rw [← Option.not_isSome_iff_eq_none, Catalog.entity?, Roster.isSome_find?]
      exact mt has_ofEntries.mp hknown
    rw [hfind, if_pos hknown]
    rfl

end Fields

theorem addRelation_ofEntries (collections : List CollectionEntry) (fields : List FieldEntry)
    (before : List Relation) (relation : Relation) :
    addRelation (ofEntries collections fields before) relation =
      (relationProblem? relation).elim
        (.ok (ofEntries collections fields (before ++ [relation]))) .error := by
  unfold addRelation relationProblem?
  by_cases h : relation.collection = "" ∨ relation.field = ""
  · rw [if_pos h, if_pos (by simpa using h)]
    rfl
  · rw [if_neg h, if_neg (by simpa using h)]
    rfl

/-! ### The whole document -/

/-- The first problem of a document: all collections come before all fields, and these before all
relations. -/
def Document.problem? (document : Document) : Option SnapshotError :=
  (firstProblem collectionProblem? [] document.collections).or
    ((firstProblem (fieldProblem? document.names) [] document.fields).or
      (firstProblem (fun _ => relationProblem?) [] document.relations))

theorem firstProblem_collections_eq_none {collections : List CollectionEntry} :
    firstProblem collectionProblem? [] collections = none ↔
      (collections.map (·.collection)).Nodup := by
  have hstep : ∀ before (entry : CollectionEntry), collectionProblem? before entry = none ↔
      True ∧ entry.collection ∉ before.map (·.collection) := by
    intro before entry
    unfold collectionProblem?
    split <;> simp_all
  exact (firstProblem_eq_none_iff_nodup hstep [] collections).trans (by simp)

theorem firstProblem_fields_eq_none {names : List String} {fields : List FieldEntry} :
    firstProblem (fieldProblem? names) [] fields = none ↔
      (∀ entry ∈ fields, entry.collection ∈ names) ∧ (fields.map FieldEntry.key).Nodup := by
  have hstep : ∀ before (entry : FieldEntry), fieldProblem? names before entry = none ↔
      entry.collection ∈ names ∧ entry.key ∉ before.map FieldEntry.key := by
    intro before entry
    unfold fieldProblem?
    split
    · simp_all
    · split <;> simp_all
  exact (firstProblem_eq_none_iff_nodup hstep [] fields).trans (by simp)

theorem firstProblem_relations_eq_none {relations : List Relation} :
    firstProblem (fun _ => relationProblem?) [] relations = none ↔
      ∀ relation ∈ relations, relation.collection ≠ "" ∧ relation.field ≠ "" := by
  have hstep : ∀ (_ : List Relation) (relation : Relation), relationProblem? relation = none ↔
      relation.collection ≠ "" ∧ relation.field ≠ "" := by
    intro _ relation
    simp [relationProblem?]
  exact firstProblem_eq_none hstep [] relations

namespace Document

variable {document : Document}

/-- A document has no problem exactly if its entries fit together. -/
theorem problem?_eq_none : document.problem? = none ↔ document.Fits := by
  rw [problem?, Option.or_eq_none_iff, Option.or_eq_none_iff, firstProblem_collections_eq_none,
    firstProblem_fields_eq_none, firstProblem_relations_eq_none]
  exact ⟨fun ⟨hcollections, ⟨hknown, hfields⟩, hrelations⟩ =>
    ⟨hcollections, hknown, hfields, hrelations⟩,
    fun h => ⟨h.collections, ⟨h.known, h.fields⟩, h.relations⟩⟩

/-- The problem of a document is that of the first entry that does not fit. -/
theorem problem?_eq_some {error : SnapshotError} :
    document.problem? = some error ↔ document.Offends error := by
  rw [problem?, Option.or_eq_some_iff, Option.or_eq_some_iff, firstProblem_collections_eq_none,
    firstProblem_fields_eq_none, firstProblem_eq_some, firstProblem_eq_some, firstProblem_eq_some]
  simp only [List.nil_append, firstProblem_collections_eq_none, firstProblem_fields_eq_none,
    firstProblem_relations_eq_none, collectionProblem?_eq_some, fieldProblem?_eq_some,
    relationProblem?_eq_some]
  constructor
  · rintro (⟨before, entry, after, split, passed, twice, rfl⟩ | ⟨collections,
      ⟨before, entry, after, split, ⟨known, passed⟩, ⟨unknown, rfl⟩ | ⟨⟨declared, twice⟩, rfl⟩⟩ |
      ⟨⟨known, fields⟩, before, relation, after, split, passed, unnamed, rfl⟩⟩)
    · exact .collection split passed twice
    · exact .unknown collections split known passed unknown
    · exact .field collections split known passed declared twice
    · exact .relation collections known fields split passed unnamed
  · rintro (⟨split, passed, twice⟩ | ⟨collections, split, known, passed, unknown⟩ |
      ⟨collections, split, known, passed, declared, twice⟩ |
      ⟨collections, known, fields, split, passed, unnamed⟩)
    · exact .inl ⟨_, _, _, split, passed, twice, rfl⟩
    · exact .inr ⟨collections, .inl ⟨_, _, _, split, ⟨known, passed⟩, .inl ⟨unknown, rfl⟩⟩⟩
    · exact .inr ⟨collections,
        .inl ⟨_, _, _, split, ⟨known, passed⟩, .inr ⟨⟨declared, twice⟩, rfl⟩⟩⟩
    · exact .inr ⟨collections,
        .inr ⟨⟨known, fields⟩, _, _, _, split, passed, unnamed, rfl⟩⟩

end Document

/-- A document describes the snapshot of its entries unless there is a problem. -/
theorem ofDocument_eq (document : Document) :
    ofDocument document =
      document.problem?.elim (.ok (ofEntries document.collections document.fields
        document.relations)) .error := by
  have hempty : empty = ofEntries [] [] [] := rfl
  rw [ofDocument, hempty, foldlM_eq_firstProblem (ofEntries · [] []) addCollection_ofEntries,
    elim_bind, Document.problem?, List.nil_append]
  cases hcollections : firstProblem collectionProblem? [] document.collections with
  | some error => rfl
  | none =>
    have hnames := firstProblem_collections_eq_none.mp hcollections
    rw [Option.elim_none, Option.none_or, foldlM_eq_firstProblem
      (ofEntries document.collections · []) (addField_ofEntries hnames), elim_bind,
      List.nil_append, foldlM_eq_firstProblem (ofEntries document.collections document.fields)
      (addRelation_ofEntries document.collections document.fields), Document.names]
    cases firstProblem (fieldProblem? (document.collections.map (·.collection))) []
      document.fields <;> rfl

section Document

variable {document : Document} {snapshot : Snapshot}

theorem ofDocument_eq_ok :
    ofDocument document = .ok snapshot ↔ document.Fits ∧
      ofEntries document.collections document.fields document.relations = snapshot := by
  rw [ofDocument_eq, ← Document.problem?_eq_none]
  cases document.problem? <;> simp

/-- A document describes a snapshot exactly if its entries fit together. -/
theorem exists_ofDocument_iff : (∃ snapshot, ofDocument document = .ok snapshot) ↔
    document.Fits := by
  simp only [ofDocument_eq_ok, exists_and_left, exists_eq', and_true]

theorem ofDocument_eq_error {error : SnapshotError} :
    ofDocument document = .error error ↔ document.Offends error := by
  rw [ofDocument_eq, ← Document.problem?_eq_some]
  cases document.problem? <;> simp

end Document

end TypedCatalog.Snapshot
