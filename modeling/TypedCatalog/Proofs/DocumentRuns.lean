import TypedCatalog.Proofs.ChoiceRecords
import TypedCatalog.Proofs.FailedRuns
import TypedCatalog.Proofs.SnapshotContent

/-!
# The units of a document

A document gives units exactly if its entries fit together and the catalog of them is accepted
(`Document.exists_generate_iff`): its choices are at hand, so nothing else can fail. What a lookup
of a field ends in depends on nothing but the entry of that field (`Snapshot.source_congr`).
-/

namespace TypedCatalog.Snapshot

/-! ### Runs -/

/-- Generates the units of the snapshot that a document describes. -/
def Document.generate (document : Document) (settings : Settings) :
    Except GenerationError Output :=
  match ofDocument document with
  | .error error => .error (.snapshot error)
  | .ok snapshot => (snapshot.generator settings).run

/-- The units of a text are those of the document that it reads as. -/
theorem generateText_of_parse {text : String} {document : Document}
    (h : Document.parse text = .ok document) (settings : Settings) :
    generateText text settings = document.generate settings := by
  rw [generateText, parse, h]
  rfl

namespace Document

variable {document : Document} {settings : Settings} {output : Output}

/-- The generator of the entries of a document. -/
def generator (document : Document) (settings : Settings) : Generator :=
  (ofEntries document.collections document.fields document.relations).generator settings

/-- The entities are those of the collections, in order. -/
theorem toList_entities_generator (h : document.Fits) :
    (document.generator settings).catalog.entities.toList =
      document.collections.map (·.toEntity document.fields) :=
  toList_entities_ofEntries h.collections _ _

/-- A document gives the units of its entries unless there is a problem. -/
theorem generate_eq (document : Document) (settings : Settings) :
    document.generate settings =
      document.problem?.elim (document.generator settings).run fun error =>
        .error (.snapshot error) := by
  rw [generate, ofDocument_eq]
  cases document.problem? <;> rfl

theorem generate_eq_ok :
    document.generate settings = .ok output ↔ document.Fits ∧
      (document.generator settings).accept = .ok () ∧
        (document.generator settings).generate = .ok output := by
  rw [generate_eq, ← problem?_eq_none, ← Generator.run_eq_ok]
  cases document.problem? <;> simp

/-- The choices of a document are at hand, so its units can be generated. -/
theorem exists_output (document : Document) (settings : Settings) :
    ∃ output, (document.generator settings).generate = .ok output := exists_generate _ settings

/-- Entries that fit together fail only where their catalog is not accepted. -/
theorem run_eq_error {error : GenerationError} :
    (document.generator settings).run = .error error ↔
      (document.generator settings).accept = .error error := by
  obtain ⟨output, houtput⟩ := document.exists_output settings
  rw [Generator.run, bind_eq_error, houtput]
  simp

theorem exists_generate_iff :
    (∃ output, document.generate settings = .ok output) ↔
      document.Fits ∧ (document.generator settings).accept = .ok () := by
  simp only [generate_eq_ok, exists_and_left, document.exists_output settings, and_true]

end Document

/-! ### What the catalog and the lookups depend on -/

/-- The collections that are declared are those of the document. -/
theorem declares_ofEntries {collections : List CollectionEntry} {fields : List FieldEntry}
    {relations : List Relation} {name : String} :
    (ofEntries collections fields relations).catalog.declares name = true ↔
      name ∈ collections.map (·.collection) :=
  has_ofEntries

/-- Documents that have the same entry for a field, or none, have the same lookup of it. -/
theorem source_congr {fields others : List FieldEntry} (hfields : (fields.map FieldEntry.key).Nodup)
    (hothers : (others.map FieldEntry.key).Nodup) {key : FieldKey}
    (h : ∀ entry : FieldEntry, entry.key = key → (entry ∈ fields ↔ entry ∈ others)) :
    (ChoiceTable.ofRecords (fields.filterMap FieldEntry.record?)).source key =
      (ChoiceTable.ofRecords (others.filterMap FieldEntry.record?)).source key := by
  by_cases hkey : key ∈ fields.map FieldEntry.key
  · obtain ⟨entry, hentry, rfl⟩ := List.mem_map.mp hkey
    rw [source_of_mem hfields hentry, source_of_mem hothers ((h entry rfl).mp hentry)]
  · have hother : key ∉ others.map FieldEntry.key := by
      intro hmem
      obtain ⟨entry, hentry, rfl⟩ := List.mem_map.mp hmem
      exact hkey (List.mem_map_of_mem ((h entry rfl).mpr hentry))
    rw [source_of_not_mem hfields hkey, source_of_not_mem hothers hother]

end TypedCatalog.Snapshot
