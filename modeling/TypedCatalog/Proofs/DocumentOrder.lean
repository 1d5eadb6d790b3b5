import TypedCatalog.Proofs.FailedFields
import TypedCatalog.Proofs.FieldIsolation

/-!
# The order of a document

The order of the collections, of the relations, and of fields of different collections does not
matter for what is generated (`Snapshot.order_free`). Documents that differ in it describe snapshots
for both or for neither, and give units for both or for neither; each collection has one unit in
both outputs, and only the order of the units and of the index follows the order of the collections.
-/

namespace TypedCatalog

open Naming

/-! ### Outputs -/

namespace Output

/-- The unit of a collection. -/
def unit? (output : Output) (collection : String) : Option ModelUnit :=
  output.models.find? (·.model.declaration.collection == collection)

/-- Whether the models and the index of an output are in the order of the given collections. -/
structure Follows (output : Output) (names : List String) : Prop where
  /-- There is one model for each collection, in order. -/
  models : output.models.map (·.model.declaration.collection) = names
  /-- The index imports each type once, in the order in which the collections first come to it. -/
  imports : output.index.declaration.imports = firstOccurrences (names.map typeIdentifier)
  /-- There is one member of the index for each collection, in order. -/
  members : output.index.declaration.members = names.map fun name => (name, typeIdentifier name)

/-- Whether two outputs differ in nothing but order. -/
structure Reorders (output other : Output) : Prop where
  /-- The models are the same. -/
  models : output.models.Perm other.models
  /-- The index goes to the same file. -/
  fileName : other.index.fileName = output.index.fileName
  /-- The index declares the same name. -/
  typeName : other.index.declaration.typeName = output.index.declaration.typeName
  /-- The index imports the same types. -/
  imports : output.index.declaration.imports.Perm other.index.declaration.imports
  /-- The index has the same members. -/
  members : output.index.declaration.members.Perm other.index.declaration.members

/-- Outputs that differ only in order have the same units, if every collection has one of its own.
-/
theorem Reorders.unit?_eq {output other : Output} (h : output.Reorders other)
    (distinct : (output.models.map (·.model.declaration.collection)).Nodup) (collection : String) :
    other.unit? collection = output.unit? collection := by
  have hother := (h.models.map (·.model.declaration.collection)).nodup_iff.mp distinct
  refine Option.ext fun unit => ?_
  rw [unit?, unit?, find?_eq_some_iff_of_nodup hother, find?_eq_some_iff_of_nodup distinct,
    h.models.mem_iff]

theorem Follows.exists_unit? {output : Output} {names : List String} (h : output.Follows names)
    {name : String} (hname : name ∈ names) : ∃ unit, output.unit? name = some unit := by
  rw [← h.models] at hname
  obtain ⟨unit, hunit, hcollection⟩ := List.mem_map.mp hname
  rw [← Option.isSome_iff_exists, unit?, List.find?_isSome]
  exact ⟨unit, hunit, beq_iff_eq.mpr hcollection⟩

end Output

namespace Generator

variable {generator other : Generator}

/-- Whether a catalog is accepted does not depend on the order of its entities. -/
theorem accept_eq_ok_of_perm
    (h : generator.catalog.entities.toList.Perm other.catalog.entities.toList)
    (hsettings : generator.settings = other.settings) :
    generator.accept = .ok () ↔ other.accept = .ok () := by
  rw [accept_eq_ok, accept_eq_ok, Catalog.checkIdentifiers_eq_ok, Catalog.checkIdentifiers_eq_ok,
    Catalog.collisions_eq_nil_iff, Catalog.collisions_eq_nil_iff, indexClashes_eq_nil_iff,
    indexClashes_eq_nil_iff, (h.map Entity.foldedName).nodup_iff, hsettings]
  simp only [h.mem_iff]

/-- An output is in the order of the catalog. -/
theorem follows_of_generate {output : Output} (h : generator.generate = .ok output) :
    output.Follows (generator.catalog.entities.toList.map Entity.collection) := by
  refine ⟨map_collection_models h, ?_, ?_⟩
  · rw [(generate_eq_ok.mp h).2, List.map_map]
    rfl
  · rw [(generate_eq_ok.mp h).2, List.map_map]
    rfl

/-- Catalogs whose entities are the same, with fields that can see the same, give the same units. -/
theorem reorders_of_perm {output otherOutput : Output}
    (h : generator.catalog.entities.toList.Perm other.catalog.entities.toList)
    (hsettings : generator.settings = other.settings)
    (hsees : ∀ entity ∈ other.catalog.entities.toList, ∀ field ∈ entity.fields.toList,
      generator.SeesAlike other entity.collection field)
    (hgenerate : generator.generate = .ok output) (hother : other.generate = .ok otherOutput) :
    output.Reorders otherOutput := by
  obtain ⟨hmodels, hindex⟩ := generate_eq_ok.mp hgenerate
  obtain ⟨hotherModels, hotherIndex⟩ := generate_eq_ok.mp hother
  rw [← mapM_eq_ok] at hmodels hotherModels
  rw [← mapM_congr fun entity hentity => modelUnit_congr (hsees entity hentity) hsettings]
    at hotherModels
  refine ⟨perm_of_mapM h hmodels hotherModels, ?_, ?_, ?_, ?_⟩
  · rw [hindex, hotherIndex, indexUnit, indexUnit, hsettings]
  · rw [hindex, hotherIndex, indexUnit, indexUnit, hsettings]
    rfl
  · rw [hindex, hotherIndex]
    refine (List.perm_ext_iff_of_nodup (nodup_firstOccurrences _)
      (nodup_firstOccurrences _)).mpr fun name => ?_
    rw [mem_firstOccurrences, mem_firstOccurrences, (h.map Entity.typeName).mem_iff]
  · rw [hindex, hotherIndex]
    exact h.map _

end Generator

namespace Snapshot

/-! ### Documents in another order -/

/-- Whether two documents differ only in the order of collections, of relations, and of fields of
different collections. -/
structure Document.Rearranged (document other : Document) : Prop where
  /-- The collections are the same. -/
  collections : document.collections.Perm other.collections
  /-- Every collection has the same fields, in order. -/
  fields : ∀ collection, document.fields.filter (·.collection == collection) =
    other.fields.filter (·.collection == collection)
  /-- The relations are the same. -/
  relations : document.relations.Perm other.relations

namespace Document.Rearranged

variable {document other : Document} (h : document.Rearranged other)
include h

theorem symm : other.Rearranged document :=
  ⟨h.collections.symm, fun collection => (h.fields collection).symm, h.relations.symm⟩

theorem perm_names : document.names.Perm other.names := h.collections.map _

/-- The fields are the same. -/
theorem perm_fields : document.fields.Perm other.fields := by
  classical
  refine List.perm_iff_count.mpr fun entry => ?_
  have hcount := congrArg (List.count entry) (h.fields entry.collection)
  have hfilter : ∀ entries : List FieldEntry,
      (entries.filter (·.collection == entry.collection)).count entry = entries.count entry :=
    fun entries => List.count_filter (beq_self_eq_true entry.collection)
  rwa [hfilter, hfilter] at hcount

theorem fits (hfits : document.Fits) : other.Fits where
  collections := h.perm_names.nodup_iff.mp hfits.collections
  known entry hentry :=
    h.perm_names.mem_iff.mp (hfits.known entry (h.perm_fields.mem_iff.mpr hentry))
  fields := (h.perm_fields.map FieldEntry.key).nodup_iff.mp hfits.fields
  relations relation hrelation :=
    hfits.relations relation (h.relations.mem_iff.mpr hrelation)

theorem fits_iff : document.Fits ↔ other.Fits := ⟨h.fits, h.symm.fits⟩

/-- The entities are the same. -/
theorem perm_entities (hfits : document.Fits) (settings : Settings) :
    (document.generator settings).catalog.entities.toList.Perm
      (other.generator settings).catalog.entities.toList := by
  have hentity : ∀ entry : CollectionEntry,
      entry.toEntity document.fields = entry.toEntity other.fields := by
    intro entry
    rw [CollectionEntry.toEntity, CollectionEntry.toEntity, h.fields]
  rw [toList_entities_generator hfits, toList_entities_generator (h.fits hfits)]
  simp only [hentity]
  exact h.collections.map _

/-- Every field can see the same. -/
theorem seesAlike (hfits : document.Fits) (settings : Settings) (collection : String)
    (field : Field) :
    (document.generator settings).SeesAlike (other.generator settings) collection field where
  relations := h.relations.filter _
  targets _ _ _ _ :=
    Bool.eq_iff_iff.mpr (declares_ofEntries.trans (h.perm_names.mem_iff.trans
      declares_ofEntries.symm))
  lookup _ := congrArg (Answer.within · settings.lookupLimit)
    (source_congr hfits.fields (h.fits hfits).fields fun _ _ => h.perm_fields.mem_iff)

end Document.Rearranged

/-- What a document gives is in the order of its collections. -/
theorem Document.follows_names {document : Document} {settings : Settings} {output : Output}
    (h : document.generate settings = .ok output) : output.Follows document.names := by
  obtain ⟨hfits, -, hgenerate⟩ := Document.generate_eq_ok.mp h
  have hnames : (document.generator settings).catalog.entities.toList.map Entity.collection =
      document.names := by
    rw [Document.toList_entities_generator hfits, List.map_map]
    rfl
  exact hnames ▸ Generator.follows_of_generate hgenerate

/-- The output does not depend on the order of a document beyond the order of units. Of two
documents that differ in the order of collections, of relations, and of fields of different
collections, both describe a snapshot or neither does, and both give units or neither does. If they
do, every collection has the same unit in both outputs; the outputs differ in nothing but order; and
each is in the order of its own document's collections. A text that reads as a document gives what
the document gives. -/
theorem order_free {document other : Document} (h : document.Rearranged other)
    (settings : Settings) :
    ((∃ snapshot, ofDocument document = .ok snapshot) ↔
      ∃ snapshot, ofDocument other = .ok snapshot) ∧
    ((∃ output, document.generate settings = .ok output) ↔
      ∃ output, other.generate settings = .ok output) ∧
    (∀ output otherOutput, document.generate settings = .ok output →
      other.generate settings = .ok otherOutput →
      (∀ name ∈ document.names, ∃ unit,
        output.unit? name = some unit ∧ otherOutput.unit? name = some unit) ∧
      output.Reorders otherOutput ∧ output.Follows document.names ∧
      otherOutput.Follows other.names) ∧
    ∀ text, Document.parse text = .ok document →
      generateText text settings = document.generate settings := by
  refine ⟨?_, ?_, fun output otherOutput hgenerate hother => ?_,
    fun text htext => generateText_of_parse htext settings⟩
  · rw [exists_ofDocument_iff, exists_ofDocument_iff, h.fits_iff]
  · rw [Document.exists_generate_iff, Document.exists_generate_iff, ← h.fits_iff]
    exact and_congr_right fun hfits =>
      Generator.accept_eq_ok_of_perm (h.perm_entities hfits settings) rfl
  · obtain ⟨hfits, -, hunits⟩ := Document.generate_eq_ok.mp hgenerate
    obtain ⟨-, -, hotherUnits⟩ := Document.generate_eq_ok.mp hother
    have hreorders := Generator.reorders_of_perm (h.perm_entities hfits settings) rfl
      (fun entity _ field _ => h.seesAlike hfits settings entity.collection field) hunits
      hotherUnits
    have hfollows := Document.follows_names hgenerate
    refine ⟨fun name hname => ?_, hreorders, hfollows, Document.follows_names hother⟩
    obtain ⟨unit, hunit⟩ := hfollows.exists_unit? hname
    have hdistinct := hfollows.models.symm ▸ hfits.collections
    exact ⟨unit, hunit, (hreorders.unit?_eq hdistinct name).trans hunit⟩

/-- The document of authors and articles with the articles first, and their fields before those of
the authors. -/
def articlesFirst : Document where
  collections := blogDocument.collections.reverse
  fields := blogDocument.fields.filter (·.collection == "articles") ++
    blogDocument.fields.filter (·.collection == "authors")
  relations := blogDocument.relations

/-- The units of articles and authors are the same in either order. -/
theorem order_free_blog :
    blogDocument.Rearranged articlesFirst ∧
      ∃ output otherOutput, blogDocument.generate .standard = .ok output ∧
        articlesFirst.generate .standard = .ok otherOutput ∧
        (∃ unit, output.unit? "articles" = some unit ∧
          otherOutput.unit? "articles" = some unit) ∧
        output.Follows ["authors", "articles"] ∧ otherOutput.Follows ["articles", "authors"] := by
  have hfields : ∀ collection, blogDocument.fields.filter (·.collection == collection) =
      articlesFirst.fields.filter (·.collection == collection) := by
    intro collection
    have hlist : articlesFirst.fields = [blogDocument.fields[0], blogDocument.fields[2],
      blogDocument.fields[1]] := rfl
    rw [hlist]
    by_cases harticles : "articles" = collection
    · subst harticles
      rfl
    · simp [blogDocument, List.filter_cons, harticles]
  have h : blogDocument.Rearranged articlesFirst :=
    ⟨(List.reverse_perm _).symm, hfields, .refl _⟩
  obtain ⟨output, done⟩ : ∃ output, blogDocument.generate .standard = .ok output := ⟨_, rfl⟩
  obtain ⟨-, hgenerates, hunits, -⟩ := order_free h .standard
  obtain ⟨otherOutput, otherDone⟩ := hgenerates.mp ⟨output, done⟩
  obtain ⟨hsame, -, hfollows, hotherFollows⟩ := hunits output otherOutput done otherDone
  exact ⟨h, output, otherOutput, done, otherDone, hsame "articles" (by decide), hfollows,
    hotherFollows⟩

end Snapshot

end TypedCatalog
