import TypedCatalog.Proofs.DocumentRuns
import TypedCatalog.Proofs.FieldTyping

/-!
# Fields do not see each other

What becomes of a field depends on what the field can see (`Generator.SeesAlike`): the relations
that claim it, whether the collections that they lead to exist, and, without any, its own lookup.
Two runs that agree on that give the field one block, one report and one import, however different
they are otherwise (`Generator.fields_isolated`). So the options of a field of a document matter for
that field only.
-/

namespace TypedCatalog

/-! ### What a field can see -/

namespace Generator

/-- Whether a field of a collection can see the same in two runs. -/
structure SeesAlike (generator other : Generator) (collection : String) (field : Field) :
    Prop where
  /-- The relations that claim the field, in whatever order. -/
  relations : (generator.catalog.claimants (Resolver.direction field)
    ⟨collection, field.name⟩).Perm
      (other.catalog.claimants (Resolver.direction field) ⟨collection, field.name⟩)
  /-- Which of the collections exist that they lead to. -/
  targets : ∀ relation ∈ generator.catalog.claimants (Resolver.direction field)
      ⟨collection, field.name⟩,
    ∀ target, relation.target? (Resolver.direction field) = some target →
      generator.catalog.declares target = other.catalog.declares target
  /-- What the lookup of the field ends in, if no relation claims it. -/
  lookup : generator.catalog.claimants (Resolver.direction field) ⟨collection, field.name⟩ = [] →
    (generator.source ⟨collection, field.name⟩).within generator.settings.lookupLimit =
      (other.source ⟨collection, field.name⟩).within other.settings.lookupLimit

end Generator

/-- What a relation says about a field depends on the catalog only by whether the collection exists
that it leads to. -/
theorem Catalog.plainClaim_congr {catalog other : Catalog} {direction : Direction}
    {relation : Relation} (h : ∀ target, relation.target? direction = some target →
      catalog.declares target = other.declares target) (key : FieldKey) (kind : Kind) :
    catalog.plainClaim direction key kind relation =
      other.plainClaim direction key kind relation := by
  cases direction with
  | forward =>
    rw [plainClaim, plainClaim, plainForward, plainForward]
    cases hrelated : relation.related with
    | none => rfl
    | some related => simp only [h related hrelated]
  | reverse =>
    rw [plainClaim, plainClaim, plainReverse_eq, plainReverse_eq, h _ rfl]

namespace Generator

variable {generator other : Generator} {collection : String} {field : Field}

/-- What becomes of a field depends on nothing but what it can see. -/
theorem resolve_congr (h : generator.SeesAlike other collection field) :
    generator.resolver.resolve collection field = other.resolver.resolve collection field := by
  obtain ⟨hrelations, htargets, hlookup⟩ := h
  rw [resolver, resolver]
  rcases hclaimants : generator.catalog.claimants (Resolver.direction field)
    ⟨collection, field.name⟩ with - | ⟨relation, - | ⟨second, rest⟩⟩
  · rw [hclaimants] at hrelations
    rw [Resolver.resolve_of_no_claimant hclaimants,
      Resolver.resolve_of_no_claimant hrelations.nil_eq.symm, hlookup hclaimants]
  · rw [hclaimants] at hrelations htargets
    rw [Resolver.resolve_of_claimant hclaimants,
      Resolver.resolve_of_claimant hrelations.singleton_eq.symm,
      Catalog.plainClaim_congr (htargets relation (List.mem_singleton_self _))]
  · rw [hclaimants] at hrelations
    have hlength := hrelations.length_eq
    rcases hother : other.catalog.claimants (Resolver.direction field) ⟨collection, field.name⟩ with
      - | ⟨first, - | ⟨next, later⟩⟩
    · simp [hother] at hlength
    · simp [hother] at hlength
    · rw [hother] at hlength
      rw [Resolver.resolve_of_claimants hclaimants, Resolver.resolve_of_claimants hother, hlength]

/-- An entity has the same unit in two runs whose settings agree if each field can see the same. -/
theorem modelUnit_congr {entity : Entity}
    (h : ∀ field ∈ entity.fields.toList, generator.SeesAlike other entity.collection field)
    (hsettings : generator.settings = other.settings) :
    generator.modelUnit entity = other.modelUnit entity := by
  rw [modelUnit, modelUnit, hsettings,
    Resolver.model_congr fun field hfield => resolve_congr (h field hfield)]

end Generator

/-! ### What a model shows of a field -/

/-- Whether a model shows what became of a field: its block, its report and its import. -/
structure Model.Shows (model : Model) (collection : String) (outcome : FieldOutcome) : Prop where
  /-- The member of that name is the field, with the type that came of it. -/
  member : model.declaration.members.filter (·.field.name == outcome.field.name) =
    [⟨outcome.field, outcome.type⟩]
  /-- The comment and the line of the member stand in the text. -/
  block : ∃ before after, model.declaration.text =
    before ++ MemberDecl.text ⟨outcome.field, outcome.type⟩ ++ after
  /-- The report on the field is there, if it has no type, and no other report of that name. -/
  report : model.diagnostics.filter (·.key.field == outcome.field.name) =
    (outcome.diagnostic? collection).toList
  /-- What the field needs is imported. -/
  needs : ∀ name, outcome.needs = some name → name ∈ model.declaration.imports

theorem ModelDecl.exists_text_of_mem {decl : ModelDecl} {member : MemberDecl}
    (h : member ∈ decl.members) : ∃ before after, decl.text = before ++ member.text ++ after := by
  obtain ⟨before, after, hmembers⟩ := List.append_of_mem h
  refine ⟨importLines decl.imports ++ decl.commentBlock ++ "export type " ++ decl.typeName ++
    " = \x7b\n" ++ String.join (before.map MemberDecl.text),
    String.join (after.map MemberDecl.text) ++ "\x7d;\n", ?_⟩
  rw [text, hmembers, List.map_append, List.map_cons, String.join_append, String.join_cons]
  simp only [String.append_assoc]

theorem FieldOutcome.key_of_diagnostic? {collection : String} {outcome : FieldOutcome}
    {diagnostic : Diagnostic} (h : outcome.diagnostic? collection = some diagnostic) :
    diagnostic.key = ⟨collection, outcome.field.name⟩ := by
  unfold diagnostic? at h
  split at h
  · cases h
  · cases h
    rfl

/-- There is no report on a field among those on other fields. -/
theorem FieldOutcome.filter_diagnostic?_eq_none {collection : String} {outcome : FieldOutcome}
    {key : FieldKey} (h : ⟨collection, outcome.field.name⟩ = key) :
    (outcome.diagnostic? collection).filter (·.key != key) = none := by
  cases hdiagnostic : outcome.diagnostic? collection with
  | none => rfl
  | some diagnostic =>
    rw [Option.filter_some, key_of_diagnostic? hdiagnostic, h, bne_self_eq_false]
    rfl

/-- A model shows what became of each of its fields. -/
theorem Resolver.shows_of_model {resolver : Resolver} {entity : Entity} {model : Model}
    (h : resolver.model entity = .ok model) {field : Field}
    (hfield : field ∈ entity.fields.toList) : ∃ outcome,
      resolver.outcome entity.collection field = .ok outcome ∧
        model.Shows entity.collection outcome := by
  obtain ⟨outcomes, hall, rfl⟩ := model_eq_ok.mp h
  have hnames : outcomes.map (·.field.name) = entity.fields.toList.map (·.name) :=
    map_eq_map_of_forall₂ (hall.imp fun _ _ houtcome => by rw [field_of_outcome houtcome])
  have hdistinct : (outcomes.map (·.field.name)).Nodup := hnames ▸ entity.fields.distinct
  obtain ⟨outcome, hmem, houtcome⟩ := exists_mem_of_forall₂ hall.flip field hfield
  have hfilter := filter_eq_singleton_of_nodup hdistinct hmem
  refine ⟨outcome, houtcome, ?_, ModelDecl.exists_text_of_mem (List.mem_map_of_mem hmem), ?_,
    fun name hname => ?_⟩
  · have hmembers : (outcomes.map fun outcome => MemberDecl.mk outcome.field outcome.type).filter
        (·.field.name == outcome.field.name) =
          (outcomes.filter (·.field.name == outcome.field.name)).map
            fun outcome => MemberDecl.mk outcome.field outcome.type := List.filter_map
    rw [Model.ofOutcomes, hmembers, hfilter]
    rfl
  · have hreport : ∀ other : FieldOutcome,
        (other.diagnostic? entity.collection).filter (·.key.field == outcome.field.name) =
          if other.field.name == outcome.field.name then other.diagnostic? entity.collection
          else none := by
      intro other
      cases hother : other.diagnostic? entity.collection with
      | none => simp
      | some diagnostic =>
        rw [Option.filter_some, FieldOutcome.key_of_diagnostic? hother]
    rw [Model.ofOutcomes, List.filter_filterMap]
    simp only [hreport]
    rw [← List.filterMap_filter, hfilter, List.filterMap_cons, List.filterMap_nil]
    cases outcome.diagnostic? entity.collection <;> rfl
  · exact mem_firstOccurrences.mpr (List.mem_filterMap.mpr ⟨outcome, hmem, hname⟩)

/-! ### Units that differ in one field -/

/-- Whether two units differ at most in the block of one field and in the report on it. -/
structure ModelUnit.AgreesExcept (key : FieldKey) (unit other : ModelUnit) : Prop where
  /-- The files have one name. -/
  fileName : other.fileName = unit.fileName
  /-- All but the members is the same, the imports included. -/
  declaration : other.model.declaration =
    { unit.model.declaration with members := other.model.declaration.members }
  /-- The members are of the same fields, and those of other fields are the same. -/
  members : List.Forall₂ (fun member otherMember => otherMember.field = member.field ∧
      (⟨unit.model.declaration.collection, member.field.name⟩ ≠ key → otherMember = member))
    unit.model.declaration.members other.model.declaration.members
  /-- The reports on other fields are the same. -/
  diagnostics : other.model.diagnostics.filter (·.key != key) =
    unit.model.diagnostics.filter (·.key != key)

/-- Units whose fields have the same outcomes, but for that of one field, differ in that field. What
a field needs does not depend on its lookup, so the imports are the same. -/
theorem Generator.agreesExcept_of_modelUnit {generator other : Generator} {key : FieldKey}
    {entity : Entity} {unit otherUnit : ModelUnit} (hcatalog : generator.catalog = other.catalog)
    (hsettings : generator.settings = other.settings)
    (h : ∀ field ∈ entity.fields.toList, ⟨entity.collection, field.name⟩ ≠ key →
      generator.SeesAlike other entity.collection field)
    (hunit : generator.modelUnit entity = .ok unit)
    (hother : other.modelUnit entity = .ok otherUnit) : unit.AgreesExcept key otherUnit := by
  obtain ⟨fileName, model⟩ := unit
  obtain ⟨otherName, otherModel⟩ := otherUnit
  obtain ⟨hmodel, rfl⟩ := modelUnit_eq_ok.mp hunit
  obtain ⟨hotherModel, rfl⟩ := modelUnit_eq_ok.mp hother
  obtain ⟨outcomes, hall, rfl⟩ := Resolver.model_eq_ok.mp hmodel
  obtain ⟨others, hothers, rfl⟩ := Resolver.model_eq_ok.mp hotherModel
  have hpairs : List.Forall₂ (fun outcome otherOutcome : FieldOutcome =>
      otherOutcome.field = outcome.field ∧ otherOutcome.needs = outcome.needs ∧
        (⟨entity.collection, outcome.field.name⟩ ≠ key → otherOutcome = outcome))
      outcomes others := by
    refine forall₂_of_common (fun field hfield outcome otherOutcome houtcome hotherOutcome => ?_)
      hall hothers
    have hsame := Resolver.field_of_outcome houtcome
    refine ⟨(Resolver.field_of_outcome hotherOutcome).trans hsame.symm, ?_, fun hne => ?_⟩
    · rw [Resolver.needs_of_outcome houtcome, Resolver.needs_of_outcome hotherOutcome, hcatalog]
    · rw [hsame] at hne
      rw [Resolver.outcome, resolve_congr (h field hfield hne)] at houtcome
      exact Except.ok.inj (hotherOutcome.symm.trans houtcome)
  refine ⟨?_, ?_, ?_, ?_⟩
  · rw [hsettings]
  · have hneeds : others.filterMap FieldOutcome.needs = outcomes.filterMap FieldOutcome.needs :=
      filterMap_eq_filterMap_of_forall₂ (hpairs.imp fun _ _ hpair => hpair.2.1)
    simp only [Model.ofOutcomes, hneeds]
  · refine List.forall₂_map_left_iff.mpr (List.forall₂_map_right_iff.mpr (hpairs.imp ?_))
    rintro outcome otherOutcome ⟨hfield, -, hsame⟩
    exact ⟨hfield, fun hne => by rw [hsame hne]⟩
  · simp only [Model.ofOutcomes, List.filter_filterMap]
    refine filterMap_eq_filterMap_of_forall₂ (hpairs.imp ?_)
    rintro outcome otherOutcome ⟨hfield, -, hsame⟩
    by_cases hkey : ⟨entity.collection, outcome.field.name⟩ = key
    · rw [FieldOutcome.filter_diagnostic?_eq_none (hfield ▸ hkey),
        FieldOutcome.filter_diagnostic?_eq_none hkey]
    · rw [hsame hkey]

/-! ### Documents with other options for a field -/

namespace Snapshot

open Json

/-- The entry with other options, if it is of the given key. -/
def FieldEntry.withOptions (key : FieldKey) (options : Option Value) (entry : FieldEntry) :
    FieldEntry :=
  if entry.key = key then { entry with options := options } else entry

namespace FieldEntry

variable (key : FieldKey) (options : Option Value) (entry : FieldEntry)

@[simp] theorem collection_withOptions :
    (entry.withOptions key options).collection = entry.collection := by
  unfold withOptions
  split <;> rfl

@[simp] theorem field_withOptions : (entry.withOptions key options).field = entry.field := by
  unfold withOptions
  split <;> rfl

@[simp] theorem key_withOptions : (entry.withOptions key options).key = entry.key := by
  simp [FieldEntry.key]

/-- The field of an entry does not depend on the options. -/
@[simp] theorem toField_withOptions :
    (entry.withOptions key options).toField = entry.toField := by
  unfold withOptions
  split <;> rfl

theorem withOptions_of_ne {key : FieldKey} (options : Option Value) {entry : FieldEntry}
    (h : entry.key ≠ key) : entry.withOptions key options = entry := if_neg h

end FieldEntry

section Fields

variable (key : FieldKey) (options : Option Value) (fields : List FieldEntry)

theorem map_key_withOptions :
    (fields.map (.withOptions key options)).map FieldEntry.key = fields.map FieldEntry.key := by
  simp [Function.comp_def]

/-- The catalog of a document does not depend on the options. -/
theorem catalog_withOptions (collections : List CollectionEntry) (relations : List Relation) :
    (ofEntries collections (fields.map (.withOptions key options)) relations).catalog =
      (ofEntries collections fields relations).catalog := by
  have hentity : ∀ entry : CollectionEntry,
      entry.toEntity (fields.map (.withOptions key options)) = entry.toEntity fields := by
    intro entry
    simp [CollectionEntry.toEntity, List.filter_map, Function.comp_def]
  simp only [ofEntries, hentity]

/-- Only the lookup of the field itself depends on its options. -/
theorem source_withOptions {fields : List FieldEntry} (h : (fields.map FieldEntry.key).Nodup)
    {other : FieldKey} (hne : other ≠ key) :
    (ChoiceTable.ofRecords (fields.filterMap FieldEntry.record?)).source other =
      (ChoiceTable.ofRecords ((fields.map (.withOptions key options)).filterMap
        FieldEntry.record?)).source other := by
  refine source_congr h (by rwa [map_key_withOptions]) fun entry hentry => ?_
  rw [List.mem_map]
  constructor
  · exact fun hmem => ⟨entry, hmem, FieldEntry.withOptions_of_ne options (hentry ▸ hne)⟩
  · rintro ⟨original, hmem, rfl⟩
    rw [FieldEntry.key_withOptions] at hentry
    rwa [FieldEntry.withOptions_of_ne options (hentry ▸ hne)]

end Fields

namespace Document

variable {document : Document} {key : FieldKey} {options : Option Value} {settings : Settings}

/-- The document with other options for the field of the given key. -/
def withOptions (document : Document) (key : FieldKey) (options : Option Value) : Document :=
  { document with fields := document.fields.map (.withOptions key options) }

theorem problem?_withOptions (document : Document) (key : FieldKey) (options : Option Value) :
    (document.withOptions key options).problem? = document.problem? := by
  have hstep : ∀ before (entry : FieldEntry), fieldProblem? document.names
      (before.map (.withOptions key options)) (entry.withOptions key options) =
        fieldProblem? document.names before entry := by
    intro before entry
    simp only [fieldProblem?, map_key_withOptions, FieldEntry.collection_withOptions,
      FieldEntry.field_withOptions, FieldEntry.key_withOptions]
  have hfields := firstProblem_map hstep [] document.fields
  rw [problem?, problem?, ← hfields]
  rfl

theorem catalog_generator_withOptions :
    ((document.withOptions key options).generator settings).catalog =
      (document.generator settings).catalog := catalog_withOptions _ _ _ _ _

/-- With other options for one field a document gives the same error, if any. -/
theorem generate_withOptions_eq_error {error : GenerationError} :
    (document.withOptions key options).generate settings = .error error ↔
      document.generate settings = .error error := by
  have haccept : ((document.withOptions key options).generator settings).accept =
      (document.generator settings).accept := by
    rw [Generator.accept, Generator.indexClashes, catalog_generator_withOptions]
    rfl
  rw [generate_eq, generate_eq, problem?_withOptions]
  cases document.problem? with
  | some problem => exact Iff.rfl
  | none => rw [Option.elim_none, Option.elim_none, run_eq_error, run_eq_error, haccept]

/-- Every field but the one with other options can see what it could see. -/
theorem seesAlike_withOptions (h : document.Fits) {collection : String} {field : Field}
    (hne : ⟨collection, field.name⟩ ≠ key) :
    (document.generator settings).SeesAlike ((document.withOptions key options).generator settings)
      collection field where
  relations := by rw [catalog_generator_withOptions]
  targets _ _ _ _ := by rw [catalog_generator_withOptions]
  lookup _ := congrArg (Answer.within · settings.lookupLimit)
    (source_withOptions key options h.fields hne)

/-- With other options for one field the index is the same, so are the units of the other
collections, and the unit of the field's own collection differs at most in that field. -/
theorem agreesExcept_withOptions {output otherOutput : Output}
    (h : document.generate settings = .ok output)
    (hother : (document.withOptions key options).generate settings = .ok otherOutput) :
    otherOutput.index = output.index ∧ List.Forall₂ (fun unit otherUnit =>
        unit.AgreesExcept key otherUnit ∧
          (unit.model.declaration.collection ≠ key.collection → otherUnit = unit))
      output.models otherOutput.models := by
  obtain ⟨hfits, -, hgenerate⟩ := generate_eq_ok.mp h
  obtain ⟨-, -, hotherGenerate⟩ := generate_eq_ok.mp hother
  obtain ⟨hmodels, hindex⟩ := Generator.generate_eq_ok.mp hgenerate
  obtain ⟨hotherModels, hotherIndex⟩ := Generator.generate_eq_ok.mp hotherGenerate
  rw [catalog_generator_withOptions] at hotherModels
  constructor
  · rw [hindex, hotherIndex, Generator.indexUnit, catalog_generator_withOptions]
    rfl
  · refine forall₂_of_common (fun entity _ unit otherUnit hunit hotherUnit => ⟨?_, fun hne => ?_⟩)
      hmodels hotherModels
    · exact Generator.agreesExcept_of_modelUnit catalog_generator_withOptions.symm rfl
        (fun field _ hne => seesAlike_withOptions hfits hne) hunit hotherUnit
    · rw [Resolver.collection_of_model (Generator.modelUnit_eq_ok.mp hunit).1] at hne
      have hsees : ∀ field ∈ entity.fields.toList, (document.generator settings).SeesAlike
          ((document.withOptions key options).generator settings) entity.collection field :=
        fun field _ => seesAlike_withOptions hfits fun hkey =>
          hne (congrArg FieldKey.collection hkey)
      rw [Generator.modelUnit_congr hsees rfl] at hunit
      exact Except.ok.inj (hotherUnit.symm.trans hunit)

end Document

end Snapshot

/-! ### Isolation -/

namespace Generator

/-- Fields do not see each other. Two runs in which a field can see the same, in entities of one
collection, show the same outcome of it: the block in the text, the report if there is one, and the
import; nothing else of the two catalogs, sources and settings matters. And if a field of a document
gets other options, the error is the same if there is one, and otherwise the index is the same, so
are the units of the other collections, and the unit of the field's own collection differs in
nothing but the block of the field and the report on it. -/
theorem fields_isolated :
    (∀ (generator other : Generator) (entity otherEntity : Entity) (model otherModel : Model),
      entity.collection = otherEntity.collection → generator.resolver.model entity = .ok model →
      other.resolver.model otherEntity = .ok otherModel →
      ∀ field ∈ entity.fields.toList, field ∈ otherEntity.fields.toList →
        generator.SeesAlike other entity.collection field →
        ∃ outcome, generator.resolver.outcome entity.collection field = .ok outcome ∧
          other.resolver.outcome entity.collection field = .ok outcome ∧
          outcome.field = field ∧ model.Shows entity.collection outcome ∧
          otherModel.Shows entity.collection outcome) ∧
    ∀ (document : Snapshot.Document) (key : FieldKey) (options : Option Json.Value)
      (settings : Settings),
      (∀ error, (document.withOptions key options).generate settings = .error error ↔
        document.generate settings = .error error) ∧
      ∀ output otherOutput, document.generate settings = .ok output →
        (document.withOptions key options).generate settings = .ok otherOutput →
        otherOutput.index = output.index ∧ List.Forall₂ (fun unit otherUnit =>
            unit.AgreesExcept key otherUnit ∧
              (unit.model.declaration.collection ≠ key.collection → otherUnit = unit))
          output.models otherOutput.models := by
  constructor
  · intro generator other entity otherEntity model otherModel hcollection hmodel hotherModel field
      hfield hotherField hsees
    obtain ⟨outcome, houtcome, hshows⟩ := Resolver.shows_of_model hmodel hfield
    obtain ⟨otherOutcome, hotherOutcome, hotherShows⟩ :=
      Resolver.shows_of_model hotherModel hotherField
    rw [← hcollection] at hotherOutcome hotherShows
    have hsame : generator.resolver.outcome entity.collection field =
        other.resolver.outcome entity.collection field := by
      rw [Resolver.outcome, Resolver.outcome, resolve_congr hsees]
    obtain rfl := Except.ok.inj (houtcome.symm.trans (hsame.trans hotherOutcome))
    exact ⟨outcome, houtcome, hotherOutcome, Resolver.field_of_outcome houtcome, hshows,
      hotherShows⟩
  · exact fun document key options settings =>
      ⟨fun error => Snapshot.Document.generate_withOptions_eq_error, fun output otherOutput =>
        Snapshot.Document.agreesExcept_withOptions⟩

/-- Articles with other fields beside their author, in a larger catalog and with a source that is
late and breaks. -/
def crowdedBlog : Generator where
  catalog := {
    entities := .ofList [
      Entity.ofName "tags",
      { Entity.ofName "articles" with
        fields := .ofList [.ofKind "title" .string,
          { Field.ofKind "author" .integer with nullable := true }] },
      Entity.ofName "authors"]
    relations := [.toOne "tags" "article" "articles",
      ((Relation.toOne "articles" "author" "authors").withKeyColumn "id").withOneField "articles"] }
  source := fun key =>
    if key.field = "author" then ⟨none, .error (.transport "closed")⟩ else ⟨some 9, .ok none⟩
  settings := { Settings.standard with lookupLimit := some 5 }

/-- The author of an article has one block in both blogs. The colour of a tag, whose choices could
not be read, gets other options; the size keeps its block, and the index stays. -/
theorem fields_isolated_blog :
    (∃ model otherModel outcome,
      (∃ entity ∈ blog.catalog.entities.toList, blog.resolver.model entity = .ok model) ∧
      (∃ entity ∈ crowdedBlog.catalog.entities.toList,
        crowdedBlog.resolver.model entity = .ok otherModel) ∧
      model.diagnostics ≠ otherModel.diagnostics ∧ outcome.field.name = "author" ∧
      model.Shows "articles" outcome ∧ otherModel.Shows "articles" outcome) ∧
    ∃ output otherOutput, Snapshot.tagDocument.generate .standard = .ok output ∧
      (Snapshot.tagDocument.withOptions ⟨"tags", "color"⟩ (some (.boolean true))).generate
        .standard = .ok otherOutput ∧
      output.diagnostics.length = 1 ∧ otherOutput.diagnostics = [] ∧
      otherOutput.index = output.index ∧
      List.Forall₂ (ModelUnit.AgreesExcept ⟨"tags", "color"⟩) output.models otherOutput.models := by
  obtain ⟨hruns, hdocuments⟩ := fields_isolated
  constructor
  · obtain ⟨entity, model, hentity, hname, hmodel, hfield, hreports⟩ :
        ∃ entity model, entity ∈ blog.catalog.entities.toList ∧ entity.collection = "articles" ∧
          blog.resolver.model entity = .ok model ∧
          { Field.ofKind "author" .integer with nullable := true } ∈ entity.fields.toList ∧
          model.diagnostics.map (·.key.field) = ["shape"] :=
      ⟨_, _, List.mem_cons_of_mem _ List.mem_cons_self, rfl, rfl, List.mem_cons_self, rfl⟩
    obtain ⟨other, otherModel, hother, hotherName, hotherModel, hotherField, hotherReports⟩ :
        ∃ entity model, entity ∈ crowdedBlog.catalog.entities.toList ∧
          entity.collection = "articles" ∧ crowdedBlog.resolver.model entity = .ok model ∧
          { Field.ofKind "author" .integer with nullable := true } ∈ entity.fields.toList ∧
          model.diagnostics.map (·.key.field) = ["title"] :=
      ⟨_, _, List.mem_cons_of_mem _ List.mem_cons_self, rfl, rfl,
        List.mem_cons_of_mem _ List.mem_cons_self, rfl⟩
    have hsees : blog.SeesAlike crowdedBlog "articles"
        { Field.ofKind "author" .integer with nullable := true } := by
      refine ⟨.of_eq rfl, fun relation hrelation target htarget => ?_, fun hnone => ?_⟩
      · obtain rfl := List.mem_singleton.mp hrelation
        cases htarget
        rfl
      · cases hnone
    obtain ⟨outcome, -, -, hauthor, hshows, hotherShows⟩ :=
      hruns blog crowdedBlog entity other model otherModel (hname.trans hotherName.symm) hmodel
        hotherModel _ hfield hotherField (hname ▸ hsees)
    refine ⟨model, otherModel, outcome, ⟨entity, hentity, hmodel⟩, ⟨other, hother, hotherModel⟩,
      fun hsame => ?_, by rw [hauthor]; rfl, hname ▸ hshows, hname ▸ hotherShows⟩
    rw [hsame, hotherReports] at hreports
    exact absurd hreports (by decide)
  · obtain ⟨output, done, hone⟩ : ∃ output,
        Snapshot.tagDocument.generate .standard = .ok output ∧ output.diagnostics.length = 1 :=
      ⟨_, rfl, rfl⟩
    obtain ⟨otherOutput, otherDone, hnone⟩ : ∃ output,
        (Snapshot.tagDocument.withOptions ⟨"tags", "color"⟩ (some (.boolean true))).generate
          .standard = .ok output ∧ output.diagnostics = [] := ⟨_, rfl, rfl⟩
    obtain ⟨hindex, hunits⟩ := (hdocuments _ _ _ _).2 output otherOutput done otherDone
    exact ⟨output, otherOutput, done, otherDone, hone, hnone, hindex,
      hunits.imp fun _ _ hunit => hunit.1⟩

end Generator

end TypedCatalog
