import TypedCatalog.Proofs.Acceptance
import TypedCatalog.Proofs.Outcomes

/-!
# The units of a run

A run comes to the fields of a catalog entity by entity, each under a key of its own
(`Catalog.nodup_keyedFields`). If it succeeds, it gives one model for every entity, in the order of
the catalog, and the index (`Generator.generate_eq_ok`). The names of the files are a function of
the type identifiers (`Generator.map_name_files`), and one stem gives one name
(`Settings.fileName_injective`).
-/

namespace TypedCatalog

/-! ### Fields -/

/-- The fields of an entity under their keys, in order. -/
def Entity.keyedFields (entity : Entity) : List (FieldKey × Field) :=
  entity.fields.toList.map fun field => (⟨entity.collection, field.name⟩, field)

/-- The fields of a catalog under their keys, entity by entity. -/
def Catalog.keyedFields (catalog : Catalog) : List (FieldKey × Field) :=
  catalog.entities.toList.flatMap Entity.keyedFields

namespace Catalog

variable {catalog : Catalog}

theorem mem_keyedFields {keyed : FieldKey × Field} :
    keyed ∈ catalog.keyedFields ↔ ∃ entity ∈ catalog.entities.toList,
      ∃ field ∈ entity.fields.toList, (⟨entity.collection, field.name⟩, field) = keyed := by
  simp only [keyedFields, Entity.keyedFields, List.mem_flatMap, List.mem_map]

/-- No two fields of a catalog have one key. -/
theorem nodup_keyedFields : (catalog.keyedFields.map Prod.fst).Nodup := by
  have hkeys : catalog.keyedFields.map Prod.fst = catalog.entities.toList.flatMap fun entity =>
      entity.fields.toList.map fun field => ⟨entity.collection, field.name⟩ := by
    simp [keyedFields, Entity.keyedFields, List.map_flatMap, Function.comp_def]
  rw [hkeys, List.nodup_flatMap]
  constructor
  · intro entity _
    refine List.pairwise_map.mpr ((List.pairwise_map.mp entity.fields.distinct).imp ?_)
    exact fun hne hkey => hne (congrArg FieldKey.field hkey)
  · refine (List.pairwise_map.mp catalog.entities.distinct).imp fun {entity other} hne => ?_
    rintro key hkey hother
    obtain ⟨field, -, rfl⟩ := List.mem_map.mp hkey
    obtain ⟨otherField, -, hsame⟩ := List.mem_map.mp hother
    exact hne (congrArg FieldKey.collection hsame).symm

end Catalog

/-! ### Models -/

namespace Resolver

variable {resolver : Resolver} {entity : Entity}

/-- An entity has a model exactly if each of its fields was resolved. -/
theorem model_eq_ok {model : Model} :
    resolver.model entity = .ok model ↔
      ∃ outcomes, List.Forall₂ (fun field outcome =>
          resolver.outcome entity.collection field = .ok outcome) entity.fields.toList outcomes ∧
        model = .ofOutcomes entity outcomes := by
  rw [Resolver.model, map_eq_ok]
  refine exists_congr fun outcomes => ?_
  rw [Resolver.outcomes, mapM_eq_ok, eq_comm (a := model)]

/-- A model depends on nothing but what becomes of the fields. -/
theorem model_congr {other : Resolver} (h : ∀ field ∈ entity.fields.toList,
      resolver.resolve entity.collection field = other.resolve entity.collection field) :
    resolver.model entity = other.model entity := by
  have houtcomes : resolver.outcomes entity = other.outcomes entity :=
    mapM_congr fun field hfield => by rw [outcome, outcome, h field hfield]
  rw [model, model, houtcomes]

theorem typeName_of_model {model : Model} (h : resolver.model entity = .ok model) :
    model.declaration.typeName = entity.typeName := by
  obtain ⟨outcomes, -, rfl⟩ := model_eq_ok.mp h
  rfl

theorem collection_of_model {model : Model} (h : resolver.model entity = .ok model) :
    model.declaration.collection = entity.collection := by
  obtain ⟨outcomes, -, rfl⟩ := model_eq_ok.mp h
  rfl

theorem field_of_outcome {collection : String} {field : Field} {outcome : FieldOutcome}
    (h : resolver.outcome collection field = .ok outcome) : outcome.field = field := by
  obtain ⟨result, -, rfl⟩ := map_eq_ok.mp h
  rfl

/-- A model has one member for every field, in order, with the type that came of the field. -/
theorem forall₂_members {model : Model} (h : resolver.model entity = .ok model) :
    List.Forall₂ (fun field member => ∃ outcome,
        resolver.outcome entity.collection field = .ok outcome ∧ member = ⟨field, outcome.type⟩)
      entity.fields.toList model.declaration.members := by
  obtain ⟨outcomes, hall, rfl⟩ := model_eq_ok.mp h
  refine List.forall₂_map_right_iff.mpr (hall.imp fun field outcome houtcome => ?_)
  exact ⟨outcome, houtcome, by rw [field_of_outcome houtcome]⟩

/-- A model has one member for every field, in the order of the entity. -/
theorem map_field_members {model : Model} (h : resolver.model entity = .ok model) :
    model.declaration.members.map MemberDecl.field = entity.fields.toList := by
  have hfields := map_eq_map_of_forall₂ (f := id) (g := MemberDecl.field)
    ((forall₂_members h).imp fun field member ⟨_, _, hmember⟩ => by rw [hmember]; rfl)
  rwa [List.map_id] at hfields

end Resolver

/-! ### Units and their files -/

namespace Settings

/-- Two units have one file name only if they have one stem. -/
theorem fileName_injective (settings : Settings) : Function.Injective settings.fileName := by
  intro stem other h
  unfold fileName at h
  split at h
  · exact h
  · have := congrArg String.toList h
    simpa [String.toList_inj] using this

end Settings

namespace Generator

variable {generator : Generator} {output : Output}

theorem run_eq_ok :
    generator.run = .ok output ↔ generator.accept = .ok () ∧ generator.generate = .ok output := by
  rw [run, bind_eq_ok]
  constructor
  · rintro ⟨⟨⟩, haccept, hgenerate⟩
    exact ⟨haccept, hgenerate⟩
  · rintro ⟨haccept, hgenerate⟩
    exact ⟨(), haccept, hgenerate⟩

/-- The unit of an entity holds its model, in a file named by the entity's type. -/
theorem modelUnit_eq_ok {entity : Entity} {unit : ModelUnit} :
    generator.modelUnit entity = .ok unit ↔
      generator.resolver.model entity = .ok unit.model ∧
        unit.fileName = generator.settings.fileName entity.typeName := by
  rw [modelUnit, bind_eq_ok]
  constructor
  · rintro ⟨model, hmodel, hunit⟩
    obtain rfl := pure_eq_ok.mp hunit
    rw [Resolver.typeName_of_model hmodel]
    exact ⟨hmodel, rfl⟩
  · rintro ⟨hmodel, hname⟩
    refine ⟨unit.model, hmodel, pure_eq_ok.mpr ?_⟩
    rw [Resolver.typeName_of_model hmodel, ← hname]

/-- A generation succeeds exactly if every entity has a unit; the output is these and the index. -/
theorem generate_eq_ok :
    generator.generate = .ok output ↔
      List.Forall₂ (fun entity unit => generator.modelUnit entity = .ok unit)
          generator.catalog.entities.toList output.models ∧
        output.index = generator.indexUnit := by
  rw [generate, bind_eq_ok, ← mapM_eq_ok]
  constructor
  · rintro ⟨models, hmodels, houtput⟩
    obtain rfl := pure_eq_ok.mp houtput
    exact ⟨hmodels, rfl⟩
  · rintro ⟨hmodels, hindex⟩
    refine ⟨output.models, hmodels, pure_eq_ok.mpr ?_⟩
    rw [← hindex]

/-- What holds of the entity and the unit wherever an entity has a unit holds along the output. -/
theorem forall₂_of_generate {P : Entity → ModelUnit → Prop} (h : generator.generate = .ok output)
    (hunit : ∀ entity unit, generator.modelUnit entity = .ok unit → P entity unit) :
    List.Forall₂ P generator.catalog.entities.toList output.models :=
  (generate_eq_ok.mp h).1.imp hunit

/-- Every model is that of an entity. -/
theorem exists_entity_of_mem_models (h : generator.generate = .ok output) {unit : ModelUnit}
    (hunit : unit ∈ output.models) : ∃ entity ∈ generator.catalog.entities.toList,
      generator.resolver.model entity = .ok unit.model := by
  obtain ⟨entity, hentity, hmodel⟩ := exists_mem_of_forall₂ (generate_eq_ok.mp h).1 unit hunit
  exact ⟨entity, hentity, (modelUnit_eq_ok.mp hmodel).1⟩

/-- Every entity has a model. -/
theorem exists_unit_of_mem_entities (h : generator.generate = .ok output) {entity : Entity}
    (hentity : entity ∈ generator.catalog.entities.toList) :
    ∃ unit ∈ output.models, generator.resolver.model entity = .ok unit.model := by
  obtain ⟨unit, hunit, hmodel⟩ := exists_mem_of_forall₂ (generate_eq_ok.mp h).1.flip entity hentity
  exact ⟨unit, hunit, (modelUnit_eq_ok.mp hmodel).1⟩

theorem length_models (h : generator.generate = .ok output) :
    output.models.length = generator.catalog.entities.toList.length :=
  (generate_eq_ok.mp h).1.length_eq.symm

/-- The models declare the types of the entities, in the order of the catalog. -/
theorem map_typeName_models (h : generator.generate = .ok output) :
    output.models.map (·.model.declaration.typeName) =
      generator.catalog.entities.toList.map Entity.typeName :=
  map_eq_map_of_forall₂ <| forall₂_of_generate h fun _ _ hunit =>
    Resolver.typeName_of_model (modelUnit_eq_ok.mp hunit).1

/-- The files are named by the types of the entities and the stem of the index. -/
theorem map_name_files (h : generator.generate = .ok output) :
    output.files.map OutputFile.name =
      (generator.catalog.entities.toList.map Entity.typeName ++
        [generator.settings.indexStem]).map generator.settings.fileName := by
  have hindex : output.index.fileName = generator.settings.fileName generator.settings.indexStem := by
    rw [(generate_eq_ok.mp h).2]
    rfl
  have hmodels : output.models.map (·.fileName) =
      generator.catalog.entities.toList.map (generator.settings.fileName ·.typeName) :=
    map_eq_map_of_forall₂ <| forall₂_of_generate h fun _ _ hunit => (modelUnit_eq_ok.mp hunit).2
  have hfiles : output.files.map OutputFile.name =
      output.models.map (·.fileName) ++ [output.index.fileName] := by
    simp [Output.files, ModelUnit.file, IndexUnit.file, Function.comp_def]
  rw [hfiles, hmodels, hindex]
  simp [Function.comp_def]

end Generator

end TypedCatalog
