import TypedCatalog.Proofs.FieldTyping
import TypedCatalog.Proofs.ResolvedTypes
import TypedCatalog.Proofs.Units

/-!
# Fields without a type

A field that does not resolve is declared as `never` and reported, and the run goes on. The reports
of a run are those on the fields that did not resolve, in order
(`Generator.diagnostics_of_generate`). No field with a type reads `never`
(`Generator.readsNever_iff_of_resolve`), so the declarations and the reports tell the same fields.
-/

namespace TypedCatalog

/-! ### The reports -/

namespace Resolver

variable {resolver : Resolver}

/-- The report on a field, if it was resolved and has no type. -/
def report? (resolver : Resolver) (keyed : FieldKey × Field) : Option Diagnostic :=
  match resolver.resolve keyed.1.collection keyed.2 with
  | .ok (.error cause) => some ⟨keyed.1, cause⟩
  | _ => none

theorem report?_eq_some {key : FieldKey} {field : Field} {diagnostic : Diagnostic} :
    resolver.report? (key, field) = some diagnostic ↔ diagnostic.key = key ∧
      resolver.resolve key.collection field = .ok (.error diagnostic.cause) := by
  obtain ⟨reported, cause⟩ := diagnostic
  unfold report?
  split
  · rename_i other hresolve
    simp [hresolve, eq_comm]
  · rename_i hresolve
    simp only [reduceCtorEq, false_iff, not_and]
    exact fun _ h => hresolve cause h

theorem diagnostic?_of_outcome {collection : String} {field : Field} {outcome : FieldOutcome}
    (h : resolver.outcome collection field = .ok outcome) :
    outcome.diagnostic? collection = resolver.report? (⟨collection, field.name⟩, field) := by
  obtain ⟨result, hresult, rfl⟩ := map_eq_ok.mp h
  unfold report?
  rw [hresult]
  cases result <;> rfl

/-- A model reports the fields of its entity that have no type, in order. -/
theorem diagnostics_of_model {entity : Entity} {model : Model}
    (h : resolver.model entity = .ok model) :
    model.diagnostics = entity.keyedFields.filterMap resolver.report? := by
  obtain ⟨outcomes, hall, rfl⟩ := model_eq_ok.mp h
  rw [Entity.keyedFields, List.filterMap_map]
  exact filterMap_eq_filterMap_of_forall₂ (hall.imp fun _ _ houtcome =>
    diagnostic?_of_outcome houtcome)

/-- Reports on fields of different keys have different keys. -/
theorem nodup_reports {fields : List (FieldKey × Field)} (h : (fields.map Prod.fst).Nodup) :
    ((fields.filterMap resolver.report?).map Diagnostic.key).Nodup := by
  refine List.pairwise_map.mpr ((List.pairwise_map.mp h).filterMap _ ?_)
  rintro ⟨key, field⟩ ⟨otherKey, otherField⟩ hne report hreport other hother
  rw [(report?_eq_some.mp hreport).1, (report?_eq_some.mp hother).1]
  exact hne

end Resolver

namespace Generator

variable {generator : Generator} {output : Output}

/-- A run reports the fields that have no type, in the order of the catalog. -/
theorem diagnostics_of_generate (h : generator.generate = .ok output) :
    output.diagnostics = generator.catalog.keyedFields.filterMap generator.resolver.report? := by
  have hmodels : output.models.map (·.model.diagnostics) = generator.catalog.entities.toList.map
      (·.keyedFields.filterMap generator.resolver.report?) :=
    map_eq_map_of_forall₂ <| forall₂_of_generate h fun _ _ hunit =>
      Resolver.diagnostics_of_model (modelUnit_eq_ok.mp hunit).1
  rw [Output.diagnostics, List.flatMap_def, hmodels, Catalog.keyedFields, List.filterMap_flatMap,
    List.flatMap_def]

/-- A field of the catalog is reported exactly if it has no type. -/
theorem mem_keys_diagnostics_iff (h : generator.generate = .ok output) {key : FieldKey}
    {field : Field} (hfield : (key, field) ∈ generator.catalog.keyedFields) :
    key ∈ output.diagnostics.map Diagnostic.key ↔
      ∃ cause, generator.resolver.resolve key.collection field = .ok (.error cause) := by
  rw [diagnostics_of_generate h, List.mem_map]
  constructor
  · rintro ⟨diagnostic, hmem, rfl⟩
    obtain ⟨⟨key, other⟩, hother, hreport⟩ := List.mem_filterMap.mp hmem
    obtain ⟨rfl, hresolve⟩ := Resolver.report?_eq_some.mp hreport
    -- The key tells the field.
    obtain ⟨-, rfl⟩ := Prod.mk.inj
      (List.inj_on_of_nodup_map Catalog.nodup_keyedFields hother hfield rfl)
    exact ⟨diagnostic.cause, hresolve⟩
  · rintro ⟨cause, hresolve⟩
    exact ⟨⟨key, cause⟩,
      List.mem_filterMap.mpr ⟨_, hfield, Resolver.report?_eq_some.mpr ⟨rfl, hresolve⟩⟩, rfl⟩

end Generator

/-! ### The declarations -/

namespace MemberDecl

/-- Whether a member reads `never`. -/
def ReadsNever (member : MemberDecl) : Prop :=
  member.line = "  " ++ propertyName member.field.name ++ ": never;\n"

theorem readsNever_iff {member : MemberDecl} : member.ReadsNever ↔ member.type.text = "never" := by
  have hnever : ": never;\n" = ": " ++ "never" ++ ";\n" := rfl
  rw [ReadsNever, line, hnever]
  simp only [← String.toList_inj, String.toList_append, List.append_assoc,
    List.append_cancel_left_eq, List.append_cancel_right_eq]

/-- Whether a member is declared with a type, to which null is added as one more member exactly if a
value of the field can be null. -/
structure Widens (member : MemberDecl) (type : TypeExpr) : Prop where
  /-- The type, and null at the end if it is added. -/
  eq : member.type = if member.field.nullable then .union (type.members ++ [.null]) else type
  /-- Null is there exactly if it was added. -/
  null : TypeExpr.null ∈ member.type.members ↔ member.field.nullable

end MemberDecl

namespace Generator

variable {generator : Generator} {output : Output}

section Accepted

variable (accepted : generator.accept = .ok ()) {collection : String} {field : Field}
  {resolution : Resolution}
  (h : generator.resolver.resolve collection field = .ok (.ok resolution))
include accepted h

/-- A field with a type is declared with it. -/
theorem widens_of_resolve :
    MemberDecl.Widens ⟨field, FieldOutcome.type ⟨field, .ok resolution⟩⟩ resolution.type := by
  have hnull : TypeExpr.null ∉ resolution.type.members := fun hmem =>
    ((Resolver.fieldTyping_of_resolve h).ne_of_mem_members hmem).1 rfl
  have hne := (isReadable_of_resolve accepted h).type.members.1
  cases hnullable : field.nullable with
  | false =>
    have htype : FieldOutcome.type ⟨field, .ok resolution⟩ = resolution.type := by
      simp [FieldOutcome.type, hnullable]
    exact ⟨by simp [htype, hnullable], by simp [htype, hnullable, hnull]⟩
  | true =>
    have htype : FieldOutcome.type ⟨field, .ok resolution⟩ =
        .union (resolution.type.members ++ [.null]) := by
      simp [FieldOutcome.type, hnullable, TypeExpr.orNull_eq_union hne hnull]
    exact ⟨by simp [htype, hnullable], by simp [htype, hnullable, TypeExpr.members]⟩

/-- What a field with a type is declared with does not read `never`. -/
theorem text_ne_never : (FieldOutcome.type ⟨field, .ok resolution⟩).text ≠ "never" := by
  intro htext
  have hnever : FieldOutcome.type ⟨field, .ok resolution⟩ = .never :=
    (normal_outcome accepted h).eq_of_text_eq trivial htext
  have htype := (widens_of_resolve accepted h).eq
  rw [hnever] at htype
  dsimp only at htype
  split at htype
  · cases htype
  · have hmem : TypeExpr.never ∈ resolution.type.members := by
      rw [← htype]
      exact List.mem_singleton_self _
    exact ((Resolver.fieldTyping_of_resolve h).ne_of_mem_members hmem).2 rfl

end Accepted

/-- A member reads `never` exactly if its field has no type. -/
theorem readsNever_iff_of_resolve (accepted : generator.accept = .ok ()) {collection : String}
    {field : Field} {result : FieldResult}
    (h : generator.resolver.resolve collection field = .ok result) :
    MemberDecl.ReadsNever ⟨field, FieldOutcome.type ⟨field, result⟩⟩ ↔
      ∃ cause, result = .error cause := by
  rw [MemberDecl.readsNever_iff]
  cases result with
  | ok resolution => simp [text_ne_never accepted h]
  | error cause => exact iff_of_true rfl ⟨cause, rfl⟩

/-! ### Runs -/

/-- Every entity has one model. -/
theorem map_collection_models (h : generator.generate = .ok output) :
    output.models.map (·.model.declaration.collection) =
      generator.catalog.entities.toList.map Entity.collection :=
  map_eq_map_of_forall₂ <| forall₂_of_generate h fun _ _ hunit =>
    Resolver.collection_of_model (modelUnit_eq_ok.mp hunit).1

/-- Every entity has one member in the index. -/
theorem map_members_index (h : generator.generate = .ok output) :
    output.index.declaration.members.map Prod.fst =
      generator.catalog.entities.toList.map Entity.collection := by
  rw [(generate_eq_ok.mp h).2]
  simp [indexUnit, IndexDecl.ofCatalog, Function.comp_def]

/-- Failures of fields are reported exactly. The reports of a run are those on the fields without a
type, in the order of the catalog, and one for each. A member reads `never` exactly if its field is
reported; any other is declared with the type that its field resolved to, and with null exactly if
the field can be null. And every entity has its one model, and its one member of the index. -/
theorem failures_reported (done : generator.run = .ok output) :
    output.diagnostics = generator.catalog.keyedFields.filterMap generator.resolver.report? ∧
      (output.diagnostics.map Diagnostic.key).Nodup ∧
      List.Forall₂ (fun entity unit =>
          unit.model.declaration.collection = entity.collection ∧
          List.Forall₂ (fun field member => member.field = field ∧
              (member.ReadsNever ↔
                ⟨entity.collection, field.name⟩ ∈ output.diagnostics.map Diagnostic.key) ∧
              (⟨entity.collection, field.name⟩ ∉ output.diagnostics.map Diagnostic.key →
                ∃ resolution, generator.resolver.resolve entity.collection field =
                  .ok (.ok resolution) ∧ member.Widens resolution.type))
            entity.fields.toList unit.model.declaration.members)
        generator.catalog.entities.toList output.models ∧
      ∀ entity ∈ generator.catalog.entities.toList,
        (output.models.map (·.model.declaration.collection)).count entity.collection = 1 ∧
          (output.index.declaration.members.map Prod.fst).count entity.collection = 1 := by
  obtain ⟨accepted, hgenerate⟩ := run_eq_ok.mp done
  have hreports := diagnostics_of_generate hgenerate
  refine ⟨hreports, ?_, ?_, ?_⟩
  · rw [hreports]
    exact Resolver.nodup_reports Catalog.nodup_keyedFields
  · refine forall₂_imp_of_mem (fun entity hentity unit hunit => ?_) (generate_eq_ok.mp hgenerate).1
    have hmodel := (modelUnit_eq_ok.mp hunit).1
    refine ⟨Resolver.collection_of_model hmodel, ?_⟩
    refine forall₂_imp_of_mem ?_ (Resolver.forall₂_members hmodel)
    rintro field hfield member ⟨outcome, houtcome, rfl⟩
    obtain ⟨result, hresult, rfl⟩ := map_eq_ok.mp houtcome
    have hreported : ⟨entity.collection, field.name⟩ ∈ output.diagnostics.map Diagnostic.key ↔
        ∃ cause, result = .error cause := by
      have hkeyed := Catalog.mem_keyedFields.mpr ⟨entity, hentity, field, hfield, rfl⟩
      rw [mem_keys_diagnostics_iff hgenerate hkeyed, hresult]
      simp
    refine ⟨rfl, (readsNever_iff_of_resolve accepted hresult).trans hreported.symm, fun hno => ?_⟩
    cases result with
    | error cause => exact absurd (hreported.mpr ⟨cause, rfl⟩) hno
    | ok resolution => exact ⟨resolution, hresult, widens_of_resolve accepted hresult⟩
  · intro entity hentity
    have hmem := List.mem_map_of_mem (f := Entity.collection) hentity
    have hdistinct := generator.catalog.entities.distinct
    rw [map_collection_models hgenerate, map_members_index hgenerate]
    exact ⟨List.count_eq_one_of_mem hdistinct hmem, List.count_eq_one_of_mem hdistinct hmem⟩

/-- Of authors and articles one field has no type. It is reported and reads `never`, and the
articles have their model and their member of the index all the same. -/
theorem failures_reported_blog :
    ∃ output, blog.run = .ok output ∧
      output.diagnostics = [⟨⟨"articles", "shape"⟩, .unsupportedKind "hstore"⟩] ∧
      (∃ unit ∈ output.models, ∃ member ∈ unit.model.declaration.members,
        member.field.name = "shape" ∧ member.ReadsNever) ∧
      (output.models.map (·.model.declaration.collection)).count "articles" = 1 ∧
      (output.index.declaration.members.map Prod.fst).count "articles" = 1 := by
  obtain ⟨output, done⟩ : ∃ output, blog.run = .ok output := ⟨_, rfl⟩
  obtain ⟨hreports, -, hunits, honce⟩ := failures_reported done
  have hdiagnostics : output.diagnostics = [⟨⟨"articles", "shape"⟩, .unsupportedKind "hstore"⟩] :=
    hreports.trans rfl
  obtain ⟨entity, hentity, hname, hfield⟩ : ∃ entity ∈ blog.catalog.entities.toList,
      entity.collection = "articles" ∧
        Field.ofKind "shape" (.unknown "hstore") ∈ entity.fields.toList :=
    ⟨_, List.mem_cons_of_mem _ List.mem_cons_self, rfl,
      List.mem_cons_of_mem _ (List.mem_cons_of_mem _ List.mem_cons_self)⟩
  obtain ⟨unit, hunit, -, hmembers⟩ := exists_mem_of_forall₂ hunits.flip entity hentity
  obtain ⟨member, hmember, hsame, hnever, -⟩ := exists_mem_of_forall₂ hmembers.flip _ hfield
  refine ⟨output, done, hdiagnostics, ⟨unit, hunit, member, hmember, by rw [hsame]; rfl, ?_⟩,
    hname ▸ honce entity hentity⟩
  rw [hnever, hdiagnostics, hname]
  exact List.mem_singleton_self _

end Generator

end TypedCatalog
