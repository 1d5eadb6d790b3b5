import TypedCatalog.Proofs.Imports

/-!
# Accesses to key columns

A field that holds the key of a relation with a key column is declared with an access to the
property of that name of the related type, and no other type holds an access
(`Resolver.hasAccess_of_outcome`). The related type is that of exactly one model where collisions
are rejected, but the column is taken as it stands: `Generator.accesses_exact` says when the model
has a member for it.
-/

namespace TypedCatalog

open Naming Text

/-! ### Accesses in a type -/

/-- An access to the property `key` of the declared type `object` stands in a type. -/
inductive TypeExpr.HasAccess (object key : String) : TypeExpr → Prop where
  /-- The type is the access. -/
  | here : HasAccess object key (.indexedAccess object key)
  /-- The access stands in the type of the items. -/
  | item {type : TypeExpr} (h : HasAccess object key type) : HasAccess object key (.array type)
  /-- The access stands in a member. -/
  | member {types : List TypeExpr} {type : TypeExpr} (hmem : type ∈ types)
    (h : HasAccess object key type) : HasAccess object key (.union types)

namespace TypeExpr

variable {object key : String}

@[simp] theorem hasAccess_indexedAccess {other column : String} :
    (indexedAccess other column).HasAccess object key ↔ other = object ∧ column = key := by
  constructor
  · rintro ⟨⟩
    exact ⟨rfl, rfl⟩
  · rintro ⟨rfl, rfl⟩
    exact .here

@[simp] theorem not_hasAccess_keyword {word : Keyword} : ¬ (keyword word).HasAccess object key :=
  nofun

@[simp] theorem not_hasAccess_reference {identifier : String} :
    ¬ (reference identifier).HasAccess object key :=
  nofun

@[simp] theorem not_hasAccess_literal {text : String} : ¬ (literal text).HasAccess object key :=
  nofun

@[simp] theorem hasAccess_array {type : TypeExpr} :
    type.array.HasAccess object key ↔ type.HasAccess object key := by
  constructor
  · rintro (_ | h)
    exact h
  · exact .item

theorem memberWise_hasAccess (object key : String) : MemberWise (HasAccess object key) := by
  intro types
  constructor
  · rintro (_ | _ | ⟨hmem, h⟩)
    exact ⟨_, hmem, h⟩
  · rintro ⟨type, hmem, h⟩
    exact .member hmem h

@[simp] theorem hasAccess_union_pair {first second : TypeExpr} :
    (union [first, second]).HasAccess object key ↔
      first.HasAccess object key ∨ second.HasAccess object key := by
  rw [memberWise_hasAccess object key, List.exists_mem_cons_iff, List.exists_mem_cons_iff]
  simp

end TypeExpr

theorem Kind.not_hasAccess_of_scalarType {kind : Kind} {type : TypeExpr} {object key : String}
    (h : kind.scalarType = .ok type) : ¬ type.HasAccess object key := by
  cases kind <;> cases h <;> simp

/-- A field that leads nowhere has no access in its type. -/
theorem FieldTyping.not_hasAccess {catalog : Catalog} {collection object key : String}
    {resolution : Resolution} (h : FieldTyping catalog collection none resolution) :
    ¬ resolution.type.HasAccess object key := by
  cases h with
  | kind h => exact Kind.not_hasAccess_of_scalarType h
  | choices => simp [(TypeExpr.memberWise_hasAccess object key).ofMembers_iff]

/-! ### Fields with a key column -/

namespace Catalog

/-- A field holds a key that refers to the column `target`: it is no alias field, and a single
relation claims it, which leads to a collection of the catalog and names the column. -/
structure KeyRefersTo (catalog : Catalog) (collection : String) (field : Field)
    (target : FieldKey) : Prop where
  /-- The field is not on the one-side of a relation. -/
  isForward : Resolver.direction field = .forward
  /-- The relation is the only one to claim the field. -/
  claimed : ∃ relation, catalog.claimants .forward ⟨collection, field.name⟩ = [relation] ∧
    relation.related = some target.collection ∧ relation.keyColumn = some target.field
  /-- The related collection is there. -/
  declared : catalog.declares target.collection

theorem linked?_of_keyRefersTo {catalog : Catalog} {collection : String} {field : Field}
    {target : FieldKey} (h : catalog.KeyRefersTo collection field target) :
    catalog.linked? collection field = some target.collection := by
  obtain ⟨relation, hclaimants, hrelated, hcolumn⟩ := h.claimed
  rw [linked?, h.isForward, hclaimants]
  simp [linkOf, Relation.typesKey, Relation.target?, hrelated, hcolumn, h.declared]

/-- The type that a relation gives holds an access exactly if the relation has a key column and is
seen from the field with the key. -/
theorem hasAccess_of_plainClaim {catalog : Catalog} {direction : Direction} {key : FieldKey}
    {kind : Kind} {relation : Relation} {resolution : Resolution} {object column : String}
    (h : catalog.plainClaim direction key kind relation = .ok resolution) :
    resolution.type.HasAccess object column ↔ direction = .forward ∧ ∃ related,
      relation.related = some related ∧ relation.keyColumn = some column ∧
        catalog.declares related ∧ typeIdentifier related = object := by
  cases direction with
  | reverse =>
    rw [plainClaim, plainReverse_eq] at h
    split at h
    · cases h
      simp
    · cases h
  | forward =>
    rw [plainClaim, plainForward] at h
    cases hrelated : relation.related with
    | none => simp [hrelated] at h
    | some related =>
      by_cases hdeclares : catalog.declares related
      · cases hcolumn : relation.keyColumn with
        | some other =>
          simp only [hrelated, hdeclares, hcolumn, if_true] at h
          cases h
          simp [hdeclares, and_comm]
        | none =>
          cases hscalar : kind.scalarType with
          | ok type =>
            simp only [hrelated, hdeclares, hcolumn, hscalar, if_true] at h
            cases h
            simp [Kind.not_hasAccess_of_scalarType hscalar]
          | error error => simp [hrelated, hdeclares, hcolumn, hscalar] at h
      · simp [hrelated, hdeclares] at h

end Catalog

namespace Resolver

variable {catalog : Catalog} {source : ChoiceSource} {limit : Option Nat} {collection : String}
  {field : Field} {object column : String}

/-- An access stands in the type of a field exactly if the field holds a key that refers to a
column, and then it is the access to this column of the related type. -/
theorem hasAccess_of_resolve {resolution : Resolution}
    (h : (ofCatalog catalog source limit).resolve collection field = .ok (.ok resolution)) :
    resolution.type.HasAccess object column ↔ ∃ related,
      catalog.KeyRefersTo collection field ⟨related, column⟩ ∧ typeIdentifier related = object := by
  rcases hclaimants : catalog.claimants (direction field) ⟨collection, field.name⟩ with
    - | ⟨relation, - | ⟨second, rest⟩⟩
  · rw [resolve_of_no_claimant hclaimants] at h
    have htyping : FieldTyping catalog collection none resolution :=
      LookupResult.fieldTyping_of_plainResult h
    refine iff_of_false htyping.not_hasAccess ?_
    rintro ⟨related, hrefers, -⟩
    obtain ⟨relation, hclaimed, -⟩ := hrefers.claimed
    rw [hrefers.isForward, hclaimed] at hclaimants
    cases hclaimants
  · rw [resolve_of_claimant hclaimants] at h
    rw [Catalog.hasAccess_of_plainClaim (Except.ok.inj h)]
    constructor
    · rintro ⟨hforward, related, hrelated, hcolumn, hdeclares, hobject⟩
      rw [hforward] at hclaimants
      exact ⟨related, ⟨hforward, ⟨relation, hclaimants, hrelated, hcolumn⟩, hdeclares⟩, hobject⟩
    · rintro ⟨related, hrefers, hobject⟩
      obtain ⟨other, hclaimed, hrelated, hcolumn⟩ := hrefers.claimed
      rw [hrefers.isForward, hclaimed] at hclaimants
      cases hclaimants
      exact ⟨hrefers.isForward, related, hrelated, hcolumn, hrefers.declared, hobject⟩
  · rw [resolve_of_claimants hclaimants] at h
    cases h

/-- The same of the type that the field is declared with. -/
theorem hasAccess_of_outcome {outcome : FieldOutcome}
    (h : (ofCatalog catalog source limit).outcome collection field = .ok outcome) :
    outcome.type.HasAccess object column ↔ ∃ related,
      catalog.KeyRefersTo collection field ⟨related, column⟩ ∧ typeIdentifier related = object := by
  obtain ⟨result, hresult, rfl⟩ := map_eq_ok.mp h
  cases result with
  | ok resolution =>
    rw [← hasAccess_of_resolve hresult]
    dsimp only [FieldOutcome.type]
    split
    · exact (TypeExpr.memberWise_hasAccess object column).orNull_iff TypeExpr.not_hasAccess_keyword
    · exact Iff.rfl
  | error error =>
    refine iff_of_false TypeExpr.not_hasAccess_keyword ?_
    rintro ⟨related, hrefers, -⟩
    have hlinked := Catalog.linked?_of_keyRefersTo hrefers
    rw [linked?_of_resolve_error hresult] at hlinked
    cases hlinked

/-- Every field has a member, in order, with the accesses of the key that the field holds. -/
theorem forall₂_hasAccess {entity : Entity} {model : Model}
    (h : (ofCatalog catalog source limit).model entity = .ok model) (object column : String) :
    List.Forall₂ (fun field member => member.field = field ∧
        (member.type.HasAccess object column ↔ ∃ related,
          catalog.KeyRefersTo entity.collection field ⟨related, column⟩ ∧
            typeIdentifier related = object))
      entity.fields.toList model.declaration.members := by
  refine (forall₂_members h).imp ?_
  rintro field member ⟨outcome, houtcome, rfl⟩
  exact ⟨rfl, hasAccess_of_outcome houtcome⟩

end Resolver

/-! ### The member for a column -/

/-- A declaration has a member for the field of the given name. -/
def ModelDecl.HasMember (decl : ModelDecl) (name : String) : Prop :=
  ∃ member ∈ decl.members, member.field.name = name

theorem Catalog.isSome_field? {catalog : Catalog} {entity : Entity}
    (h : entity ∈ catalog.entities.toList) (name : String) :
    (catalog.field? ⟨entity.collection, name⟩).isSome ↔ name ∈ entity.fields.names := by
  have hentity : catalog.entity? entity.collection = some entity := Roster.find?_of_mem h
  rw [field?, hentity, Option.bind_some, Roster.isSome_find?, Roster.contains_eq_true]

namespace Generator

variable {generator : Generator} {output : Output}

/-- A model has a member for every field of its entity and no other. -/
theorem hasMember_iff {entity : Entity} {model : Model}
    (h : generator.resolver.model entity = .ok model) {name : String} :
    model.declaration.HasMember name ↔ name ∈ entity.fields.names := by
  rw [Roster.names, ← Resolver.map_field_members h, List.map_map, List.mem_map]
  rfl

/-- Where collisions are rejected, the type of a collection is that of exactly one model, the
collection's own, which has a member for every field of the collection. -/
theorem exists_only_model (policy : generator.settings.collisions = .reject)
    (done : generator.run = .ok output) {related : String}
    (h : generator.catalog.declares related) :
    ∃ target, output.models.filter (·.model.declaration.typeName == typeIdentifier related) =
        [target] ∧ target.model.declaration.collection = related ∧
      ∀ column, target.model.declaration.HasMember column ↔
        (generator.catalog.field? ⟨related, column⟩).isSome := by
  obtain ⟨accepted, hgenerate⟩ := run_eq_ok.mp done
  obtain ⟨entity, hentity, rfl⟩ := Catalog.declares_eq_true.mp h
  obtain ⟨target, htarget, hmodel⟩ := exists_unit_of_mem_entities hgenerate hentity
  have hdistinct : (output.models.map (·.model.declaration.typeName)).Nodup := by
    rw [map_typeName_models hgenerate]
    refine List.Nodup.of_map foldCase ?_
    rw [← map_foldedName]
    exact Catalog.collisions_eq_nil_iff.mp ((accept_eq_ok.mp accepted).2 policy).1
  refine ⟨target, ?_, Resolver.collection_of_model hmodel, fun column => ?_⟩
  · have honly := filter_eq_singleton_of_nodup hdistinct htarget
    rwa [Resolver.typeName_of_model hmodel] at honly
  · rw [hasMember_iff hmodel, Catalog.isSome_field? hentity]

/-- An access in a member of a model is due to the field's key. -/
theorem exists_keyRefersTo_of_hasAccess (h : generator.generate = .ok output) {unit : ModelUnit}
    (hunit : unit ∈ output.models) {member : MemberDecl}
    (hmember : member ∈ unit.model.declaration.members) {object column : String}
    (haccess : member.type.HasAccess object column) :
    ∃ entity ∈ generator.catalog.entities.toList,
      entity.collection = unit.model.declaration.collection ∧ member.field ∈ entity.fields.toList ∧
        ∃ related, generator.catalog.KeyRefersTo entity.collection member.field ⟨related, column⟩ ∧
          typeIdentifier related = object := by
  obtain ⟨entity, hentity, hmodel⟩ := exists_entity_of_mem_models h hunit
  obtain ⟨field, hfield, rfl, hiff⟩ :=
    exists_mem_of_forall₂ (Resolver.forall₂_hasAccess hmodel object column) member hmember
  exact ⟨entity, hentity, (Resolver.collection_of_model hmodel).symm, hfield, hiff.mp haccess⟩

/-- A field's key that refers to a column makes an access in a member of a model. -/
theorem exists_hasAccess_of_keyRefersTo (h : generator.generate = .ok output) {entity : Entity}
    (hentity : entity ∈ generator.catalog.entities.toList) {field : Field}
    (hfield : field ∈ entity.fields.toList) {key : FieldKey}
    (hrefers : generator.catalog.KeyRefersTo entity.collection field key) :
    ∃ unit ∈ output.models, ∃ member ∈ unit.model.declaration.members,
      member.type.HasAccess (typeIdentifier key.collection) key.field := by
  obtain ⟨unit, hunit, hmodel⟩ := exists_unit_of_mem_entities h hentity
  have hmembers :=
    Resolver.forall₂_hasAccess hmodel (typeIdentifier key.collection) key.field
  obtain ⟨member, hmember, -, hiff⟩ := exists_mem_of_forall₂ hmembers.flip field hfield
  exact ⟨unit, hunit, member, hmember, hiff.mpr ⟨key.collection, hrefers, rfl⟩⟩

/-- Where collisions are rejected, an access in a member of a model is due to a field that holds a
key. Its object is the type of exactly one model, that of the related collection, and its property
is the key column, taken as it stands: the model has a member for it exactly if the related
collection has a field of this name. So all accesses of an output name members exactly if every key
column that a field refers to is a field. -/
theorem accesses_exact (policy : generator.settings.collisions = .reject)
    (done : generator.run = .ok output) :
    (∀ unit ∈ output.models, ∀ member ∈ unit.model.declaration.members, ∀ object column,
      member.type.HasAccess object column → ∃ related target,
        generator.catalog.KeyRefersTo unit.model.declaration.collection member.field
            ⟨related, column⟩ ∧
          output.models.filter (·.model.declaration.typeName == object) = [target] ∧
          target.model.declaration.collection = related ∧
          (target.model.declaration.HasMember column ↔
            (generator.catalog.field? ⟨related, column⟩).isSome)) ∧
      ((∀ unit ∈ output.models, ∀ member ∈ unit.model.declaration.members, ∀ object column,
          member.type.HasAccess object column → ∃ target ∈ output.models,
            target.model.declaration.typeName = object ∧
              target.model.declaration.HasMember column) ↔
        ∀ entity ∈ generator.catalog.entities.toList, ∀ field ∈ entity.fields.toList, ∀ key,
          generator.catalog.KeyRefersTo entity.collection field key →
            (generator.catalog.field? key).isSome) := by
  have hgenerate := (run_eq_ok.mp done).2
  refine ⟨fun unit hunit member hmember object column haccess => ?_, fun hall => ?_, fun hall => ?_⟩
  · obtain ⟨entity, -, hcollection, -, related, hrefers, rfl⟩ :=
      exists_keyRefersTo_of_hasAccess hgenerate hunit hmember haccess
    obtain ⟨target, honly, htarget, hhas⟩ := exists_only_model policy done hrefers.declared
    exact ⟨related, target, hcollection ▸ hrefers, honly, htarget, hhas column⟩
  · intro entity hentity field hfield key hrefers
    obtain ⟨unit, hunit, member, hmember, haccess⟩ :=
      exists_hasAccess_of_keyRefersTo hgenerate hentity hfield hrefers
    obtain ⟨target, htarget, htype, hhas⟩ := hall unit hunit member hmember _ _ haccess
    obtain ⟨only, honly, -, honlyHas⟩ := exists_only_model policy done hrefers.declared
    -- The object names one model only, so the model with the member is that of the collection.
    have hmem : target ∈ [only] := honly ▸ List.mem_filter.mpr ⟨htarget, beq_iff_eq.mpr htype⟩
    rw [List.mem_singleton.mp hmem] at hhas
    exact (honlyHas key.field).mp hhas
  · intro unit hunit member hmember object column haccess
    obtain ⟨entity, hentity, -, hfield, related, hrefers, rfl⟩ :=
      exists_keyRefersTo_of_hasAccess hgenerate hunit hmember haccess
    obtain ⟨target, honly, -, hhas⟩ := exists_only_model policy done hrefers.declared
    have hmem := honly ▸ List.mem_singleton_self target
    obtain ⟨htarget, htype⟩ := List.mem_filter.mp hmem
    exact ⟨target, htarget, eq_of_beq htype,
      (hhas column).mpr (hall entity hentity member.field hfield _ hrefers)⟩

/-- The articles' key refers to a column of the authors, and the authors' model has a member for
it. -/
theorem accesses_exact_blog :
    ∃ output, blog.settings.collisions = .reject ∧ blog.run = .ok output ∧
      ∃ unit ∈ output.models, ∃ member ∈ unit.model.declaration.members,
        member.field.name = "author" ∧ member.type.HasAccess "Author" "id" ∧ ∃ target,
          output.models.filter (·.model.declaration.typeName == "Author") = [target] ∧
            target.model.declaration.collection = "authors" ∧
            target.model.declaration.HasMember "id" := by
  obtain ⟨output, unit, hunit, done, hunitOf, member, hmember, hname, htype⟩ :
      ∃ output, ∃ unit ∈ output.models, blog.run = .ok output ∧
        unit.model.declaration.collection = "articles" ∧
        ∃ member ∈ unit.model.declaration.members, member.field.name = "author" ∧
          member.type = .union [.reference "Author", .indexedAccess "Author" "id", .null] :=
    ⟨_, _, List.mem_cons_of_mem _ List.mem_cons_self, rfl, rfl, _, List.mem_cons_self, rfl, rfl⟩
  have haccess : member.type.HasAccess "Author" "id" := by
    rw [htype]
    exact .member (List.mem_cons_of_mem _ List.mem_cons_self) .here
  obtain ⟨related, target, hrefers, honly, hcollection, hhas⟩ :=
    (accesses_exact rfl done).1 unit hunit member hmember _ _ haccess
  obtain ⟨relation, hclaimants, hrelated, -⟩ := hrefers.claimed
  rw [hunitOf, hname] at hclaimants
  obtain rfl := List.singleton_inj.mp (hclaimants : [_] = [relation])
  obtain rfl : "authors" = related := Option.some.inj hrelated
  exact ⟨output, rfl, done, unit, hunit, member, hmember, hname, haccess, target, honly,
    hcollection, hhas.mpr rfl⟩

/-- Tags with parents, whose key refers to a column that is no field of the tags. -/
def parentTags : Generator where
  catalog := {
    entities := .ofList [
      { Entity.ofName "tags" with fields := .ofList [.ofKind "parent" .integer] }]
    relations := [(Relation.toOne "tags" "parent" "tags").withKeyColumn "id"] }
  source := .none
  settings := .standard

/-- An access can name a property that no model has a member for, although every check of the
catalog succeeds and collisions are rejected. -/
theorem exists_hasAccess_without_member :
    ∃ output, parentTags.settings.collisions = .reject ∧ parentTags.catalog.check = .ok () ∧
      parentTags.run = .ok output ∧
      ∃ unit ∈ output.models, ∃ member ∈ unit.model.declaration.members,
        member.type.HasAccess "Tag" "id" ∧
          ∀ target ∈ output.models, ¬ target.model.declaration.HasMember "id" := by
  refine ⟨_, rfl, rfl, rfl, _, List.mem_cons_self, _, List.mem_cons_self, ?_, ?_⟩
  · exact .member (List.mem_cons_of_mem _ List.mem_cons_self) .here
  · rintro target htarget ⟨member, hmember, hname⟩
    obtain rfl := List.mem_singleton.mp htarget
    obtain rfl := List.mem_singleton.mp hmember
    exact absurd hname (by decide)

end Generator

end TypedCatalog
