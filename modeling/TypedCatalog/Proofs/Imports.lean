import TypedCatalog.Proofs.Acceptance
import TypedCatalog.Proofs.FieldTyping
import TypedCatalog.Proofs.Units

/-!
# What a unit imports

Whether a field needs an import is decided by the collection that it leads to, and what is imported
is the type identifier of that collection (`Generator.imports_of_model`). Where collisions are
rejected an identifier tells its collection, and a model imports exactly the declared types that its
members mention, except its own (`Generator.imports_exact`). Where they are not, a model can import
the name that it declares, and so can an index whose name is chosen as that of a model:
`Generator.typeName_mem_imports_iff` says when.
-/

namespace TypedCatalog

open Naming

/-! ### Members that mention a type -/

/-- Whether the type of a member mentions a declared type. -/
def MemberDecl.mentions (name : String) (member : MemberDecl) : Bool :=
  member.type.mentioned.contains name

/-- The place of the first member that mentions a declared type. -/
def ModelDecl.firstMention (decl : ModelDecl) (name : String) : Nat :=
  decl.members.findIdx (MemberDecl.mentions name)

/-- The declared type that has to be imported for a field. -/
def Catalog.needed? (catalog : Catalog) (collection : String) (field : Field) : Option String :=
  (catalog.linked? collection field).bind (plainImport collection)

theorem Catalog.needed?_eq_some {catalog : Catalog} {collection : String} {field : Field}
    {name : String} :
    catalog.needed? collection field = some name ↔ ∃ related,
      catalog.linked? collection field = some related ∧ related ≠ collection ∧
        typeIdentifier related = name := by
  rw [needed?, Option.bind_eq_some_iff]
  simp only [plainImport_eq_some]

namespace Generator

variable {generator : Generator} {output : Output} {entity : Entity} {model : Model}

/-! ### The imports of a model -/

/-- A model imports what its fields need, each once and in the order of the fields. -/
theorem imports_of_model (h : generator.resolver.model entity = .ok model) :
    model.declaration.imports = firstOccurrences
      (entity.fields.toList.filterMap (generator.catalog.needed? entity.collection)) := by
  obtain ⟨outcomes, hall, rfl⟩ := Resolver.model_eq_ok.mp h
  have hneeds : outcomes.filterMap FieldOutcome.needs =
      entity.fields.toList.filterMap (generator.catalog.needed? entity.collection) :=
    filterMap_eq_filterMap_of_forall₂ <| hall.imp fun _ _ houtcome =>
      Resolver.needs_of_outcome houtcome
  rw [← hneeds]
  rfl

theorem mem_imports_of_model (h : generator.resolver.model entity = .ok model) {name : String} :
    name ∈ model.declaration.imports ↔ ∃ field ∈ entity.fields.toList,
      generator.catalog.needed? entity.collection field = some name := by
  rw [imports_of_model h, mem_firstOccurrences, List.mem_filterMap]

/-- A member mentions the type of the collection that its field leads to. -/
theorem forall₂_mentioned (h : generator.resolver.model entity = .ok model) (name : String) :
    List.Forall₂ (fun field member => name ∈ member.type.mentioned ↔ ∃ related,
        generator.catalog.linked? entity.collection field = some related ∧
          typeIdentifier related = name)
      entity.fields.toList model.declaration.members := by
  refine (Resolver.forall₂_members h).imp ?_
  rintro field member ⟨outcome, houtcome, rfl⟩
  exact Resolver.mem_mentioned_of_outcome houtcome

/-- A field that is declared as `never` needs no import. -/
theorem needs_of_never (h : generator.resolver.model entity = .ok model) {member : MemberDecl}
    (hmember : member ∈ model.declaration.members) (hnever : member.type = .never)
    {outcome : FieldOutcome}
    (houtcome : generator.resolver.outcome entity.collection member.field = .ok outcome) :
    outcome.needs = none := by
  obtain ⟨field, -, other, hother, rfl⟩ :=
    exists_mem_of_forall₂ (Resolver.forall₂_members h) member hmember
  obtain rfl : other = outcome := Except.ok.inj (hother.symm.trans houtcome)
  rw [Resolver.needs_of_outcome houtcome]
  cases hlinked : generator.catalog.linked? entity.collection field with
  | none => rfl
  | some related =>
    have hmem := (Resolver.mem_mentioned_of_outcome houtcome).mpr ⟨related, hlinked, rfl⟩
    rw [show other.type = .never from hnever] at hmem
    cases hmem

/-! ### Where collisions are rejected -/

section Reject

variable (policy : generator.settings.collisions = .reject) (accepted : generator.accept = .ok ())
include policy accepted

/-- A type identifier tells the collection that it is derived from. -/
theorem eq_of_typeIdentifier_eq (hentity : entity ∈ generator.catalog.entities.toList)
    {related : String} (hdeclares : generator.catalog.declares related)
    (hname : typeIdentifier related = entity.typeName) : related = entity.collection := by
  obtain ⟨other, hother, rfl⟩ := Catalog.declares_eq_true.mp hdeclares
  have hnodup := Catalog.collisions_eq_nil_iff.mp ((accept_eq_ok.mp accepted).2 policy).1
  have hfolded : other.foldedName = entity.foldedName := congrArg Text.foldCase hname
  rw [List.inj_on_of_nodup_map hnodup hother hentity hfolded]

/-- A field needs the import of the type that it mentions, unless that is the entity's own. -/
theorem needed?_eq_some_iff_ne (hentity : entity ∈ generator.catalog.entities.toList)
    {field : Field} {name : String} :
    generator.catalog.needed? entity.collection field = some name ↔ name ≠ entity.typeName ∧
      ∃ related, generator.catalog.linked? entity.collection field = some related ∧
        typeIdentifier related = name := by
  rw [Catalog.needed?_eq_some]
  constructor
  · rintro ⟨related, hlinked, hne, rfl⟩
    refine ⟨fun hname => hne ?_, related, hlinked, rfl⟩
    have hdeclares := Resolver.declares_of_linked hlinked
    exact eq_of_typeIdentifier_eq policy accepted hentity hdeclares hname
  · rintro ⟨hne, related, hlinked, rfl⟩
    exact ⟨related, hlinked, fun h => hne (by rw [h, Entity.typeName]), rfl⟩

/-- A model imports the declared types that its members mention, except its own. -/
theorem mem_imports_iff (hentity : entity ∈ generator.catalog.entities.toList)
    (h : generator.resolver.model entity = .ok model) {name : String} :
    name ∈ model.declaration.imports ↔ name ≠ entity.typeName ∧
      ∃ member ∈ model.declaration.members, name ∈ member.type.mentioned := by
  rw [mem_imports_of_model h, exists_mem_iff_of_forall₂ (forall₂_mentioned h name)]
  simp only [needed?_eq_some_iff_ne policy accepted hentity]
  constructor
  · rintro ⟨field, hfield, hne, hlinked⟩
    exact ⟨hne, field, hfield, hlinked⟩
  · rintro ⟨hne, field, hfield, hlinked⟩
    exact ⟨field, hfield, hne, hlinked⟩

/-- A type other than the entity's own is first mentioned by the first field that needs it. -/
theorem firstMention_eq (hentity : entity ∈ generator.catalog.entities.toList)
    (h : generator.resolver.model entity = .ok model) {name : String}
    (hne : name ≠ entity.typeName) :
    model.declaration.firstMention name =
      entity.fields.toList.findIdx
        (generator.catalog.needed? entity.collection · == some name) := by
  have hmap : model.declaration.members.map (MemberDecl.mentions name) =
      entity.fields.toList.map (generator.catalog.needed? entity.collection · == some name) := by
    refine map_eq_map_of_forall₂ ((forall₂_mentioned h name).imp fun field member hmentioned => ?_)
    rw [Bool.eq_iff_iff, MemberDecl.mentions, List.contains_iff_mem, hmentioned, beq_iff_eq,
      needed?_eq_some_iff_ne policy accepted hentity]
    exact (and_iff_right hne).symm
  have hindex := congrArg (List.findIdx id) hmap
  rwa [List.findIdx_map, List.findIdx_map, Function.id_comp, Function.id_comp] at hindex

end Reject

/-- Where collisions are rejected, the imports of a model are exact. They are pairwise different, in
the order of the first members that mention them, and the declared types that its members mention
except its own, which is never imported; each is the type of another model of the same run. A field
that is declared as `never` adds none. -/
theorem imports_exact (policy : generator.settings.collisions = .reject)
    (done : generator.run = .ok output) {unit : ModelUnit} (h : unit ∈ output.models) :
    unit.model.declaration.imports.Nodup ∧
      (unit.model.declaration.imports.Pairwise fun first second =>
        unit.model.declaration.firstMention first < unit.model.declaration.firstMention second) ∧
      (∀ name, name ∈ unit.model.declaration.imports ↔
        name ≠ unit.model.declaration.typeName ∧
          ∃ member ∈ unit.model.declaration.members, name ∈ member.type.mentioned) ∧
      unit.model.declaration.typeName ∉ unit.model.declaration.imports ∧
      (∀ name ∈ unit.model.declaration.imports, ∃ other ∈ output.models,
        other ≠ unit ∧ other.model.declaration.typeName = name) ∧
      ∀ member ∈ unit.model.declaration.members, member.type = .never →
        ∀ outcome, generator.resolver.outcome unit.model.declaration.collection member.field =
          .ok outcome → outcome.needs = none := by
  obtain ⟨accepted, hgenerate⟩ := run_eq_ok.mp done
  obtain ⟨entity, hentity, hmodel⟩ := exists_entity_of_mem_models hgenerate h
  have hmem : ∀ {name}, name ∈ unit.model.declaration.imports ↔
      name ≠ unit.model.declaration.typeName ∧
        ∃ member ∈ unit.model.declaration.members, name ∈ member.type.mentioned := by
    rw [Resolver.typeName_of_model hmodel]
    exact mem_imports_iff policy accepted hentity hmodel
  refine ⟨?_, ?_, fun name => hmem, fun hown => (hmem.mp hown).1 rfl, fun name hname => ?_,
    fun member hmember hnever outcome houtcome => ?_⟩
  · rw [imports_of_model hmodel]
    exact nodup_firstOccurrences _
  · have hfirst : ∀ name ∈ unit.model.declaration.imports,
        unit.model.declaration.firstMention name = entity.fields.toList.findIdx
          (generator.catalog.needed? entity.collection · == some name) := fun name hname =>
      firstMention_eq policy accepted hentity hmodel
        ((mem_imports_iff policy accepted hentity hmodel).mp hname).1
    have hpairwise := pairwise_firstOccurrences_filterMap
      (generator.catalog.needed? entity.collection) entity.fields.toList
    rw [← imports_of_model hmodel] at hpairwise
    refine hpairwise.imp_of_mem fun hname hother hlt => ?_
    rwa [hfirst _ hname, hfirst _ hother]
  · obtain ⟨field, -, himport⟩ := (mem_imports_of_model hmodel).mp hname
    obtain ⟨related, hlinked, -, rfl⟩ := Catalog.needed?_eq_some.mp himport
    obtain ⟨target, htarget, rfl⟩ :=
      Catalog.declares_eq_true.mp (Resolver.declares_of_linked hlinked)
    have htypes : target.typeName ∈ output.models.map (·.model.declaration.typeName) := by
      rw [map_typeName_models hgenerate]
      exact List.mem_map_of_mem htarget
    obtain ⟨other, hother, hsame⟩ := List.mem_map.mp htypes
    refine ⟨other, hother, ?_, hsame⟩
    rintro rfl
    exact (hmem.mp hname).1 hsame.symm
  · rw [Resolver.collection_of_model hmodel] at houtcome
    exact needs_of_never hmodel hmember hnever houtcome

/-- Of authors and articles each imports the other, and the articles' field without a type adds
nothing. -/
theorem imports_exact_blog :
    ∃ output, ∃ unit ∈ output.models, blog.settings.collisions = .reject ∧ blog.run = .ok output ∧
      unit.model.declaration.typeName = "Article" ∧ unit.model.declaration.imports = ["Author"] ∧
      (∃ other ∈ output.models, other ≠ unit ∧ other.model.declaration.typeName = "Author") ∧
      ∃ member ∈ unit.model.declaration.members, member.field.name = "shape" ∧
        ∀ outcome, blog.resolver.outcome "articles" member.field = .ok outcome →
          outcome.needs = none := by
  obtain ⟨output, unit, hunit, done, hname, himports, hcollection, member, hmember, hfield,
      hnever⟩ :
      ∃ output, ∃ unit ∈ output.models, blog.run = .ok output ∧
        unit.model.declaration.typeName = "Article" ∧ unit.model.declaration.imports = ["Author"] ∧
        unit.model.declaration.collection = "articles" ∧
        ∃ member ∈ unit.model.declaration.members, member.field.name = "shape" ∧
          member.type = .never :=
    ⟨_, _, List.mem_cons_of_mem _ List.mem_cons_self, rfl, rfl, rfl, rfl, _,
      List.mem_cons_of_mem _ (List.mem_cons_of_mem _ List.mem_cons_self), rfl, rfl⟩
  obtain ⟨-, -, -, -, hother, hneeds⟩ := imports_exact rfl done hunit
  refine ⟨output, unit, hunit, rfl, done, hname, himports, ?_, member, hmember, hfield, ?_⟩
  · exact hother "Author" (by rw [himports]; exact List.mem_singleton_self _)
  · exact hcollection ▸ hneeds member hmember hnever

/-! ### The name that a unit declares itself -/

/-- The index imports the type of every collection. -/
theorem mem_imports_index {name : String} :
    name ∈ generator.indexUnit.declaration.imports ↔
      ∃ entity ∈ generator.catalog.entities.toList, entity.typeName = name :=
  IndexDecl.mem_imports_ofCatalog

/-- When a unit imports the name that it declares. A model does if one of its fields leads to
another collection of the same type identifier, and so never where collisions are rejected; the
index does if its name is the type identifier of a collection. -/
theorem typeName_mem_imports_iff (done : generator.run = .ok output) :
    List.Forall₂ (fun entity unit =>
        unit.model.declaration.typeName ∈ unit.model.declaration.imports ↔
          ∃ field ∈ entity.fields.toList, ∃ related,
            generator.catalog.linked? entity.collection field = some related ∧
              related ≠ entity.collection ∧ typeIdentifier related = entity.typeName)
        generator.catalog.entities.toList output.models ∧
      (output.index.declaration.typeName ∈ output.index.declaration.imports ↔
        ∃ entity ∈ generator.catalog.entities.toList,
          entity.typeName = generator.settings.indexName) ∧
      (generator.settings.collisions = .reject → ∀ unit ∈ output.models,
        unit.model.declaration.typeName ∉ unit.model.declaration.imports) := by
  obtain ⟨accepted, hgenerate⟩ := run_eq_ok.mp done
  refine ⟨forall₂_of_generate hgenerate fun entity unit hunit => ?_, ?_,
    fun policy unit hunit => ?_⟩
  · have hmodel := (modelUnit_eq_ok.mp hunit).1
    rw [Resolver.typeName_of_model hmodel, mem_imports_of_model hmodel]
    simp only [Catalog.needed?_eq_some]
  · rw [(generate_eq_ok.mp hgenerate).2]
    exact mem_imports_index
  · obtain ⟨entity, hentity, hmodel⟩ := exists_entity_of_mem_models hgenerate hunit
    rw [Resolver.typeName_of_model hmodel]
    exact fun hown => ((mem_imports_iff policy accepted hentity hmodel).mp hown).1 rfl

/-- Neither the units of authors and articles nor their index import the name that they declare. -/
theorem typeName_not_mem_imports_blog :
    ∃ output, blog.run = .ok output ∧
      (∀ unit ∈ output.models,
        unit.model.declaration.typeName ∉ unit.model.declaration.imports) ∧
      output.index.declaration.typeName ∉ output.index.declaration.imports := by
  obtain ⟨output, done⟩ : ∃ output, blog.run = .ok output := ⟨_, rfl⟩
  obtain ⟨-, hindex, hmodels⟩ := typeName_mem_imports_iff done
  refine ⟨output, done, hmodels rfl, ?_⟩
  rw [hindex]
  decide

/-- Tags, with an index that is named as their type. -/
def tagIndex : Generator where
  catalog := ⟨.ofList [.ofName "tags"], []⟩
  source := .none
  settings := { Settings.standard with indexName := "Tag" }

/-- Two collections of one type identifier and a field that leads from one to the other. -/
def twins : Generator where
  catalog := {
    entities := .ofList [
      { Entity.ofName "user_account" with fields := .ofList [.ofKind "twin" .integer] },
      .ofName "user_accounts"]
    relations := [.toOne "user_account" "twin" "user_accounts"] }
  source := .none
  settings := { Settings.standard with collisions := .overwrite }

/-- A unit can import the name that it declares: an index although collisions are rejected, and a
model where they are allowed. -/
theorem exists_typeName_mem_imports :
    (∃ output, tagIndex.run = .ok output ∧ tagIndex.settings.collisions = .reject ∧
      output.index.declaration.typeName ∈ output.index.declaration.imports) ∧
    ∃ output, twins.run = .ok output ∧ ∃ unit ∈ output.models,
      unit.model.declaration.typeName ∈ unit.model.declaration.imports :=
  ⟨⟨_, rfl, rfl, by decide⟩, ⟨_, rfl, _, List.mem_cons_self, by decide⟩⟩

end Generator

end TypedCatalog
