import Mathlib.Data.List.Nodup
import TypedCatalog.Generation.Run

/-!
# What an accepted catalog promises

`Generator.accept` compares type identifiers in lower case. The scan for collisions finds nothing
exactly if these forms are pairwise different (`Catalog.collisions_eq_nil_iff`), and nothing clashes
with the index exactly if none of them is the form of its stem. `Generator.accept_eq_ok` puts the
checks together.
-/

namespace TypedCatalog

open Naming Text

/-- The form of an entity's type identifier that is compared. -/
def Entity.foldedName (entity : Entity) : String := foldCase entity.typeName

@[simp] theorem Entity.claim_folded (entity : Entity) : entity.claim.folded = entity.foldedName :=
  rfl

theorem map_foldedName (entities : List Entity) :
    entities.map Entity.foldedName = (entities.map Entity.typeName).map foldCase := by
  rw [List.map_map]
  rfl

/-! ### The scan for collisions -/

/-- A scan finds nothing exactly if no entity makes a claim that was made before, by an entity or
by one of `claims`. -/
theorem collisionsAfter_eq_nil_iff {claims : List IdentifierClaim} {entities : List Entity} :
    collisionsAfter claims entities = [] ↔
      (entities.map Entity.foldedName).Nodup ∧
        ∀ entity ∈ entities, ∀ claim ∈ claims, claim.folded ≠ entity.foldedName := by
  induction entities generalizing claims with
  | nil => simp [collisionsAfter]
  | cons entity rest ih =>
    rw [collisionsAfter]
    cases hfind : claims.find? (·.folded == entity.claim.folded) with
    | some claim =>
      have hmem : claim ∈ claims := List.mem_of_find?_eq_some hfind
      have hsame : claim.folded = entity.foldedName := by simpa using List.find?_some hfind
      constructor
      · intro h
        cases h
      · rintro ⟨-, h⟩
        exact absurd hsame (h entity List.mem_cons_self claim hmem)
    | none =>
      have hnew : ∀ claim ∈ claims, claim.folded ≠ entity.foldedName := by
        intro claim hclaim
        simpa using List.find?_eq_none.mp hfind claim hclaim
      rw [ih, List.map_cons, List.nodup_cons, List.forall_mem_cons]
      constructor
      · rintro ⟨hrest, h⟩
        refine ⟨⟨?_, hrest⟩, hnew, fun other hother claim hclaim => ?_⟩
        · rintro hmem
          obtain ⟨other, hother, hsame⟩ := List.mem_map.mp hmem
          exact h other hother entity.claim (by simp) hsame.symm
        · exact h other hother claim (List.mem_append_left _ hclaim)
      · rintro ⟨⟨hfirst, hrest⟩, -, h⟩
        refine ⟨hrest, fun other hother claim hclaim => ?_⟩
        rcases List.mem_append.mp hclaim with hclaim | hclaim
        · exact h other hother claim hclaim
        · rw [List.mem_singleton.mp hclaim]
          exact fun hsame => hfirst (List.mem_map.mpr ⟨other, hother, hsame.symm⟩)

/-- A catalog has no collisions exactly if its type identifiers differ in more than case. -/
theorem Catalog.collisions_eq_nil_iff {catalog : Catalog} :
    catalog.collisions = [] ↔ (catalog.entities.toList.map Entity.foldedName).Nodup := by
  rw [collisions, collisionsAfter_eq_nil_iff]
  simp

/-! ### The checks before a run -/

/-- The check of identifiers succeeds exactly if every one of them can be written. -/
theorem Catalog.checkIdentifiers_eq_ok {catalog : Catalog} :
    catalog.checkIdentifiers = .ok () ↔
      ∀ entity ∈ catalog.entities.toList, isIdentifier entity.typeName := by
  unfold checkIdentifiers
  cases hfind : catalog.entities.toList.find? (!isIdentifier ·.typeName) with
  | some entity =>
    have hmem := List.mem_of_find?_eq_some hfind
    have hbad := List.find?_some hfind
    simp only [Bool.not_eq_true'] at hbad
    constructor
    · intro h
      cases h
    · intro h
      rw [h entity hmem] at hbad
      cases hbad
  | none => simpa using hfind

namespace Generator

theorem indexClashes_eq_nil_iff {generator : Generator} :
    generator.indexClashes = [] ↔ ∀ entity ∈ generator.catalog.entities.toList,
      entity.foldedName ≠ foldCase generator.settings.indexStem := by
  rw [indexClashes, List.filter_eq_nil_iff]
  simp [clashesWithIndex, Entity.foldedName]

/-- A catalog is accepted exactly if its identifiers can be written and, where collisions are
rejected, differ in more than case from each other and from the stem of the index. -/
theorem accept_eq_ok {generator : Generator} :
    generator.accept = .ok () ↔
      generator.catalog.checkIdentifiers = .ok () ∧
        (generator.settings.collisions = .reject →
          generator.catalog.collisions = [] ∧ generator.indexClashes = []) := by
  unfold accept
  cases generator.catalog.checkIdentifiers with
  | error error => simp
  | ok =>
    cases generator.settings.collisions with
    | overwrite => simp
    | reject =>
      cases hcollisions : generator.catalog.collisions with
      | cons collision rest => simp
      | nil => cases hclashes : generator.indexClashes <;> simp

/-- The type identifiers of an accepted catalog can be written, whatever the settings. -/
theorem isIdentifier_typeName {generator : Generator} (accepted : generator.accept = .ok ())
    {entity : Entity} (h : entity ∈ generator.catalog.entities.toList) :
    isIdentifier entity.typeName :=
  Catalog.checkIdentifiers_eq_ok.mp (accept_eq_ok.mp accepted).1 entity h

/-- Authors and their articles: an accepted catalog. The notes and names hold quotes and a star
with a slash. -/
def blog : Generator where
  catalog := {
    entities := .ofList [
      { Entity.ofName "authors" with
        fields := .ofList [.ofKind "id" .integer, .ofKind "articles" .aliasField] },
      { Entity.ofName "articles" with
        note := some "All that was written,\n*/ by anyone"
        fields := .ofList [
          { Field.ofKind "author" .integer with nullable := true },
          { Field.ofKind "it's \"so\"" .csv with note := some "**/" },
          .ofKind "shape" (.unknown "hstore")] }]
    relations := [((Relation.toOne "articles" "author" "authors").withKeyColumn "id").withOneField
      "articles"] }
  source := .none
  settings := .standard

end Generator

end TypedCatalog
