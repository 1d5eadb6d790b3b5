import TypedCatalog.Proofs.CollisionReports
import TypedCatalog.Proofs.RelationChecks

/-!
# Why a catalog is refused

A catalog can be unfit for a run in several ways at once, and one of them is reported:
`Generator.Refuses` says which. Type identifiers that cannot be written come first, under any
policy; where collisions are rejected, the first entity of the catalog that has the identifier of an
earlier one comes next, and an entity that has the name of the index last. Main statement: a catalog
is accepted exactly if there is nothing of the kind, and refused with exactly that. The checks of
`Catalog.check` agree with it up to the relations, which no run is refused for.
-/

namespace TypedCatalog

open Naming Text

/-! ### The first collision -/

/-- The collision of an entity with the first of the entities `before` that has its identifier. -/
def collisionWith? (before : List Entity) (entity : Entity) : Option IdentifierCollision :=
  (before.find? (·.foldedName == entity.foldedName)).map fun first =>
    ⟨first.typeName, first.collection, entity.collection⟩

/-- Entities among which none collides have different identifiers. -/
theorem firstProblem_collisionWith?_eq_none (entities : List Entity) :
    firstProblem collisionWith? [] entities = none ↔
      (entities.map Entity.foldedName).Nodup := by
  have hstep : ∀ before entity, collisionWith? before entity = none ↔
      True ∧ entity.foldedName ∉ before.map Entity.foldedName := by
    simp [collisionWith?]
  exact (firstProblem_eq_none_iff_nodup hstep [] entities).trans (by simp)

/-- Among entities with different identifiers there is at most one to collide with. -/
theorem collisionWith?_eq_some {before : List Entity} {second : Entity}
    {collision : IdentifierCollision} (distinct : (before.map Entity.foldedName).Nodup) :
    collisionWith? before second = some collision ↔ ∃ first ∈ before,
      first.foldedName = second.foldedName ∧
        collision = ⟨first.typeName, first.collection, second.collection⟩ := by
  simp only [collisionWith?, Option.map_eq_some_iff, find?_eq_some_iff_of_nodup distinct,
    and_assoc, eq_comm (a := collision)]

/-- The first collision after the entities `before` is that of the first entity that has one. -/
theorem head?_collisionsAfter {before rest : List Entity} {claims : List IdentifierClaim}
    (h : ClaimsOf before claims) :
    (collisionsAfter claims rest).head? = firstProblem collisionWith? before rest := by
  induction rest generalizing before claims with
  | nil => rfl
  | cons entity rest ih =>
    have hclaim := h entity.foldedName
    rw [collisionsAfter, Entity.claim_folded, hclaim, firstProblem, collisionWith?]
    cases before.find? (·.foldedName == entity.foldedName) with
    | none => exact ih h.append_claim
    | some first => rfl

namespace Catalog

variable {catalog : Catalog}

/-- The first collision is that of the first entity that has the identifier of an earlier one. -/
theorem head?_collisions {collision : IdentifierCollision} :
    catalog.collisions.head? = some collision ↔
      ∃ before first second after, catalog.entities.toList = before ++ second :: after ∧
        (before.map Entity.foldedName).Nodup ∧ first ∈ before ∧
        first.foldedName = second.foldedName ∧
        collision = ⟨first.typeName, first.collection, second.collection⟩ := by
  rw [collisions, head?_collisionsAfter .nil, firstProblem_eq_some]
  simp only [List.nil_append, firstProblem_collisionWith?_eq_none]
  constructor
  · rintro ⟨before, second, after, hentities, hdistinct, hsecond⟩
    obtain ⟨first, hfirst, hsame, rfl⟩ := (collisionWith?_eq_some hdistinct).mp hsecond
    exact ⟨before, first, second, after, hentities, hdistinct, hfirst, hsame, rfl⟩
  · rintro ⟨before, first, second, after, hentities, hdistinct, hfirst, hsame, rfl⟩
    exact ⟨before, second, after, hentities, hdistinct,
      (collisionWith?_eq_some hdistinct).mpr ⟨first, hfirst, hsame, rfl⟩⟩

/-- The check of identifiers fails with the first that cannot be written. -/
theorem checkIdentifiers_eq_error {error : CatalogError} :
    catalog.checkIdentifiers = .error error ↔
      ∃ before entity after, catalog.entities.toList = before ++ entity :: after ∧
        (∀ other ∈ before, isIdentifier other.typeName) ∧ ¬isIdentifier entity.typeName ∧
        error = .invalidIdentifier entity.collection entity.typeName := by
  have hfind : ∀ entity, catalog.entities.toList.find? (!isIdentifier ·.typeName) = some entity ↔
      ∃ before after, catalog.entities.toList = before ++ entity :: after ∧
        (∀ other ∈ before, isIdentifier other.typeName) ∧ ¬isIdentifier entity.typeName := by
    intro entity
    rw [List.find?_eq_some_iff_append]
    simp only [Bool.not_eq_true', Bool.not_not, Bool.not_eq_true]
    constructor
    · rintro ⟨hinvalid, before, after, hentities, hearlier⟩
      exact ⟨before, after, hentities, hearlier, hinvalid⟩
    · rintro ⟨before, after, hentities, hearlier, hinvalid⟩
      exact ⟨hinvalid, before, after, hentities, hearlier⟩
  rw [checkIdentifiers]
  constructor
  · intro h
    split at h
    · rename_i entity hentity
      obtain ⟨before, after, hentities, hearlier, hinvalid⟩ := (hfind entity).mp hentity
      exact ⟨before, entity, after, hentities, hearlier, hinvalid, (Except.error.inj h).symm⟩
    · cases h
  · rintro ⟨before, entity, after, hentities, hearlier, hinvalid, rfl⟩
    rw [(hfind entity).mpr ⟨before, after, hentities, hearlier, hinvalid⟩]

end Catalog

/-! ### The error -/

namespace Generator

variable {generator : Generator}

/-- What a catalog is refused with. -/
inductive Refuses (generator : Generator) : GenerationError → Prop where
  /-- The first type identifier that cannot be written, under any policy. -/
  | invalidIdentifier {before after : List Entity} {entity : Entity}
      (entities : generator.catalog.entities.toList = before ++ entity :: after)
      (earlier : ∀ other ∈ before, isIdentifier other.typeName)
      (invalid : ¬isIdentifier entity.typeName) :
      Refuses generator (.catalog (.invalidIdentifier entity.collection entity.typeName))
  /-- Where all of them can be written, the first entity with the identifier of an earlier one, but
  for case. -/
  | identifierCollision {before after : List Entity} {first second : Entity}
      (identifiers : ∀ entity ∈ generator.catalog.entities.toList, isIdentifier entity.typeName)
      (rejected : generator.settings.collisions = .reject)
      (entities : generator.catalog.entities.toList = before ++ second :: after)
      (earlier : (before.map Entity.foldedName).Nodup)
      (mem : first ∈ before) (same : first.foldedName = second.foldedName) :
      Refuses generator
        (.catalog (.identifierCollision first.typeName first.collection second.collection))
  /-- Where they also differ, the first entity with the name of the index, but for case. -/
  | indexNameClash {before after : List Entity} {entity : Entity}
      (identifiers : ∀ entity ∈ generator.catalog.entities.toList, isIdentifier entity.typeName)
      (rejected : generator.settings.collisions = .reject)
      (distinct : (generator.catalog.entities.toList.map Entity.foldedName).Nodup)
      (entities : generator.catalog.entities.toList = before ++ entity :: after)
      (earlier : ∀ other ∈ before, other.foldedName ≠ foldCase generator.settings.indexStem)
      (clash : entity.foldedName = foldCase generator.settings.indexStem) :
      Refuses generator
        (.indexNameClash entity.collection entity.typeName generator.settings.indexStem)

theorem clashesWithIndex_eq_true {settings : Settings} {entity : Entity} :
    clashesWithIndex settings entity = true ↔ entity.foldedName = foldCase settings.indexStem :=
  beq_iff_eq

/-- The first of the entities that clash with the index. -/
theorem exists_indexClashes_eq_cons {entity : Entity} :
    (∃ rest, generator.indexClashes = entity :: rest) ↔
      ∃ before after, generator.catalog.entities.toList = before ++ entity :: after ∧
        (∀ other ∈ before, other.foldedName ≠ foldCase generator.settings.indexStem) ∧
        entity.foldedName = foldCase generator.settings.indexStem := by
  simp only [indexClashes, List.filter_eq_cons_iff, clashesWithIndex_eq_true, ne_eq]
  constructor
  · rintro ⟨rest, before, after, hentities, hearlier, hclash, -⟩
    exact ⟨before, after, hentities, hearlier, hclash⟩
  · rintro ⟨before, after, hentities, hearlier, hclash⟩
    exact ⟨_, before, after, hentities, hearlier, hclash, rfl⟩

/-- A catalog is refused only with what is wrong with it. -/
theorem refuses_of_accept {error : GenerationError} (h : generator.accept = .error error) :
    generator.Refuses error := by
  rw [accept] at h
  split at h
  · rename_i problem hproblem
    obtain ⟨before, entity, after, hentities, hearlier, hinvalid, rfl⟩ :=
      Catalog.checkIdentifiers_eq_error.mp hproblem
    obtain rfl := Except.error.inj h
    exact .invalidIdentifier hentities hearlier hinvalid
  · rename_i hidentifiers
    rw [Catalog.checkIdentifiers_eq_ok] at hidentifiers
    split at h
    · cases h
    · rename_i hrejected
      split at h
      · rename_i collision rest hcollisions
        obtain ⟨before, first, second, after, hentities, hbefore, hfirst, hsame, rfl⟩ :=
          Catalog.head?_collisions.mp (List.head?_eq_some_iff.mpr ⟨rest, hcollisions⟩)
        obtain rfl := Except.error.inj h
        exact .identifierCollision hidentifiers hrejected hentities hbefore hfirst hsame
      · rename_i entity rest hcollisions hclashes
        obtain ⟨before, after, hentities, hearlier, hclash⟩ :=
          exists_indexClashes_eq_cons.mp ⟨rest, hclashes⟩
        obtain rfl := Except.error.inj h
        exact .indexNameClash hidentifiers hrejected (Catalog.collisions_eq_nil_iff.mp hcollisions)
          hentities hearlier hclash
      · cases h

/-- A catalog is refused with whatever is wrong with it. -/
theorem accept_of_refuses {error : GenerationError} (h : generator.Refuses error) :
    generator.accept = .error error := by
  cases h with
  | invalidIdentifier hentities hearlier hinvalid =>
    rw [accept, Catalog.checkIdentifiers_eq_error.mpr
      ⟨_, _, _, hentities, hearlier, hinvalid, rfl⟩]
  | identifierCollision hidentifiers hrejected hentities hbefore hfirst hsame =>
    obtain ⟨rest, hcollisions⟩ := List.head?_eq_some_iff.mp
      (Catalog.head?_collisions.mpr ⟨_, _, _, _, hentities, hbefore, hfirst, hsame, rfl⟩)
    rw [accept, Catalog.checkIdentifiers_eq_ok.mpr hidentifiers, hrejected, hcollisions]
    rfl
  | indexNameClash hidentifiers hrejected hdistinct hentities hearlier hclash =>
    obtain ⟨rest, hclashes⟩ := exists_indexClashes_eq_cons.mpr ⟨_, _, hentities, hearlier, hclash⟩
    rw [accept, Catalog.checkIdentifiers_eq_ok.mpr hidentifiers, hrejected,
      Catalog.collisions_eq_nil_iff.mpr hdistinct, hclashes]
    rfl

/-- A catalog is accepted exactly if every type identifier can be written and, unless collisions
overwrite, they differ in more than case from each other and from the stem of the index. -/
theorem accept_eq_ok_iff :
    generator.accept = .ok () ↔
      (∀ entity ∈ generator.catalog.entities.toList, isIdentifier entity.typeName) ∧
        (generator.settings.collisions = .overwrite ∨
          (generator.catalog.entities.toList.map Entity.foldedName).Nodup ∧
            ∀ entity ∈ generator.catalog.entities.toList,
              entity.foldedName ≠ foldCase generator.settings.indexStem) := by
  rw [accept_eq_ok, Catalog.checkIdentifiers_eq_ok, Catalog.collisions_eq_nil_iff,
    indexClashes_eq_nil_iff]
  cases generator.settings.collisions <;> simp

/-- A catalog that passes all checks can only have an entity with the name of the index. -/
theorem exists_indexNameClash_of_check (hcheck : generator.catalog.check = .ok ())
    {error : GenerationError} (h : generator.accept = .error error) :
    ∃ entity ∈ generator.catalog.entities.toList,
      error = .indexNameClash entity.collection entity.typeName generator.settings.indexStem := by
  obtain ⟨hidentifiers, hcollisions, -⟩ := Catalog.check_eq_ok.mp hcheck
  cases refuses_of_accept h with
  | invalidIdentifier hentities hearlier hinvalid =>
    exact absurd (Catalog.checkIdentifiers_eq_ok.mp hidentifiers _ (by simp [hentities])) hinvalid
  | identifierCollision hvalid hrejected hentities hbefore hfirst hsame =>
    have hcollision :=
      Catalog.head?_collisions.mpr ⟨_, _, _, _, hentities, hbefore, hfirst, hsame, rfl⟩
    rw [hcollisions] at hcollision
    cases hcollision
  | indexNameClash hvalid hrejected hdistinct hentities hearlier hclash =>
    exact ⟨_, by simp [hentities], rfl⟩

/-- Of a catalog that is accepted where collisions are rejected, only the relations are left to
check. -/
theorem check_of_accept (hrejected : generator.settings.collisions = .reject)
    (h : generator.accept = .ok ()) :
    generator.catalog.check = generator.catalog.checkRelations := by
  obtain ⟨hidentifiers, hrest⟩ := accept_eq_ok.mp h
  rw [Catalog.check, hidentifiers, (hrest hrejected).1]
  rfl

/-- Acceptance is exact and agrees with the checks of the catalog. A catalog is accepted exactly if
every type identifier can be written and either collisions overwrite, or no two identifiers are
equal in lower case and none is the stem of the index in lower case; otherwise it is refused with
the first problem in the order that `Refuses` gives. Relations do not matter. A catalog that passes
all checks can only be refused for an entity with the name of the index, and one that is accepted
where collisions are rejected passes all checks or fails with the problem of its relations. -/
theorem accept_exact (generator : Generator) :
    (generator.accept = .ok () ↔
      (∀ entity ∈ generator.catalog.entities.toList, isIdentifier entity.typeName) ∧
        (generator.settings.collisions = .overwrite ∨
          (generator.catalog.entities.toList.map Entity.foldedName).Nodup ∧
            ∀ entity ∈ generator.catalog.entities.toList,
              entity.foldedName ≠ foldCase generator.settings.indexStem)) ∧
      (∀ error, generator.accept = .error error ↔ generator.Refuses error) ∧
      (∀ relations : List Relation,
        { generator with catalog := { generator.catalog with relations } }.accept =
          generator.accept) ∧
      (generator.catalog.check = .ok () → ∀ error, generator.accept = .error error →
        ∃ entity ∈ generator.catalog.entities.toList,
          error =
            .indexNameClash entity.collection entity.typeName generator.settings.indexStem) ∧
      (generator.settings.collisions = .reject → generator.accept = .ok () →
        generator.catalog.check = .ok () ∨
          ∃ error, generator.catalog.checkRelations = .error error ∧
            generator.catalog.check = .error error) := by
  refine ⟨accept_eq_ok_iff, fun error => ⟨refuses_of_accept, accept_of_refuses⟩, fun _ => rfl,
    fun hcheck error herror => exists_indexNameClash_of_check hcheck herror,
    fun hrejected haccept => ?_⟩
  rw [check_of_accept hrejected haccept]
  cases generator.catalog.checkRelations with
  | ok => exact .inl rfl
  | error error => exact .inr ⟨error, rfl, rfl⟩

/-- A generator for collections without fields. -/
def ofNames (collections : List String) (relations : List Relation) : Generator where
  catalog := ⟨.ofList (collections.map .ofName), relations⟩
  source := .none
  settings := .standard

/-- Where an entity has the name of the index, two others collide and a relation belongs to no
field, the collision is reported. An entity with the name of the index, alone in a catalog that
passes all checks, is reported as such. Where there is only the relation, the catalog is accepted
and fails its checks with the relation. -/
theorem accept_exact_indices :
    (ofNames ["indices", "user_account", "User Accounts"] [.toOne "indices" "page" "pages"]).Refuses
        (.catalog (.identifierCollision "UserAccount" "user_account" "User Accounts")) ∧
      (∃ entity ∈ (ofNames ["indices"] []).catalog.entities.toList,
        GenerationError.indexNameClash "indices" "Index" "index" =
          .indexNameClash entity.collection entity.typeName "index") ∧
      ∃ error, (ofNames ["orders"] [.toOne "orders" "page" "pages"]).catalog.checkRelations =
          .error error ∧
        (ofNames ["orders"] [.toOne "orders" "page" "pages"]).catalog.check = .error error := by
  obtain ⟨-, hrefused, -, -, -⟩ := accept_exact
    (ofNames ["indices", "user_account", "User Accounts"] [.toOne "indices" "page" "pages"])
  obtain ⟨-, -, -, hclash, -⟩ := accept_exact (ofNames ["indices"] [])
  obtain ⟨-, -, -, -, hrelations⟩ :=
    accept_exact (ofNames ["orders"] [.toOne "orders" "page" "pages"])
  refine ⟨(hrefused _).mp (error?_eq_some.mp (by decide +kernel)), hclash rfl _ rfl,
    (hrelations rfl rfl).resolve_left fun hcheck => ?_⟩
  cases hcheck

end Generator

end TypedCatalog
