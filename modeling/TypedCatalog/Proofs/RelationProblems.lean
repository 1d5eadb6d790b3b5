import Mathlib.Data.Prod.Lex
import Mathlib.Data.String.Basic
import TypedCatalog.Proofs.RelationChecks

/-!
# The problem with the relations of a catalog

Of all that is wrong with the relations of a catalog the check reports one thing: the first relation
that belongs to no field, and where there is none the least of the fields that several relations
claim (`Catalog.RelationsFail`). The claims are counted in groups by field. A table of groups may be
gone through in any order; as the least key of a list is told by what the list holds
(`FieldKey.least?_eq_some`), every order comes to the same report
(`Catalog.checkRelationsIn_exact`).
-/

namespace TypedCatalog

/-! ### The least key -/

namespace FieldKey

/-- A key as a pair of names. Pairs are in lexicographic order. -/
def pair (key : FieldKey) : String ×ₗ String := toLex (key.collection, key.field)

theorem pair_injective : Function.Injective pair := by
  rintro ⟨_, _⟩ ⟨_, _⟩ h
  cases h
  rfl

theorem before_eq_true {a b : FieldKey} : a.before b = true ↔ a.pair < b.pair := by
  rw [pair, pair, Prod.Lex.toLex_lt_toLex, before]
  simp only [Bool.or_eq_true, Bool.and_eq_true, decide_eq_true_eq, beq_iff_eq]

theorem mem_and_le_of_least? {keys : List FieldKey} {key : FieldKey} (h : least? keys = some key) :
    key ∈ keys ∧ ∀ other ∈ keys, key.pair ≤ other.pair := by
  induction keys generalizing key with
  | nil => cases h
  | cons first rest ih =>
    rw [least?] at h
    cases hrest : least? rest with
    | none =>
      rw [hrest] at h
      obtain rfl := Option.some.inj h
      rw [least?_eq_none.mp hrest]
      simp
    | some other =>
      obtain ⟨hmem, hle⟩ := ih hrest
      rw [hrest] at h
      obtain rfl := Option.some.inj h
      rw [List.forall_mem_cons]
      split
      · rename_i hbefore
        exact ⟨List.mem_cons_of_mem _ hmem, (before_eq_true.mp hbefore).le, hle⟩
      · rename_i hbefore
        have hfirst : first.pair ≤ other.pair := not_lt.mp fun h => hbefore (before_eq_true.mpr h)
        exact ⟨List.mem_cons_self, le_rfl, fun key hkey => hfirst.trans (hle key hkey)⟩

/-- A key is the least of a list exactly if it is one of the list and no greater than any. -/
theorem least?_eq_some {keys : List FieldKey} {key : FieldKey} :
    least? keys = some key ↔ key ∈ keys ∧ ∀ other ∈ keys, key.pair ≤ other.pair := by
  refine ⟨mem_and_le_of_least?, fun ⟨hmem, hle⟩ => ?_⟩
  cases hleast : least? keys with
  | none =>
    rw [least?_eq_none.mp hleast] at hmem
    cases hmem
  | some least =>
    obtain ⟨hleastMem, hleastLe⟩ := mem_and_le_of_least? hleast
    rw [pair_injective (le_antisymm (hle least hleastMem) (hleastLe key hmem))]

/-- The order of a list does not matter for its least key. -/
theorem least?_perm {keys others : List FieldKey} (h : keys.Perm others) :
    least? keys = least? others := by
  ext key
  simp only [least?_eq_some, h.mem_iff]

end FieldKey

namespace Catalog

variable {catalog : Catalog}

/-! ### What is wrong with a relation -/

/-- Whether the catalog has an entity of the key's collection that has the key's field. -/
def HasField (catalog : Catalog) (key : FieldKey) : Prop :=
  ∃ entity ∈ catalog.entities.toList, entity.collection = key.collection ∧
    ∃ field ∈ entity.fields.toList, field.name = key.field

theorem isSome_field?_iff {key : FieldKey} :
    (catalog.field? key).isSome ↔ catalog.HasField key := by
  rw [field?, entity?, Option.isSome_bind, Option.any_eq_true]
  constructor
  · rintro ⟨entity, hentity, hfield⟩
    obtain ⟨field, hfield⟩ := Option.isSome_iff_exists.mp hfield
    obtain ⟨hmem, hname⟩ := Roster.mem_of_find? hentity
    obtain ⟨hfieldMem, hfieldName⟩ := Roster.mem_of_find? hfield
    exact ⟨entity, hmem, hname, field, hfieldMem, hfieldName⟩
  · rintro ⟨entity, hmem, hname, field, hfieldMem, hfieldName⟩
    refine ⟨entity, hname ▸ Roster.find?_of_mem hmem, ?_⟩
    rw [← hfieldName]
    exact Option.isSome_of_eq_some (Roster.find?_of_mem hfieldMem)

/-- Whether several relations claim a field in one direction. -/
def IsShared (catalog : Catalog) (key : FieldKey) : Prop :=
  ∃ direction, 2 ≤ (catalog.claimants direction key).length

/-- What the check of relations fails with. -/
inductive RelationsFail (catalog : Catalog) : CatalogError → Prop where
  /-- The first relation that belongs to no field. -/
  | withoutField {before after : List Relation} {relation : Relation}
      (relations : catalog.relations = before ++ relation :: after)
      (earlier : ∀ other ∈ before, catalog.HasField other.forwardKey)
      (missing : ¬catalog.HasField relation.forwardKey) :
      RelationsFail catalog (.relationWithoutField relation.forwardKey)
  /-- Where every relation belongs to a field, the least of the fields that several claim. -/
  | shared {key : FieldKey}
      (fields : ∀ relation ∈ catalog.relations, catalog.HasField relation.forwardKey)
      (shared : catalog.IsShared key)
      (least : ∀ other, catalog.IsShared other → key.pair ≤ other.pair) :
      RelationsFail catalog (.duplicateRelation key)

/-! ### The check -/

theorem least?_ambiguousKeys {key : FieldKey} :
    FieldKey.least? catalog.ambiguousKeys = some key ↔
      catalog.IsShared key ∧ ∀ other, catalog.IsShared other → key.pair ≤ other.pair := by
  simp only [FieldKey.least?_eq_some, mem_ambiguousKeys, IsShared, Nat.lt_iff_add_one_le]

/-- The search for a relation that belongs to no field finds the first. -/
theorem find?_field?_eq_some {relation : Relation} :
    catalog.relations.find? (fun relation => (catalog.field? relation.forwardKey).isNone) =
        some relation ↔
      ∃ before after, catalog.relations = before ++ relation :: after ∧
        (∀ other ∈ before, catalog.HasField other.forwardKey) ∧
        ¬catalog.HasField relation.forwardKey := by
  simp only [List.find?_eq_some_iff_append, ← isSome_field?_iff, Bool.not_eq_true',
    Option.isNone_iff_eq_none, Option.isNone_eq_false_iff, Option.not_isSome_iff_eq_none]
  constructor
  · rintro ⟨hmissing, before, after, hrelations, hearlier⟩
    exact ⟨before, after, hrelations, hearlier, hmissing⟩
  · rintro ⟨before, after, hrelations, hearlier, hmissing⟩
    exact ⟨hmissing, before, after, hrelations, hearlier⟩

theorem find?_field?_eq_none :
    catalog.relations.find? (fun relation => (catalog.field? relation.forwardKey).isNone) = none ↔
      ∀ relation ∈ catalog.relations, catalog.HasField relation.forwardKey := by
  simp only [List.find?_eq_none, ← isSome_field?_iff, Bool.not_eq_true, Option.isNone_eq_false_iff]

/-- The check fails with what is wrong, and with nothing else. -/
theorem checkRelations_eq_error {error : CatalogError} :
    catalog.checkRelations = .error error ↔ catalog.RelationsFail error := by
  constructor
  · intro h
    rw [checkRelations] at h
    split at h
    · rename_i relation hfind
      obtain ⟨before, after, hrelations, hearlier, hmissing⟩ := find?_field?_eq_some.mp hfind
      obtain rfl := Except.error.inj h
      exact .withoutField hrelations hearlier hmissing
    · rename_i hfind
      split at h
      · rename_i key hleast
        obtain ⟨hshared, hle⟩ := least?_ambiguousKeys.mp hleast
        obtain rfl := Except.error.inj h
        exact .shared (find?_field?_eq_none.mp hfind) hshared hle
      · cases h
  · intro h
    rw [checkRelations]
    cases h with
    | withoutField hrelations hearlier hmissing =>
      rw [find?_field?_eq_some.mpr ⟨_, _, hrelations, hearlier, hmissing⟩]
    | shared hfields hshared hle =>
      rw [find?_field?_eq_none.mpr hfields, least?_ambiguousKeys.mpr ⟨hshared, hle⟩]

/-- The keys of a direction are different exactly if no field has several claimants. -/
theorem nodup_filterMap_key {key? : Relation → Option FieldKey} {direction : Direction}
    (hkey : ∀ relation key, Relation.claims direction key relation ↔ key? relation = some key) :
    (catalog.relations.filterMap key?).Nodup ↔
      ∀ key, (catalog.claimants direction key).length ≤ 1 := by
  have hcount : ∀ key, (catalog.relations.filterMap key?).count key =
      (catalog.claimants direction key).length := by
    intro key
    rw [List.count_eq_countP, List.countP_filterMap, claimants, ← List.countP_eq_length_filter]
    refine List.countP_congr fun relation _ => ?_
    rw [hkey]
    cases key? relation <;> simp
  simp only [List.nodup_iff_count, hcount]

theorem nodup_forwardKey :
    (catalog.relations.map Relation.forwardKey).Nodup ↔
      ∀ key, (catalog.claimants .forward key).length ≤ 1 := by
  rw [← List.filterMap_eq_map]
  refine nodup_filterMap_key fun relation key => ?_
  rw [Relation.claims_forward, Function.comp_apply, Option.some.injEq]

theorem nodup_reverseKey :
    (catalog.relations.filterMap Relation.reverseKey?).Nodup ↔
      ∀ key, (catalog.claimants .reverse key).length ≤ 1 :=
  nodup_filterMap_key fun relation key => Relation.claims_reverse key relation

/-! ### The order of the groups -/

/-- The check of relations where the groups of the two directions are gone through as given. -/
def checkRelationsIn (catalog : Catalog) (forward reverse : RelationGroups) :
    Except CatalogError Unit :=
  match catalog.relations.find? (fun relation => (catalog.field? relation.forwardKey).isNone) with
  | some relation => .error (.relationWithoutField relation.forwardKey)
  | none =>
    match FieldKey.least? (forward.ambiguous ++ reverse.ambiguous) with
    | some key => .error (.duplicateRelation key)
    | none => .ok ()

theorem ambiguous_perm {groups others : RelationGroups} (h : List.Perm groups others) :
    groups.ambiguous.Perm others.ambiguous :=
  (h.filter _).map _

theorem checkRelationsIn_eq {forward reverse : RelationGroups}
    (hforward : List.Perm forward ((RelationIndex.ofRelations catalog.relations).groups .forward))
    (hreverse : List.Perm reverse ((RelationIndex.ofRelations catalog.relations).groups .reverse)) :
    catalog.checkRelationsIn forward reverse = catalog.checkRelations := by
  have hkeys : (forward.ambiguous ++ reverse.ambiguous).Perm catalog.ambiguousKeys :=
    (ambiguous_perm hforward).append (ambiguous_perm hreverse)
  rw [checkRelationsIn, FieldKey.least?_perm hkeys]
  rfl

/-- The check of relations is exact, and does not depend on the order in which the groups of the two
directions are gone through. It succeeds exactly if every relation belongs to a field of an entity
of the catalog, no two belong to one field, and no two of those whose one-side is complete name one
field there. Otherwise it fails with the first relation that belongs to no field, or, if there is
none, with the least of the fields that several relations claim in one of the directions. -/
theorem checkRelationsIn_exact (catalog : Catalog) {forward reverse : RelationGroups}
    (hforward : List.Perm forward ((RelationIndex.ofRelations catalog.relations).groups .forward))
    (hreverse : List.Perm reverse ((RelationIndex.ofRelations catalog.relations).groups .reverse)) :
    catalog.checkRelationsIn forward reverse = catalog.checkRelations ∧
      (catalog.checkRelationsIn forward reverse = .ok () ↔
        (∀ relation ∈ catalog.relations, catalog.HasField relation.forwardKey) ∧
          (catalog.relations.map Relation.forwardKey).Nodup ∧
          (catalog.relations.filterMap Relation.reverseKey?).Nodup) ∧
      ∀ error, catalog.checkRelationsIn forward reverse = .error error ↔
        catalog.RelationsFail error := by
  have hsingle : (∀ direction key, (catalog.claimants direction key).length ≤ 1) ↔
      (∀ key, (catalog.claimants .forward key).length ≤ 1) ∧
        ∀ key, (catalog.claimants .reverse key).length ≤ 1 := by
    refine ⟨fun h => ⟨h .forward, h .reverse⟩, fun h direction => ?_⟩
    cases direction with
    | forward => exact h.1
    | reverse => exact h.2
  rw [checkRelationsIn_eq hforward hreverse]
  refine ⟨rfl, ?_, fun error => checkRelations_eq_error⟩
  simp only [checkRelations_eq_ok, isSome_field?_iff, hsingle, nodup_forwardKey, nodup_reverseKey]

/-- Tags of articles and articles of authors, every relation given twice. -/
def doubled : Catalog where
  entities := .ofList [
    { Entity.ofName "tags" with fields := .ofList [.ofKind "article" .integer] },
    { Entity.ofName "authors" with fields := .ofList [.ofKind "articles" .aliasField] },
    { Entity.ofName "articles" with fields := .ofList [.ofKind "author" .integer] }]
  relations :=
    let article := Relation.toOne "tags" "article" "articles"
    let author := (Relation.toOne "articles" "author" "authors").withOneField "articles"
    [article, article, author, author]

/-- Three fields have two claimants each. The least of them is reported, also where the groups are
gone through from the last to the first. -/
theorem checkRelationsIn_exact_doubled :
    let index := RelationIndex.ofRelations doubled.relations
    doubled.checkRelationsIn (index.groups .forward).reverse (index.groups .reverse).reverse =
        .error (.duplicateRelation ⟨"articles", "author"⟩) ∧
      doubled.RelationsFail (.duplicateRelation ⟨"articles", "author"⟩) := by
  intro index
  obtain ⟨hsame, -, hfails⟩ := checkRelationsIn_exact doubled
    (List.reverse_perm (index.groups .forward)) (List.reverse_perm (index.groups .reverse))
  have hreport : doubled.checkRelations = .error (.duplicateRelation ⟨"articles", "author"⟩) := rfl
  exact ⟨hsame.trans hreport, (hfails _).mp (hsame.trans hreport)⟩

end Catalog

end TypedCatalog
