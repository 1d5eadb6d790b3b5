import TypedCatalog.Proofs.Outcomes
import TypedCatalog.Proofs.PlainResolution

/-!
# The check of relations

The check looks for fields that several relations claim among the groups of an index. As the groups
have different keys, it finds exactly the fields that a scan of all relations finds
(`Catalog.mem_ambiguousKeys`), in either direction. So a catalog passes exactly if every relation
belongs to a field of the catalog and no field has two (`Catalog.checkRelations_eq_ok`).
-/

namespace TypedCatalog

/-! ### Groups -/

namespace RelationGroups

variable {groups : RelationGroups} {key other : FieldKey} {relation : Relation}

theorem mem_keys_add :
    other ∈ (add key relation groups).map Prod.fst ↔ other = key ∨ other ∈ groups.map Prod.fst := by
  induction groups with
  | nil => simp [add]
  | cons first rest ih =>
    rw [add]
    split
    · rename_i hfirst
      simp [hfirst]
    · rw [List.map_cons, List.mem_cons, ih, List.map_cons, List.mem_cons, or_left_comm]

/-- One more relation leaves the keys of the groups different. -/
theorem nodup_keys_add (h : (groups.map Prod.fst).Nodup) :
    ((add key relation groups).map Prod.fst).Nodup := by
  induction groups with
  | nil => simp [add]
  | cons first rest ih =>
    rw [List.map_cons, List.nodup_cons] at h
    rw [add]
    split
    · exact List.nodup_cons.mpr h
    · rename_i hfirst
      refine List.nodup_cons.mpr ⟨fun hmem => ?_, ih h.2⟩
      exact (mem_keys_add.mp hmem).elim hfirst h.1

/-- A key has several relations exactly if its group is found to hold several. -/
theorem mem_ambiguous (distinct : (groups.map Prod.fst).Nodup) :
    key ∈ groups.ambiguous ↔ 1 < (groups.get key).length := by
  have hfound : ∀ group, groups.find? (·.1 == key) = some group ↔ group ∈ groups ∧ group.1 = key :=
    fun _ => find?_eq_some_iff_of_nodup distinct
  have hmem : key ∈ groups.ambiguous ↔ ∃ group ∈ groups, group.1 = key ∧ 1 < group.2.length := by
    simp only [ambiguous, List.mem_map, List.mem_filter, decide_eq_true_eq, and_assoc,
      and_comm (a := 1 < _)]
  rw [hmem, get]
  constructor
  · rintro ⟨group, hgroup, hkey, hlong⟩
    rw [(hfound group).mpr ⟨hgroup, hkey⟩]
    exact hlong
  · intro hlong
    cases hfind : groups.find? (·.1 == key) with
    | none =>
      rw [hfind] at hlong
      cases hlong
    | some group =>
      rw [hfind] at hlong
      obtain ⟨hgroup, hkey⟩ := (hfound group).mp hfind
      exact ⟨group, hgroup, hkey, hlong⟩

end RelationGroups

namespace RelationIndex

theorem nodup_keys_add {index : RelationIndex}
    (h : ∀ direction, ((index.groups direction).map Prod.fst).Nodup) (relation : Relation)
    (direction : Direction) : (((index.add relation).groups direction).map Prod.fst).Nodup := by
  cases direction with
  | forward => exact RelationGroups.nodup_keys_add (h .forward)
  | reverse =>
    rw [groups, add]
    split
    · exact RelationGroups.nodup_keys_add (h .reverse)
    · exact h .reverse

/-- The groups of an index have different keys. -/
theorem nodup_keys_ofRelations (relations : List Relation) (direction : Direction) :
    (((ofRelations relations).groups direction).map Prod.fst).Nodup := by
  have hfold : ∀ (relations : List Relation) (index : RelationIndex),
      (∀ direction, ((index.groups direction).map Prod.fst).Nodup) →
        ∀ direction, (((relations.foldl add index).groups direction).map Prod.fst).Nodup := by
    intro relations
    induction relations with
    | nil => exact fun _ h => h
    | cons relation rest ih => exact fun index h => ih _ (nodup_keys_add h relation)
  refine hfold relations empty (fun direction => ?_) direction
  cases direction <;> exact List.nodup_nil

end RelationIndex

/-! ### The check -/

theorem FieldKey.least?_eq_none {keys : List FieldKey} : least? keys = none ↔ keys = [] := by
  cases keys with
  | nil => simp [least?]
  | cons key rest =>
    rw [least?]
    cases least? rest <;> simp

namespace Catalog

variable {catalog : Catalog}

/-- A field is ambiguous exactly if several relations claim it in one of the directions. -/
theorem mem_ambiguousKeys {key : FieldKey} :
    key ∈ catalog.ambiguousKeys ↔ ∃ direction, 1 < (catalog.claimants direction key).length := by
  have hgroup : ∀ direction,
      key ∈ (RelationIndex.ofRelations catalog.relations).ambiguous direction ↔
        1 < (catalog.claimants direction key).length := by
    intro direction
    rw [RelationIndex.ambiguous,
      RelationGroups.mem_ambiguous (RelationIndex.nodup_keys_ofRelations _ direction),
      RelationIndex.get_groups_ofRelations]
    rfl
  simp only [ambiguousKeys, List.mem_append, hgroup]
  constructor
  · rintro (h | h)
    · exact ⟨.forward, h⟩
    · exact ⟨.reverse, h⟩
  · rintro ⟨direction, h⟩
    cases direction with
    | forward => exact .inl h
    | reverse => exact .inr h

/-- The relations of a catalog pass exactly if each belongs to a field of the catalog, and no two
claim one field in one direction. -/
theorem checkRelations_eq_ok :
    catalog.checkRelations = .ok () ↔
      (∀ relation ∈ catalog.relations, (catalog.field? relation.forwardKey).isSome) ∧
        ∀ direction key, (catalog.claimants direction key).length ≤ 1 := by
  have hambiguous : FieldKey.least? catalog.ambiguousKeys = none ↔
      ∀ direction key, (catalog.claimants direction key).length ≤ 1 := by
    rw [FieldKey.least?_eq_none, List.eq_nil_iff_forall_not_mem, forall_comm]
    simp only [mem_ambiguousKeys, not_exists, Nat.not_lt]
  have hfields : catalog.relations.find? (fun relation =>
      (catalog.field? relation.forwardKey).isNone) = none ↔
        ∀ relation ∈ catalog.relations, (catalog.field? relation.forwardKey).isSome := by
    simp [List.find?_eq_none, Option.isSome_iff_ne_none]
  rw [← hfields, ← hambiguous, checkRelations]
  cases catalog.relations.find? (fun relation => (catalog.field? relation.forwardKey).isNone) with
  | some relation => simp
  | none => cases FieldKey.least? catalog.ambiguousKeys <;> simp

/-- A catalog passes all checks exactly if it passes each. -/
theorem check_eq_ok :
    catalog.check = .ok () ↔
      catalog.checkIdentifiers = .ok () ∧ catalog.collisions = [] ∧
        catalog.checkRelations = .ok () := by
  rw [check, bind_eq_ok]
  constructor
  · rintro ⟨⟨⟩, hidentifiers, hrest⟩
    cases hcollisions : catalog.collisions with
    | nil => exact ⟨hidentifiers, rfl, by rwa [hcollisions] at hrest⟩
    | cons collision rest => simp [hcollisions] at hrest
  · rintro ⟨hidentifiers, hcollisions, hrelations⟩
    exact ⟨(), hidentifiers, by rwa [hcollisions]⟩

end Catalog

end TypedCatalog
