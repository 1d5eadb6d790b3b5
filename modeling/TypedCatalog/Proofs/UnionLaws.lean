import TypedCatalog.Proofs.UnionMembers

/-!
# Laws of unions

Joining types joins their members. Where no member is a union itself this can be done in groups: the
members of the joined type are those of the types, and a union of unions is the union of all
(`TypeExpr.unionOf_map_unionOf`). Adding null adds one member at the end or nothing, to any type
whatever, so doing it again changes nothing (`TypeExpr.orNull_orNull`).
-/

namespace TypedCatalog.TypeExpr

/-- Whether a type is no union, or a union of types that are none, of any number but one. -/
def IsFlat : TypeExpr → Prop
  | union types => (∀ type ∈ types, type.isUnion = false) ∧ types.length ≠ 1
  | _ => True

/-! ### Joining in groups -/

theorem isFlat_of_isUnion_eq_false {type : TypeExpr} (h : type.isUnion = false) : type.IsFlat := by
  cases type with
  | union types => cases h
  | keyword | reference | indexedAccess | literal | array => trivial

/-- No member of a flat type is a union. -/
theorem IsFlat.isUnion_of_mem_members {type : TypeExpr} (h : type.IsFlat) :
    ∀ member ∈ type.members, member.isUnion = false := by
  cases type with
  | union types => exact h.1
  | keyword | reference | indexedAccess | literal | array => exact List.forall_mem_singleton.mpr rfl

theorem isFlat_ofMembers {types : List TypeExpr} (h : ∀ type ∈ types, type.isUnion = false) :
    (ofMembers types).IsFlat := by
  match types, h with
  | [], _ => exact ⟨nofun, by decide⟩
  | [only], h => exact isFlat_of_isUnion_eq_false (h only List.mem_cons_self)
  | _ :: _ :: _, h => exact ⟨h, by simp⟩

section Flat

variable {types : List TypeExpr} (h : ∀ type ∈ types, type.IsFlat)
include h

theorem isUnion_of_mem_flatMap_members :
    ∀ member ∈ types.flatMap members, member.isUnion = false := by
  intro member hmember
  obtain ⟨type, htype, hmember⟩ := List.mem_flatMap.mp hmember
  exact (h type htype).isUnion_of_mem_members member hmember

/-- The members of a union of flat types are those of the types. -/
theorem members_unionOf : (unionOf types).members = types.flatMap members :=
  members_ofMembers (isUnion_of_mem_flatMap_members h)

/-- A union of flat types is flat. -/
theorem isFlat_unionOf : (unionOf types).IsFlat :=
  isFlat_ofMembers (isUnion_of_mem_flatMap_members h)

end Flat

/-- The union of the unions of groups is the union of all. -/
theorem unionOf_map_unionOf {groups : List (List TypeExpr)}
    (h : ∀ group ∈ groups, ∀ type ∈ group, type.IsFlat) :
    unionOf (groups.map unionOf) = unionOf groups.flatten := by
  have hmembers : (groups.map unionOf).flatMap members = groups.flatten.flatMap members := by
    induction groups with
    | nil => rfl
    | cons group rest ih =>
      rw [List.forall_mem_cons] at h
      rw [List.map_cons, List.flatMap_cons, List.flatten_cons, List.flatMap_append, ih h.2,
        members_unionOf h.1]
  rw [unionOf, hmembers, unionOf]

/-! ### Adding null -/

theorem orNull_of_mem_members {type : TypeExpr} (h : null ∈ type.members) : type.orNull = type :=
  if_pos (hasNull_eq_true.mpr h)

/-- Null comes behind all members, even behind none. -/
theorem members_orNull {type : TypeExpr} (h : null ∉ type.members) :
    type.orNull.members = type.members ++ [null] := by
  by_cases hne : type.members = []
  -- The union of an empty union and null has null for its only member, so it is null itself.
  · have hnull : type.orNull = null := by
      rw [orNull, if_neg (mt hasNull_eq_true.mp h), unionOf, List.flatMap_cons, hne]
      rfl
    rw [hnull, hne]
    rfl
  · rw [orNull_eq_union hne h]
    rfl

theorem null_mem_members_orNull (type : TypeExpr) : null ∈ type.orNull.members := by
  by_cases h : null ∈ type.members
  · rwa [orNull_of_mem_members h]
  · rw [members_orNull h]
    exact List.mem_append_right _ List.mem_cons_self

/-- Null is added once. -/
theorem orNull_orNull (type : TypeExpr) : type.orNull.orNull = type.orNull :=
  orNull_of_mem_members (null_mem_members_orNull type)

/-- The laws of unions. Flat types can be joined in groups, with a flat type for the result, whose
members are those of the types in their order. Adding null to any type makes null a member of it, so
that doing it again changes nothing; it leaves the members as they are, in order, and puts null
behind them exactly if it was none of them. -/
theorem union_laws :
    (∀ groups : List (List TypeExpr), (∀ group ∈ groups, ∀ type ∈ group, type.IsFlat) →
      unionOf (groups.map unionOf) = unionOf groups.flatten ∧
        (unionOf groups.flatten).IsFlat ∧
        (unionOf groups.flatten).members = groups.flatten.flatMap members) ∧
      (∀ type : TypeExpr, type.orNull.orNull = type.orNull ∧ null ∈ type.orNull.members) ∧
      ∀ type : TypeExpr, (null ∈ type.members → type.orNull.members = type.members) ∧
        (null ∉ type.members → type.orNull.members = type.members ++ [null]) := by
  refine ⟨fun groups h => ?_, fun type => ⟨orNull_orNull type, null_mem_members_orNull type⟩,
    fun type => ⟨fun h => by rw [orNull_of_mem_members h], members_orNull⟩⟩
  have hall : ∀ type ∈ groups.flatten, type.IsFlat := by
    intro type htype
    obtain ⟨group, hgroup, htype⟩ := List.mem_flatten.mp htype
    exact h group hgroup type htype
  exact ⟨unionOf_map_unionOf h, isFlat_unionOf hall, members_unionOf hall⟩

/-- Groups with a union, an empty union, a single type and nothing at all, and null added to a union
inside a union. -/
theorem union_laws_groups :
    unionOf ([[union [string, null], union []], [number], []].map unionOf) =
        union [string, null, number] ∧
      (union [union [null]]).orNull = union [union [null], null] ∧
      (union [union [null]]).orNull.orNull = (union [union [null]]).orNull := by
  obtain ⟨hgroups, htwice, -⟩ := union_laws
  refine ⟨(hgroups _ ?_).1, rfl, (htwice _).1⟩
  simp [IsFlat, isUnion]

end TypedCatalog.TypeExpr
