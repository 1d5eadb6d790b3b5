import TypedCatalog.Resolution.Choices
import TypedCatalog.Resolution.Scalar

/-!
# The members of unions

`TypeExpr.unionOf` joins the members of its arguments. A type that is no union is its own only
member, and so are the types of kinds and of single choices, which is what the unions of a
resolver are made of. What a union has only through its members (`TypeExpr.MemberWise`) a joined
union has through its arguments.
-/

namespace TypedCatalog

namespace TypeExpr

theorem members_of_isUnion_eq_false {type : TypeExpr} (h : type.isUnion = false) :
    type.members = [type] := by
  cases type with
  | union members => cases h
  | keyword | reference | indexedAccess | literal | array => rfl

/-- Types that are no unions are the members of their union. -/
theorem unionOf_of_forall_isUnion {types : List TypeExpr}
    (h : ∀ type ∈ types, type.isUnion = false) : unionOf types = ofMembers types := by
  have hmembers : types.flatMap members = types := by
    induction types with
    | nil => rfl
    | cons type rest ih =>
      rw [List.forall_mem_cons] at h
      rw [List.flatMap_cons, members_of_isUnion_eq_false h.1, ih h.2, List.singleton_append]
  rw [unionOf, hmembers]

/-- Two types or more are a union, not one that stands for itself. -/
theorem ofMembers_of_two_le {types : List TypeExpr} (h : 2 ≤ types.length) :
    ofMembers types = union types := by
  match types, h with
  | _ :: _ :: _, _ => rfl

/-- A type that is no union stands for itself, and so does a list of two types or more. -/
theorem members_ofMembers {types : List TypeExpr} (h : ∀ type ∈ types, type.isUnion = false) :
    (ofMembers types).members = types := by
  match types with
  | [] => rfl
  | [only] => exact members_of_isUnion_eq_false (h only List.mem_cons_self)
  | _ :: _ :: _ => rfl

theorem hasNull_eq_true {type : TypeExpr} : type.hasNull = true ↔ null ∈ type.members := by
  have hnull : ∀ member : TypeExpr, member.isNull = true ↔ member = null := by
    intro member
    unfold isNull
    split <;> simp_all
  simp only [hasNull, List.any_eq_true, hnull, exists_eq_right]

/-- Adding null to a type without it gives a union with null as its last member. -/
theorem orNull_eq_union {type : TypeExpr} (hne : type.members ≠ []) (h : null ∉ type.members) :
    type.orNull = union (type.members ++ [null]) := by
  have hjoined : [type, null].flatMap members = type.members ++ [null] := by simp [members]
  have hlength : 2 ≤ (type.members ++ [null]).length := by
    have := List.length_pos_iff.mpr hne
    rw [List.length_append, List.length_singleton]
    omega
  rw [orNull, if_neg (mt hasNull_eq_true.mp h), unionOf, hjoined, ofMembers_of_two_le hlength]

/-- A union has the property exactly if one of its members has it. -/
def MemberWise (P : TypeExpr → Prop) : Prop :=
  ∀ types, P (union types) ↔ ∃ type ∈ types, P type

namespace MemberWise

variable {P : TypeExpr → Prop} (hP : MemberWise P)
include hP

theorem iff_members {type : TypeExpr} : P type ↔ ∃ member ∈ type.members, P member := by
  cases type with
  | union types => exact hP types
  | keyword | reference | indexedAccess | literal | array => simp [members]

theorem ofMembers_iff {types : List TypeExpr} : P (ofMembers types) ↔ ∃ type ∈ types, P type := by
  match types with
  | [] => exact hP []
  | [only] => simp [ofMembers]
  | _ :: _ :: _ => exact hP _

theorem unionOf_iff {types : List TypeExpr} : P (unionOf types) ↔ ∃ type ∈ types, P type := by
  rw [unionOf, hP.ofMembers_iff]
  constructor
  · rintro ⟨member, hmember, h⟩
    obtain ⟨type, htype, hmember⟩ := List.mem_flatMap.mp hmember
    exact ⟨type, htype, hP.iff_members.mpr ⟨member, hmember, h⟩⟩
  · rintro ⟨type, htype, h⟩
    obtain ⟨member, hmember, h⟩ := hP.iff_members.mp h
    exact ⟨member, List.mem_flatMap.mpr ⟨type, htype, hmember⟩, h⟩

/-- Adding null changes nothing about a property that null does not have. -/
theorem orNull_iff (hnull : ¬ P null) {type : TypeExpr} : P type.orNull ↔ P type := by
  rw [orNull]
  split
  · exact Iff.rfl
  · rw [hP.unionOf_iff]
    simp [hnull]

end MemberWise

end TypeExpr

namespace Kind

theorem isUnion_of_scalarType {kind : Kind} {type : TypeExpr} (h : kind.scalarType = .ok type) :
    type.isUnion = false := by
  cases kind <;> cases h <;> rfl

/-- A kind without a type is reported by its own name. -/
theorem scalarType_eq_error {kind : Kind} {error : ResolveError}
    (h : kind.scalarType = .error error) : error = .unsupportedKind kind.name := by
  cases kind <;> cases h <;> rfl

end Kind

/-- Choices have the union of their distinct literals for a type. -/
theorem choicesType_eq (choices : List Choice) :
    choicesType choices =
      match firstOccurrences (choices.map Choice.literal) with
      | [] => none
      | literals => some (.ofMembers (literals.map .literal)) := by
  unfold choicesType
  cases firstOccurrences (choices.map Choice.literal) with
  | nil => rfl
  | cons first rest =>
    have hplain : ∀ type ∈ (first :: rest).map TypeExpr.literal, type.isUnion = false := by
      intro type h
      obtain ⟨text, -, rfl⟩ := List.mem_map.mp h
      rfl
    simp only [TypeExpr.unionOf_of_forall_isUnion hplain]

end TypedCatalog
