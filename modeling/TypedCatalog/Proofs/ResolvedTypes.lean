import TypedCatalog.Proofs.Acceptance
import TypedCatalog.Proofs.FieldTyping
import TypedCatalog.Proofs.TypeNames
import TypedCatalog.Proofs.TypeReading

/-!
# The types that fields get

Every type that a resolver gives a field of an accepted catalog is normal, and so is what becomes of
it when null is added; what the field needs to import is the name of a declared type
(`Generator.isReadable_of_resolve`).
-/

namespace TypedCatalog

open Naming

/-! ### Unions -/

namespace TypeExpr

theorem normalMembers_iff {types : List TypeExpr} :
    NormalMembers types ↔ ∀ type ∈ types, type.isUnion = false ∧ type.Normal := by
  induction types with
  | nil => simp [NormalMembers]
  | cons type rest ih => rw [NormalMembers, List.forall_mem_cons, ih]

/-- The members of a normal type: one that is no union for each, and at least one. -/
theorem Normal.members {type : TypeExpr} (h : type.Normal) :
    type.members ≠ [] ∧ NormalMembers type.members := by
  cases hunion : type.isUnion with
  | false =>
    rw [members_of_isUnion_eq_false hunion]
    exact ⟨by simp, ⟨hunion, h⟩, trivial⟩
  | true =>
    cases type with
    | union types =>
      refine ⟨?_, h.2⟩
      rintro rfl
      exact absurd h.1 (by decide)
    | keyword | reference | indexedAccess | literal | array => cases hunion

theorem normal_ofMembers {types : List TypeExpr} (hne : types ≠ []) (h : NormalMembers types) :
    (ofMembers types).Normal := by
  match types, h with
  | [only], h => exact h.1.2
  | _ :: _ :: _, h => exact ⟨by simp, h⟩

/-- A union of normal types is normal, for whatever of them are unions themselves. -/
theorem normal_unionOf {types : List TypeExpr} (hne : types ≠ [])
    (h : ∀ type ∈ types, type.Normal) : (unionOf types).Normal := by
  refine normal_ofMembers ?_ ?_
  · obtain ⟨type, rest, rfl⟩ := List.exists_cons_of_ne_nil hne
    simp [(h type List.mem_cons_self).members.1]
  · refine normalMembers_iff.mpr fun member hmember => ?_
    obtain ⟨type, htype, hmember⟩ := List.mem_flatMap.mp hmember
    exact normalMembers_iff.mp (h type htype).members.2 member hmember

/-- Adding null keeps a type normal. -/
theorem Normal.orNull {type : TypeExpr} (h : type.Normal) : type.orNull.Normal := by
  rw [TypeExpr.orNull]
  split
  · exact h
  · refine normal_unionOf (by simp) ?_
    rintro other hother
    rcases List.mem_pair.mp hother with rfl | rfl
    · exact h
    · trivial

end TypeExpr

theorem Kind.normal_of_scalarType {kind : Kind} {type : TypeExpr}
    (h : kind.scalarType = .ok type) : type.Normal := by
  cases kind <;> cases h <;> trivial

/-! ### Fields -/

/-- Whether a resolution can be read back: its type is normal, and the import that it needs can name
a declared type. -/
structure Resolution.IsReadable (resolution : Resolution) : Prop where
  /-- The type is normal. -/
  type : resolution.type.Normal
  /-- What is needed is the name of a type. -/
  needs : ∀ identifier, resolution.needs = some identifier → IsTypeName identifier

/-- However a field comes to a type, it can be read back, if the identifiers of the collections can
name declared types. -/
theorem FieldTyping.isReadable {catalog : Catalog} {collection : String} {link : Option String}
    {resolution : Resolution} (h : FieldTyping catalog collection link resolution)
    (names : ∀ related, catalog.declares related → IsTypeName (typeIdentifier related)) :
    resolution.IsReadable := by
  refine ⟨?_, fun identifier hneeds => ?_⟩
  · cases h with
    | kind h => exact Kind.normal_of_scalarType h
    | choices hne =>
      refine TypeExpr.normal_ofMembers (by simpa using hne) (TypeExpr.normalMembers_iff.mpr ?_)
      rw [List.forall_mem_map]
      exact fun _ _ => ⟨rfl, trivial⟩
    | column hdeclares =>
      have hname := names _ hdeclares
      exact ⟨Nat.le_refl 2, ⟨rfl, hname⟩, ⟨rfl, hname⟩, trivial⟩
    | key hdeclares hkind =>
      have hkey := Kind.isUnion_of_scalarType hkind
      exact ⟨Nat.le_refl 2, ⟨rfl, names _ hdeclares⟩, ⟨hkey, Kind.normal_of_scalarType hkind⟩,
        trivial⟩
    | records hdeclares => exact names _ hdeclares
  · rw [h.needs_eq] at hneeds
    obtain ⟨related, hlink, himport⟩ := Option.bind_eq_some_iff.mp hneeds
    obtain ⟨-, rfl⟩ := Catalog.plainImport_eq_some.mp himport
    exact names related (h.declares hlink)

namespace Generator

variable {generator : Generator}

/-- Every collection of an accepted catalog has the name of a declared type for its identifier. -/
theorem isTypeName_of_declares (accepted : generator.accept = .ok ()) {collection : String}
    (h : generator.catalog.declares collection) : IsTypeName (typeIdentifier collection) := by
  obtain ⟨entity, hentity, rfl⟩ := Catalog.declares_eq_true.mp h
  exact isTypeName_typeIdentifier (isIdentifier_typeName accepted hentity)

/-- Whatever type a field of an accepted catalog gets, it can be read back. -/
theorem isReadable_of_resolve (accepted : generator.accept = .ok ()) {collection : String}
    {field : Field} {resolution : Resolution}
    (h : generator.resolver.resolve collection field = .ok (.ok resolution)) :
    resolution.IsReadable :=
  (Resolver.fieldTyping_of_resolve h).isReadable fun _ => isTypeName_of_declares accepted

/-- Whatever came of a field of an accepted catalog, the type that it is declared with is normal. -/
theorem normal_outcome (accepted : generator.accept = .ok ()) {collection : String} {field : Field}
    {result : FieldResult} (h : generator.resolver.resolve collection field = .ok result) :
    (FieldOutcome.type ⟨field, result⟩).Normal := by
  cases result with
  | error cause => trivial
  | ok resolution =>
    have hnormal := (isReadable_of_resolve accepted h).type
    dsimp only [FieldOutcome.type]
    split
    · exact hnormal.orNull
    · exact hnormal

end Generator

end TypedCatalog
