import TypedCatalog.Generation.Model
import TypedCatalog.Proofs.Outcomes
import TypedCatalog.Proofs.PlainResolution

/-!
# What the type of a field is made of

Only a relation puts a declared type into the type of a field, and then it is the type of the one
collection that the relation leads to (`Catalog.linked?`). `FieldTyping` lists the ways in which a
field comes to a type. There are no others (`Resolver.fieldTyping_of_resolve`), and a field that
leads to a collection always has a type (`Resolver.exists_fieldTyping_of_linked`).
-/

namespace TypedCatalog

open Naming

/-! ### Declared types in a type -/

namespace TypeExpr

mutual

/-- The names of declared types in a type: references, and the objects of indexed accesses. -/
def mentioned : TypeExpr → List String
  | keyword _ => []
  | reference identifier => [identifier]
  | indexedAccess object _ => [object]
  | literal _ => []
  | array item => item.mentioned
  | union members => mentionedAmong members

/-- The names of declared types in several types. -/
def mentionedAmong : List TypeExpr → List String
  | [] => []
  | type :: rest => type.mentioned ++ mentionedAmong rest

end

theorem mem_mentionedAmong {name : String} {types : List TypeExpr} :
    name ∈ mentionedAmong types ↔ ∃ type ∈ types, name ∈ type.mentioned := by
  induction types with
  | nil => simp [mentionedAmong]
  | cons type rest ih => rw [mentionedAmong, List.mem_append, ih, List.exists_mem_cons_iff]

/-- A type mentions what its members mention. -/
theorem memberWise_mentioned (name : String) : MemberWise (name ∈ ·.mentioned) :=
  fun _ => mem_mentionedAmong

end TypeExpr

theorem Kind.mentioned_of_scalarType {kind : Kind} {type : TypeExpr}
    (h : kind.scalarType = .ok type) : type.mentioned = [] := by
  cases kind <;> cases h <;> rfl

theorem Kind.ne_of_scalarType {kind : Kind} {type : TypeExpr} (h : kind.scalarType = .ok type) :
    type ≠ .null ∧ type ≠ .never := by
  cases kind <;> cases h <;> exact ⟨nofun, nofun⟩

/-! ### The collection that a field leads to -/

namespace Relation

/-- The collection that a relation leads to from the field that it claims. -/
def target? (direction : Direction) (relation : Relation) : Option String :=
  match direction with
  | .forward => relation.related
  | .reverse => some relation.manyCollection

/-- Whether a relation has a type for its key, that of a column or that of the field's kind. On the
side of the alias field there is no key. -/
def typesKey (direction : Direction) (kind : Kind) (relation : Relation) : Bool :=
  match direction with
  | .forward => relation.keyColumn.isSome || kind.scalarType.isOk
  | .reverse => true

end Relation

namespace Catalog

/-- The collection whose type `relation`, as the only one to claim a field, puts into the field's
type. -/
def linkOf (catalog : Catalog) (direction : Direction) (kind : Kind) (relation : Relation) :
    Option String :=
  if relation.typesKey direction kind then (relation.target? direction).filter catalog.declares
  else none

/-- The collection whose type stands in the type of a field. -/
def linked? (catalog : Catalog) (collection : String) (field : Field) : Option String :=
  match catalog.claimants (Resolver.direction field) ⟨collection, field.name⟩ with
  | [relation] => catalog.linkOf (Resolver.direction field) field.kind relation
  | _ => none

theorem plainImport_eq_some {collection related name : String} :
    plainImport collection related = some name ↔
      related ≠ collection ∧ typeIdentifier related = name := by
  unfold plainImport
  split <;> simp_all

end Catalog

/-- The ways in which a field of `collection` comes to a type, with the collection that it leads
to. -/
inductive FieldTyping (catalog : Catalog) (collection : String) :
    Option String → Resolution → Prop where
  /-- The type of a kind. -/
  | kind {kind : Kind} {type : TypeExpr} (h : kind.scalarType = .ok type) :
    FieldTyping catalog collection none ⟨type, none⟩
  /-- The choices of a field. -/
  | choices {texts : List String} (h : texts ≠ []) :
    FieldTyping catalog collection none ⟨.ofMembers (texts.map .literal), none⟩
  /-- A related record, or the column that its key refers to. -/
  | column {related column : String} (h : catalog.declares related) :
    FieldTyping catalog collection (some related)
      ⟨.union [.reference (typeIdentifier related), .indexedAccess (typeIdentifier related) column],
        Catalog.plainImport collection related⟩
  /-- A related record, or a key of the field's own kind. -/
  | key {related : String} {kind : Kind} {type : TypeExpr} (h : catalog.declares related)
    (hkind : kind.scalarType = .ok type) :
    FieldTyping catalog collection (some related)
      ⟨.union [.reference (typeIdentifier related), type], Catalog.plainImport collection related⟩
  /-- The records on the many-side. -/
  | records {related : String} (h : catalog.declares related) :
    FieldTyping catalog collection (some related)
      ⟨.array (.reference (typeIdentifier related)), Catalog.plainImport collection related⟩

namespace FieldTyping

variable {catalog : Catalog} {collection : String} {link : Option String} {resolution : Resolution}

/-- What a field needs is the type of the collection that it leads to, unless that is its own. -/
theorem needs_eq (h : FieldTyping catalog collection link resolution) :
    resolution.needs = link.bind (Catalog.plainImport collection) := by
  cases h <;> rfl

/-- The only declared type that a field's type mentions is that of the collection that the field
leads to. -/
theorem mem_mentioned (h : FieldTyping catalog collection link resolution) {name : String} :
    name ∈ resolution.type.mentioned ↔ ∃ related, link = some related ∧
      typeIdentifier related = name := by
  cases h with
  | kind h => simp [Kind.mentioned_of_scalarType h]
  | choices => simp [(TypeExpr.memberWise_mentioned name).ofMembers_iff, TypeExpr.mentioned]
  | column => simp [TypeExpr.mentioned, TypeExpr.mentionedAmong, eq_comm]
  | key _ hkind =>
    simp [TypeExpr.mentioned, TypeExpr.mentionedAmong, Kind.mentioned_of_scalarType hkind, eq_comm]
  | records => simp [TypeExpr.mentioned, eq_comm]

/-- A field's type has neither null nor `never` for a member. -/
theorem ne_of_mem_members (h : FieldTyping catalog collection link resolution) {member : TypeExpr}
    (hmember : member ∈ resolution.type.members) : member ≠ .null ∧ member ≠ .never := by
  cases h with
  | kind h =>
    rw [TypeExpr.members_of_isUnion_eq_false (Kind.isUnion_of_scalarType h)] at hmember
    rw [List.mem_singleton.mp hmember]
    exact Kind.ne_of_scalarType h
  | choices =>
    have hliterals : ∀ {texts : List String}, ∀ type ∈ texts.map TypeExpr.literal,
        type.isUnion = false ∧ type ≠ .null ∧ type ≠ .never := by
      intro texts
      rw [List.forall_mem_map]
      exact fun _ _ => ⟨rfl, nofun, nofun⟩
    rw [TypeExpr.members_ofMembers fun type htype => (hliterals type htype).1] at hmember
    exact (hliterals member hmember).2
  | column =>
    rcases List.mem_pair.mp hmember with rfl | rfl
    · exact ⟨nofun, nofun⟩
    · exact ⟨nofun, nofun⟩
  | key _ hkind =>
    rcases List.mem_pair.mp hmember with rfl | rfl
    · exact ⟨nofun, nofun⟩
    · exact Kind.ne_of_scalarType hkind
  | records =>
    rw [List.mem_singleton.mp hmember]
    exact ⟨nofun, nofun⟩

/-- A type leads to a collection of the catalog only. -/
theorem declares (h : FieldTyping catalog collection link resolution) {related : String}
    (hlink : link = some related) : catalog.declares related := by
  cases h <;> simp_all

end FieldTyping

/-! ### One relation -/

/-- A relation either leads to a collection and gives its field a type, or does neither. -/
theorem Catalog.plainClaim_cases (catalog : Catalog) (direction : Direction) (key : FieldKey)
    (kind : Kind) (relation : Relation) :
    (∃ related resolution, catalog.linkOf direction kind relation = some related ∧
      catalog.plainClaim direction key kind relation = .ok resolution ∧
      FieldTyping catalog key.collection (some related) resolution) ∨
    catalog.linkOf direction kind relation = none ∧
      ∃ error, catalog.plainClaim direction key kind relation = .error error := by
  cases direction with
  | forward =>
    rw [plainClaim, plainForward, linkOf, Relation.typesKey, Relation.target?]
    cases relation.related with
    | none => exact .inr ⟨by simp, _, rfl⟩
    | some related =>
      by_cases hdeclares : catalog.declares related
      · simp only [Option.filter_some, hdeclares]
        cases relation.keyColumn with
        | some column => exact .inl ⟨_, _, rfl, rfl, .column hdeclares⟩
        | none =>
          cases hscalar : kind.scalarType with
          | ok type => exact .inl ⟨_, _, rfl, rfl, .key hdeclares hscalar⟩
          | error error => exact .inr ⟨rfl, _, rfl⟩
      · simp only [if_neg hdeclares]
        exact .inr ⟨by simp [hdeclares], _, rfl⟩
  | reverse =>
    rw [plainClaim, plainReverse_eq, linkOf, Relation.typesKey, Relation.target?, if_pos rfl]
    by_cases hdeclares : catalog.declares relation.manyCollection
    · rw [if_pos hdeclares]
      exact .inl ⟨_, _, by simp [hdeclares], rfl, .records hdeclares⟩
    · rw [if_neg hdeclares]
      exact .inr ⟨by simp [hdeclares], _, rfl⟩

/-! ### Fields -/

/-- A field that no relation claims gets its type from choices or from its kind. -/
theorem LookupResult.fieldTyping_of_plainResult {result : LookupResult} {key : FieldKey}
    {kind : Kind} {catalog : Catalog} {collection : String} {resolution : Resolution}
    (h : result.plainResult key kind = .ok (.ok resolution)) :
    FieldTyping catalog collection none resolution := by
  have hkind : kind.plainResult = .ok resolution →
      FieldTyping catalog collection none resolution := by
    intro h
    unfold Kind.plainResult at h
    split at h
    · rename_i type hscalar
      cases h
      exact .kind hscalar
    · cases h
  unfold plainResult at h
  split at h
  · cases h
  · cases h
  · exact hkind (Except.ok.inj h)
  · exact hkind (Except.ok.inj h)
  · rename_i choices
    split at h
    · exact hkind (Except.ok.inj h)
    · rename_i only _
      cases h
      have hne : [only] ≠ [] := by simp
      exact .choices hne
    · rename_i hne hmany
      cases h
      generalize firstOccurrences (choices.map Choice.literal) = texts at hne hmany ⊢
      match texts with
      | [] => exact absurd rfl hne
      | [only] => exact absurd rfl (hmany only)
      | _ :: _ :: _ => exact .choices hne

namespace Resolver

variable {catalog : Catalog} {source : ChoiceSource} {limit : Option Nat} {collection : String}
  {field : Field}

/-- A field that leads to a collection has a type. -/
theorem exists_fieldTyping_of_linked (source : ChoiceSource) (limit : Option Nat)
    {related : String} (h : catalog.linked? collection field = some related) :
    ∃ resolution, (ofCatalog catalog source limit).resolve collection field = .ok (.ok resolution) ∧
      FieldTyping catalog collection (some related) resolution := by
  unfold Catalog.linked? at h
  split at h
  · rename_i relation hclaimants
    obtain ⟨other, resolution, hlink, hclaim, htyping⟩ | ⟨hlink, -⟩ :=
      catalog.plainClaim_cases (direction field) ⟨collection, field.name⟩ field.kind relation
    · obtain rfl : related = other := Option.some.inj (h.symm.trans hlink)
      exact ⟨resolution, by rw [resolve_of_claimant hclaimants, hclaim], htyping⟩
    · cases h.symm.trans hlink
  · cases h

/-- There are no other ways to a type. -/
theorem fieldTyping_of_resolve {resolution : Resolution}
    (h : (ofCatalog catalog source limit).resolve collection field = .ok (.ok resolution)) :
    FieldTyping catalog collection (catalog.linked? collection field) resolution := by
  rw [Catalog.linked?]
  rcases hclaimants : catalog.claimants (direction field) ⟨collection, field.name⟩ with
    - | ⟨relation, - | ⟨second, rest⟩⟩
  · rw [resolve_of_no_claimant hclaimants] at h
    exact LookupResult.fieldTyping_of_plainResult h
  · rw [resolve_of_claimant hclaimants] at h
    obtain ⟨related, other, hlink, hclaim, htyping⟩ | ⟨-, error, herror⟩ :=
      catalog.plainClaim_cases (direction field) ⟨collection, field.name⟩ field.kind relation
    · rw [hclaim] at h
      cases h
      dsimp only
      rw [hlink]
      exact htyping
    · rw [herror] at h
      cases h
  · rw [resolve_of_claimants hclaimants] at h
    cases h

/-- A field without a type leads nowhere. -/
theorem linked?_of_resolve_error {error : ResolveError}
    (h : (ofCatalog catalog source limit).resolve collection field = .ok (.error error)) :
    catalog.linked? collection field = none := by
  rw [Option.eq_none_iff_forall_ne_some]
  intro related hlinked
  obtain ⟨resolution, hresolve, -⟩ := exists_fieldTyping_of_linked source limit hlinked
  rw [h] at hresolve
  cases hresolve

/-- A field leads to a collection of the catalog only. -/
theorem declares_of_linked {related : String}
    (h : catalog.linked? collection field = some related) : catalog.declares related := by
  obtain ⟨resolution, -, htyping⟩ := exists_fieldTyping_of_linked .none none h
  exact htyping.declares rfl

/-- What is imported for a field is the type of the collection that it leads to, unless that is its
own. -/
theorem needs_of_outcome {outcome : FieldOutcome}
    (h : (ofCatalog catalog source limit).outcome collection field = .ok outcome) :
    outcome.needs = (catalog.linked? collection field).bind (Catalog.plainImport collection) := by
  obtain ⟨result, hresult, rfl⟩ := map_eq_ok.mp h
  cases result with
  | ok resolution => exact (fieldTyping_of_resolve hresult).needs_eq
  | error error =>
    rw [linked?_of_resolve_error hresult]
    rfl

/-- The declared type that a field is declared with is that of the collection that it leads to. -/
theorem mem_mentioned_of_outcome {outcome : FieldOutcome} {name : String}
    (h : (ofCatalog catalog source limit).outcome collection field = .ok outcome) :
    name ∈ outcome.type.mentioned ↔ ∃ related,
      catalog.linked? collection field = some related ∧ typeIdentifier related = name := by
  obtain ⟨result, hresult, rfl⟩ := map_eq_ok.mp h
  cases result with
  | ok resolution =>
    rw [← (fieldTyping_of_resolve hresult).mem_mentioned]
    dsimp only [FieldOutcome.type]
    split
    · exact (TypeExpr.memberWise_mentioned name).orNull_iff List.not_mem_nil
    · exact Iff.rfl
  | error error =>
    rw [linked?_of_resolve_error hresult]
    simp [FieldOutcome.type, TypeExpr.mentioned]

end Resolver

end TypedCatalog
