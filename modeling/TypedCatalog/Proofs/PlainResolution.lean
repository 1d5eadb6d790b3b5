import TypedCatalog.Proofs.UnionMembers
import TypedCatalog.Resolution.Field

/-!
# Resolution without an index

`Catalog.plainResult` says what becomes of a field by going through the relations of the catalog one
by one: no relation is grouped under a key, and no lookup is made in an index. Main statement:
`Resolver.resolve` gives the same for every field of every catalog and every answer of the source.
-/

namespace TypedCatalog

open Naming

/-- Whether a relation claims a field, as the relation itself says. In the reverse direction both
names of the one-side must be there. -/
def Relation.claims (direction : Direction) (key : FieldKey) (relation : Relation) : Bool :=
  match direction with
  | .forward => relation.collection == key.collection && relation.field == key.field
  | .reverse =>
    match relation.sides with
    | some sides =>
      sides.oneCollection == some key.collection && sides.oneField == some key.field
    | none => false

/-- The type that a kind gives a field. -/
def Kind.plainResult (kind : Kind) : FieldResult :=
  match kind.scalarType with
  | .ok type => .ok ⟨type, none⟩
  | .error _ => .error (.unsupportedKind kind.name)

/-- What becomes of a field that no relation claims, given the answer of the source: a broken
connection ends the run, any other failure is the field's, and choices come before the kind. -/
def LookupResult.plainResult (key : FieldKey) (kind : Kind) :
    LookupResult → Except GenerationError FieldResult
  | .error (.transport cause) => .error (.metadata key (.transport cause))
  | .error error => .ok (.error (.lookup error))
  | .ok none => .ok kind.plainResult
  | .ok (some ⟨none⟩) => .ok kind.plainResult
  | .ok (some ⟨some choices⟩) =>
    .ok <| match firstOccurrences (choices.map Choice.literal) with
    | [] => kind.plainResult
    | [only] => .ok ⟨.literal only, none⟩
    | literals => .ok ⟨.union (literals.map .literal), none⟩

namespace Catalog

/-- Whether one of the entities is of the given collection. -/
def declares (catalog : Catalog) (collection : String) : Bool :=
  catalog.entities.toList.any (·.collection == collection)

theorem declares_eq_true {catalog : Catalog} {collection : String} :
    catalog.declares collection = true ↔
      ∃ entity ∈ catalog.entities.toList, entity.collection = collection := by
  simp [declares]

/-- The relations that claim a field. -/
def claimants (catalog : Catalog) (direction : Direction) (key : FieldKey) : List Relation :=
  catalog.relations.filter (·.claims direction key)

/-- The import of the type of `related` into the unit of `collection`. -/
def plainImport (collection related : String) : Option String :=
  if related = collection then none else some (typeIdentifier related)

/-- What becomes of a field that holds the key of `relation`. -/
def plainForward (catalog : Catalog) (key : FieldKey) (kind : Kind) (relation : Relation) :
    FieldResult :=
  match relation.related with
  | none => .error (.relation (.withoutRelated key))
  | some related =>
    if catalog.declares related then
      let object := typeIdentifier related
      match relation.keyColumn, kind.scalarType with
      | some column, _ =>
        .ok ⟨.union [.reference object, .indexedAccess object column],
          plainImport key.collection related⟩
      | none, .ok scalar =>
        .ok ⟨.union [.reference object, scalar], plainImport key.collection related⟩
      | none, .error _ => .error (.unsupportedKind kind.name)
    else .error (.relation (.unknownRelated key related))

/-- What becomes of the alias field of `relation`. Without a collection of its own for the many-side
this is the collection that holds the key. -/
def plainReverse (catalog : Catalog) (key : FieldKey) (relation : Relation) : FieldResult :=
  let many :=
    match relation.sides with
    | some ⟨_, _, some many, _⟩ => many
    | _ => relation.collection
  if catalog.declares many then
    .ok ⟨.array (.reference (typeIdentifier many)), plainImport key.collection many⟩
  else .error (.relation (.unknownRelated ⟨relation.collection, relation.field⟩ many))

/-- What becomes of a field that `relation` alone claims in the given direction. -/
def plainClaim (catalog : Catalog) (direction : Direction) (key : FieldKey) (kind : Kind)
    (relation : Relation) : FieldResult :=
  match direction with
  | .forward => catalog.plainForward key kind relation
  | .reverse => catalog.plainReverse key relation

/-- What becomes of a field, by a scan of all relations; `answer` is what the lookup of its choices
ends in. -/
def plainResult (catalog : Catalog) (collection : String) (field : Field)
    (answer : LookupResult) : Except GenerationError FieldResult :=
  let key : FieldKey := ⟨collection, field.name⟩
  if field.kind = .aliasField then
    match catalog.claimants .reverse key with
    | [] => answer.plainResult key field.kind
    | [relation] => .ok (catalog.plainReverse key relation)
    | relations => .ok (.error (.relation (.claimedBy relations.length key)))
  else
    match catalog.claimants .forward key with
    | [] => answer.plainResult key field.kind
    | [relation] => .ok (catalog.plainForward key field.kind relation)
    | relations => .ok (.error (.relation (.claimedBy relations.length key)))

end Catalog

/-! ### The index against the scan -/

namespace Relation

theorem claims_forward (key : FieldKey) (relation : Relation) :
    relation.claims .forward key = true ↔ relation.forwardKey = key := by
  obtain ⟨collection, field⟩ := key
  simp [claims, forwardKey]

theorem claims_reverse (key : FieldKey) (relation : Relation) :
    relation.claims .reverse key = true ↔ relation.reverseKey? = some key := by
  obtain ⟨collection, field⟩ := key
  obtain ⟨_, _, _, _, sides⟩ := relation
  rcases sides with - | ⟨oneCollection, oneField, _, _⟩
  · simp [claims, reverseKey?]
  · cases oneCollection <;> cases oneField <;> simp [claims, reverseKey?]

end Relation

namespace RelationIndex

/-- One more relation is in the group of the key that it claims, in either direction. -/
theorem get_groups_add (index : RelationIndex) (relation : Relation) (direction : Direction)
    (key : FieldKey) :
    ((index.add relation).groups direction).get key =
      (index.groups direction).get key ++ [relation].filter (·.claims direction key) := by
  cases direction with
  | forward =>
    have hget := RelationGroups.get_add index.forward relation.forwardKey key relation
    have hclaims := Relation.claims_forward key relation
    by_cases h : relation.forwardKey = key <;> simp_all [groups, add]
  | reverse =>
    have hclaims := Relation.claims_reverse key relation
    cases hkey : relation.reverseKey? with
    | none => simp_all [groups, add]
    | some other =>
      have hget := RelationGroups.get_add index.reverse other key relation
      by_cases h : other = key <;> simp_all [groups, add]

/-- The group of a key holds the relations that claim it, in the order of the list. -/
theorem get_groups_ofRelations (relations : List Relation) (direction : Direction)
    (key : FieldKey) :
    ((ofRelations relations).groups direction).get key =
      relations.filter (·.claims direction key) := by
  have hfold : ∀ (relations : List Relation) (index : RelationIndex),
      ((relations.foldl add index).groups direction).get key =
        (index.groups direction).get key ++ relations.filter (·.claims direction key) := by
    intro relations
    induction relations with
    | nil => simp
    | cons relation rest ih =>
      intro index
      rw [List.foldl_cons, ih, get_groups_add, List.append_assoc, ← List.filter_append,
        List.singleton_append]
  have hempty : (empty.groups direction).get key = [] := by cases direction <;> rfl
  rw [ofRelations, hfold, hempty, List.nil_append]

theorem claim_ofRelations (catalog : Catalog) (direction : Direction) (key : FieldKey) :
    (ofRelations catalog.relations).claim direction key =
      Claim.ofGroup (catalog.claimants direction key) := by
  rw [claim, get_groups_ofRelations]
  rfl

end RelationIndex

/-! ### One relation -/

/-- The scan takes for the many-side what the relation takes for it. -/
theorem Catalog.plainReverse_eq (catalog : Catalog) (key : FieldKey) (relation : Relation) :
    catalog.plainReverse key relation =
      if catalog.declares relation.manyCollection then
        .ok ⟨.array (.reference (typeIdentifier relation.manyCollection)),
          plainImport key.collection relation.manyCollection⟩
      else .error (.relation (.unknownRelated ⟨relation.collection, relation.field⟩
        relation.manyCollection)) := by
  have hmany : relation.manyCollection =
      match relation.sides with
      | some ⟨_, _, some many, _⟩ => many
      | _ => relation.collection := by
    unfold Relation.manyCollection
    rcases relation.sides with - | ⟨_, _, _ | many, _⟩ <;> rfl
  unfold plainReverse
  simp only [← hmany]

namespace RelationView

theorem relatedIdentifier_eq (catalog : Catalog) (relation : Relation) (related : String) :
    (ofCatalog catalog).relatedIdentifier relation related =
      if catalog.declares related then .ok (typeIdentifier related)
      else .error (.relation (.unknownRelated ⟨relation.collection, relation.field⟩ related)) :=
  rfl

theorem importFor_eq (collection related : String) :
    importFor collection related (typeIdentifier related) =
      Catalog.plainImport collection related := by
  unfold importFor Catalog.plainImport
  by_cases h : collection = related
  · rw [if_pos h, if_pos h.symm]
  · rw [if_neg h, if_neg (Ne.symm h)]

theorem forwardType_eq (catalog : Catalog) {key : FieldKey} (kind : Kind) {relation : Relation}
    (h : relation.claims .forward key) :
    (ofCatalog catalog).forwardType key kind relation = catalog.plainForward key kind relation := by
  obtain rfl := (Relation.claims_forward key relation).mp h
  unfold forwardType Catalog.plainForward
  cases hrelated : relation.related with
  | none => rfl
  | some related =>
    simp only [relatedIdentifier_eq]
    by_cases hdeclares : catalog.declares related
    · simp only [if_pos hdeclares, bind, Except.bind]
      cases hcolumn : relation.keyColumn with
      | some column =>
        simp only [importFor_eq]
        rfl
      | none =>
        cases hscalar : kind.scalarType with
        | error error =>
          rw [Kind.scalarType_eq_error hscalar]
        | ok scalar =>
          have hunion : TypeExpr.unionOf [.reference (typeIdentifier related), scalar] =
              .union [.reference (typeIdentifier related), scalar] := by
            rw [TypeExpr.unionOf_of_forall_isUnion, TypeExpr.ofMembers_of_two_le (by simp)]
            rw [List.forall_mem_cons, List.forall_mem_singleton]
            exact ⟨rfl, Kind.isUnion_of_scalarType hscalar⟩
          simp only [importFor_eq, hunion]
          rfl
    · rw [if_neg hdeclares, if_neg hdeclares]
      rfl

theorem reverseType_eq (catalog : Catalog) (key : FieldKey) (relation : Relation) :
    (ofCatalog catalog).reverseType key relation = catalog.plainReverse key relation := by
  unfold reverseType
  simp only [Catalog.plainReverse_eq, relatedIdentifier_eq]
  by_cases hdeclares : catalog.declares relation.manyCollection
  · rw [if_pos hdeclares, if_pos hdeclares, ← importFor_eq]
    rfl
  · rw [if_neg hdeclares, if_neg hdeclares]
    rfl

/-- A classification finds what the relations that claim the field say, by their number. -/
theorem classify_eq (catalog : Catalog) (direction : Direction) (key : FieldKey) (kind : Kind) :
    (ofCatalog catalog).classify direction key kind =
      match catalog.claimants direction key with
      | [] => .ok none
      | [relation] => some <$> catalog.plainClaim direction key kind relation
      | relations => .error (.relation (.claimedBy relations.length key)) := by
  have hclaim : (ofCatalog catalog).index.claim direction key =
      Claim.ofGroup (catalog.claimants direction key) :=
    RelationIndex.claim_ofRelations catalog direction key
  have hclaims : ∀ relation ∈ catalog.claimants direction key, relation.claims direction key :=
    fun relation h => (List.mem_filter.mp h).2
  rw [classify, hclaim]
  rcases hgroup : catalog.claimants direction key with - | ⟨relation, - | ⟨second, rest⟩⟩
  · rfl
  · rw [hgroup] at hclaims
    have hrelation := hclaims relation (by simp)
    cases direction with
    | forward =>
      simp only [Claim.ofGroup, Catalog.plainClaim, forwardType_eq catalog kind hrelation]
    | reverse => simp only [Claim.ofGroup, Catalog.plainClaim, reverseType_eq]
  · rfl

end RelationView

/-! ### No relation -/

namespace Resolver

/-- A field that no relation claims is what its lookup says, else what its kind says. -/
theorem unrelated_eq (resolver : Resolver) (key : FieldKey) (kind : Kind) :
    resolver.unrelated key kind =
      ((resolver.source key).within resolver.limit).plainResult key kind := by
  have hkind : ((⟨·, none⟩) <$> kind.scalarType : FieldResult) = kind.plainResult := by
    unfold Kind.plainResult
    cases hscalar : kind.scalarType with
    | error error => rw [Kind.scalarType_eq_error hscalar]; rfl
    | ok type => rfl
  unfold unrelated ChoiceSource.choiceType
  rcases (resolver.source key).within resolver.limit with error | metadata
  · cases error <;> rfl
  · rcases metadata with - | ⟨- | choices⟩
    · simp only [LookupResult.choiceType, LookupResult.plainResult, Option.bind_none, hkind]
    · simp only [LookupResult.choiceType, LookupResult.plainResult, Option.bind_some,
        Option.bind_none, hkind]
    · simp only [LookupResult.choiceType, LookupResult.plainResult, Option.bind_some,
        choicesType_eq]
      rcases firstOccurrences (choices.map Choice.literal) with - | ⟨only, - | ⟨second, rest⟩⟩
      · simp only [hkind]
      · rfl
      · rfl

section Claimants

variable {catalog : Catalog} {source : ChoiceSource} {limit : Option Nat} {collection : String}
  {field : Field}

/-- A field that no relation claims is what its lookup or its kind says. -/
theorem resolve_of_no_claimant
    (h : catalog.claimants (direction field) ⟨collection, field.name⟩ = []) :
    (ofCatalog catalog source limit).resolve collection field =
      ((source ⟨collection, field.name⟩).within limit).plainResult ⟨collection, field.name⟩
        field.kind := by
  have hclassify := RelationView.classify_eq catalog (direction field) ⟨collection, field.name⟩
    field.kind
  rw [h] at hclassify
  have hview : (ofCatalog catalog source limit).view = .ofCatalog catalog := rfl
  rw [resolve, hview, hclassify]
  exact unrelated_eq _ _ _

/-- A field that one relation claims is what the relation says, and is not looked up. -/
theorem resolve_of_claimant {relation : Relation}
    (h : catalog.claimants (direction field) ⟨collection, field.name⟩ = [relation]) :
    (ofCatalog catalog source limit).resolve collection field =
      .ok (catalog.plainClaim (direction field) ⟨collection, field.name⟩ field.kind relation) := by
  have hclassify := RelationView.classify_eq catalog (direction field) ⟨collection, field.name⟩
    field.kind
  rw [h] at hclassify
  dsimp only at hclassify
  have hview : (ofCatalog catalog source limit).view = .ofCatalog catalog := rfl
  rw [resolve, hview, hclassify]
  cases catalog.plainClaim (direction field) ⟨collection, field.name⟩ field.kind relation <;> rfl

/-- A field that several relations claim has no type, and is not looked up. -/
theorem resolve_of_claimants {first second : Relation} {rest : List Relation}
    (h : catalog.claimants (direction field) ⟨collection, field.name⟩ = first :: second :: rest) :
    (ofCatalog catalog source limit).resolve collection field =
      .ok (.error (.relation (.claimedBy (first :: second :: rest).length
        ⟨collection, field.name⟩))) := by
  have hclassify := RelationView.classify_eq catalog (direction field) ⟨collection, field.name⟩
    field.kind
  rw [h] at hclassify
  have hview : (ofCatalog catalog source limit).view = .ofCatalog catalog := rfl
  rw [resolve, hview, hclassify]

end Claimants

/-- Resolution with an index is resolution by a scan of all relations: the same type, the same
import, the same failure of the field or of the run, for every field and every answer to its
lookup. -/
theorem resolve_eq_plainResult (catalog : Catalog) (source : ChoiceSource) (limit : Option Nat)
    (entity : Entity) (field : Field) :
    (ofCatalog catalog source limit).resolve entity.collection field =
      catalog.plainResult entity.collection field
        ((source ⟨entity.collection, field.name⟩).within limit) := by
  unfold Catalog.plainResult
  by_cases halias : field.kind = .aliasField
  · have hdirection : direction field = .reverse := by
      simp [direction, Field.isAlias, halias, Kind.isAlias]
    rw [if_pos halias, ← hdirection]
    rcases hclaimants : catalog.claimants (direction field) ⟨entity.collection, field.name⟩ with
      - | ⟨relation, - | ⟨second, rest⟩⟩
    · exact resolve_of_no_claimant hclaimants
    · rw [resolve_of_claimant hclaimants, hdirection]
      rfl
    · exact resolve_of_claimants hclaimants
  · have hdirection : direction field = .forward := by
      unfold direction Field.isAlias
      cases hkind : field.kind <;> simp_all [Kind.isAlias]
    rw [if_neg halias, ← hdirection]
    rcases hclaimants : catalog.claimants (direction field) ⟨entity.collection, field.name⟩ with
      - | ⟨relation, - | ⟨second, rest⟩⟩
    · exact resolve_of_no_claimant hclaimants
    · rw [resolve_of_claimant hclaimants, hdirection]
      rfl
    · exact resolve_of_claimants hclaimants

end Resolver

end TypedCatalog
