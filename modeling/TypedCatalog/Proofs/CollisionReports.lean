import Mathlib.Data.Finset.Card
import Mathlib.Data.List.Forall2
import TypedCatalog.Proofs.Acceptance

/-!
# What the scan for collisions reports

The scan goes through a catalog once and keeps the claims that entities have made to their type
identifiers. At every entity the claim to an identifier, if there is one, is that of the first
entity that has it, whatever its case (`ClaimsOf`). So every entity but the first of its namesakes
is reported, once and against that first one, in the order of the catalog
(`Catalog.collisions_exact`).
-/

namespace TypedCatalog

/-- `claims` are those that the entities `before` have made: what is found under an identifier is
the claim of the first of them that has it. -/
def ClaimsOf (before : List Entity) (claims : List IdentifierClaim) : Prop :=
  ∀ folded, claims.find? (·.folded == folded) =
    (before.find? (·.foldedName == folded)).map Entity.claim

namespace ClaimsOf

variable {before : List Entity} {claims : List IdentifierClaim} {entity : Entity}

theorem nil : ClaimsOf [] [] := fun _ => rfl

/-- An entity whose identifier has been claimed makes no claim. -/
theorem append_of_isSome (h : ClaimsOf before claims)
    (claimed : (before.find? (·.foldedName == entity.foldedName)).isSome) :
    ClaimsOf (before ++ [entity]) claims := by
  intro folded
  rw [h folded, List.find?_append]
  by_cases hfolded : entity.foldedName = folded
  · obtain ⟨first, hfirst⟩ := Option.isSome_iff_exists.mp claimed
    rw [← hfolded, hfirst, Option.some_or]
  · have hentity : [entity].find? (·.foldedName == folded) = none := by simp [hfolded]
    rw [hentity, Option.or_none]

/-- An entity whose identifier has not been claimed claims it. -/
theorem append_claim (h : ClaimsOf before claims) :
    ClaimsOf (before ++ [entity]) (claims ++ [entity.claim]) := by
  intro folded
  rw [List.find?_append, h folded, List.find?_append, Option.map_or]
  by_cases hfolded : entity.foldedName = folded <;> simp [hfolded]

end ClaimsOf

namespace Catalog

variable {catalog : Catalog}

/-- The entities whose type identifier differs from that of `entity` at most in case, itself
included, in order. -/
def namesakes (catalog : Catalog) (entity : Entity) : List Entity :=
  catalog.entities.toList.filter (·.foldedName == entity.foldedName)

/-- Whether an entity is the first of its namesakes. -/
def isFirst (catalog : Catalog) (entity : Entity) : Bool :=
  (catalog.namesakes entity).head?.any (·.collection == entity.collection)

/-- What a collision says of the later one of its entities. -/
structure Reports (catalog : Catalog) (collision : IdentifierCollision) (second : Entity) :
    Prop where
  /-- The first of the namesakes is named, with the identifier as it spells it. -/
  first : ∃ first rest, catalog.namesakes second = first :: rest ∧
    collision.first = first.collection ∧ collision.identifier = first.typeName
  /-- The later entity is named. -/
  second : collision.second = second.collection

/-- The first namesake of an entity comes before it in the catalog or is the entity itself. -/
theorem head?_namesakes {before after : List Entity} {entity : Entity}
    (h : catalog.entities.toList = before ++ entity :: after) :
    (catalog.namesakes entity).head? =
      some ((before.find? (·.foldedName == entity.foldedName)).getD entity) := by
  rw [namesakes, List.head?_filter, h, List.find?_append, List.find?_cons, beq_self_eq_true]
  cases before.find? (·.foldedName == entity.foldedName) <;> rfl

/-- An entity is the first of its namesakes exactly if none of them comes before it. -/
theorem isFirst_eq {before after : List Entity} {entity : Entity}
    (h : catalog.entities.toList = before ++ entity :: after) :
    catalog.isFirst entity = (before.find? (·.foldedName == entity.foldedName)).isNone := by
  rw [isFirst, head?_namesakes h, Option.any_some]
  cases hfind : before.find? (·.foldedName == entity.foldedName) with
  | none => exact beq_self_eq_true entity.collection
  | some first =>
    have hdistinct := catalog.entities.distinct
    rw [h, List.map_append, List.map_cons] at hdistinct
    have hne := (List.nodup_append.mp hdistinct).2.2 _
      (List.mem_map_of_mem (List.mem_of_find?_eq_some hfind)) _ List.mem_cons_self
    exact beq_false_of_ne hne

/-- The scan of the entities that are left reports those that are not the first of their namesakes,
each against the first. -/
theorem forall₂_collisionsAfter {before rest : List Entity} {claims : List IdentifierClaim}
    (hentities : catalog.entities.toList = before ++ rest) (hclaims : ClaimsOf before claims) :
    List.Forall₂ catalog.Reports (collisionsAfter claims rest)
      (rest.filter (!catalog.isFirst ·)) := by
  induction rest generalizing before claims with
  | nil => exact .nil
  | cons entity rest ih =>
    have hrest : catalog.entities.toList = (before ++ [entity]) ++ rest := by simp [hentities]
    have hclaim := hclaims entity.foldedName
    rw [collisionsAfter, Entity.claim_folded, List.filter_cons, isFirst_eq hentities]
    cases hfind : before.find? (·.foldedName == entity.foldedName) with
    | none =>
      rw [hfind, Option.map_none] at hclaim
      rw [hclaim]
      exact ih hrest hclaims.append_claim
    | some first =>
      have hfirst := head?_namesakes hentities
      rw [hfind, Option.getD_some, List.head?_eq_some_iff] at hfirst
      obtain ⟨others, hnamesakes⟩ := hfirst
      rw [hfind, Option.map_some] at hclaim
      rw [hclaim]
      exact .cons ⟨⟨first, others, hnamesakes, rfl, rfl⟩, rfl⟩
        (ih hrest (hclaims.append_of_isSome (Option.isSome_of_eq_some hfind)))

end Catalog

/-- Of the entities that are left, those that are not reported make claims, one for each identifier
that has not been claimed. -/
theorem length_collisionsAfter (claims : List IdentifierClaim) (entities : List Entity) :
    (collisionsAfter claims entities).length +
        (claims.map (·.folded) ++ entities.map Entity.foldedName).toFinset.card =
      entities.length + (claims.map (·.folded)).toFinset.card := by
  induction entities generalizing claims with
  | nil => simp [collisionsAfter]
  | cons entity rest ih =>
    rw [collisionsAfter, Entity.claim_folded, List.length_cons]
    cases hfind : claims.find? (·.folded == entity.foldedName) with
    | some claim =>
      have hold : entity.foldedName ∈ claims.map (·.folded) :=
        List.mem_map.mpr ⟨claim, List.mem_of_find?_eq_some hfind, by
          simpa using List.find?_some hfind⟩
      have hsame : (claims.map (·.folded) ++ (entity :: rest).map Entity.foldedName).toFinset =
          (claims.map (·.folded) ++ rest.map Entity.foldedName).toFinset := by
        ext folded
        simp only [List.map_cons, List.mem_toFinset, List.mem_append, List.mem_cons]
        exact ⟨fun h => h.elim .inl fun h => h.elim (fun e => .inl (e ▸ hold)) .inr,
          fun h => h.imp_right .inr⟩
      rw [hsame, List.length_cons]
      have := ih claims
      omega
    | none =>
      have hnew : entity.foldedName ∉ (claims.map (·.folded)).toFinset := by
        rw [List.mem_toFinset, List.mem_map]
        rintro ⟨claim, hclaim, hfolded⟩
        simpa [hfolded] using List.find?_eq_none.mp hfind claim hclaim
      have hcard : ((claims ++ [entity.claim]).map (·.folded)).toFinset.card =
          (claims.map (·.folded)).toFinset.card + 1 := by
        rw [← Finset.card_insert_of_notMem hnew, List.map_append, List.toFinset_append,
          Finset.union_comm]
        rfl
      have := ih (claims ++ [entity.claim])
      rw [hcard, List.map_append, List.append_assoc] at this
      simp only [List.map_cons, List.map_nil, List.singleton_append, Entity.claim_folded] at this ⊢
      omega

namespace Catalog

/-- The collisions of a catalog are told completely and once. Every entity that is not the first of
its namesakes is reported, in the order of the catalog, and no other; a report names the first of
the namesakes, the identifier as that one spells it, and the later entity. So there is none exactly
if the type identifiers differ in more than case, and with one more for every different identifier
there are as many as entities. -/
theorem collisions_exact (catalog : Catalog) :
    List.Forall₂ catalog.Reports catalog.collisions
        (catalog.entities.toList.filter (!catalog.isFirst ·)) ∧
      (catalog.collisions = [] ↔ (catalog.entities.toList.map Entity.foldedName).Nodup) ∧
      catalog.collisions.length +
          (catalog.entities.toList.map Entity.foldedName).toFinset.card =
        catalog.entities.size :=
  ⟨forall₂_collisionsAfter rfl .nil, collisions_eq_nil_iff,
    length_collisionsAfter [] catalog.entities.toList⟩

/-- Of three namesakes, with another entity between them, the last is reported against the first as
the second is. -/
example :
    collisions
        ⟨.ofList [.ofName "ab_c", .ofName "orders", .ofName "abc", .ofName "AB-c"], []⟩ =
      [⟨"AbC", "ab_c", "abc"⟩, ⟨"AbC", "ab_c", "AB-c"⟩] := by
  decide +kernel

end Catalog

end TypedCatalog
