import TypedCatalog.Proofs.FailedFields
import TypedCatalog.Proofs.RelationChecks
import TypedCatalog.Proofs.SinkCalls

/-!
# Strict exports

A strict export checks its catalog first. If the check finds a problem, the problem is all that
comes of the export; otherwise the export is the same as one that is not strict. A catalog that
passes has no field that several relations claim, so where a relation leaves a field of a strict
export without a type, it is the only one to claim the field and leads to no collection of the
catalog (`Exporter.strict_exact`).
-/

namespace TypedCatalog

/-! ### Fields that a relation leaves without a type -/

/-- A relation leads nowhere: the collection that it would lead to is not named, or is not in the
catalog. -/
def Catalog.IsDeadEnd (catalog : Catalog) (direction : Direction) (relation : Relation) : Prop :=
  ∀ related, relation.target? direction = some related → catalog.declares related = false

/-- What a relation that leads nowhere has to do with its problem. -/
theorem Catalog.plainClaim_eq_relation_error {catalog : Catalog} {direction : Direction}
    {key : FieldKey} {kind : Kind} {relation : Relation} {problem : RelationProblem}
    (h : catalog.plainClaim direction key kind relation = .error (.relation problem)) :
    catalog.IsDeadEnd direction relation ∧ ∀ count other, problem ≠ .claimedBy count other := by
  cases direction with
  | forward =>
    rw [plainClaim, plainForward] at h
    rw [IsDeadEnd, Relation.target?]
    cases hrelated : relation.related with
    | none =>
      simp only [hrelated] at h
      cases h
      refine ⟨fun other hother => ?_, fun count other hsame => ?_⟩
      · cases hother
      · cases hsame
    | some related =>
      cases hdeclares : catalog.declares related with
      | false =>
        simp only [hrelated, hdeclares] at h
        cases h
        refine ⟨fun other hother => ?_, fun count other hsame => ?_⟩
        · exact Option.some.inj hother ▸ hdeclares
        · cases hsame
      | true =>
        simp only [hrelated, hdeclares, if_true] at h
        split at h <;> cases h
  | reverse =>
    rw [plainClaim, plainReverse_eq] at h
    rw [IsDeadEnd, Relation.target?]
    split at h
    · cases h
    · rename_i hdeclares
      cases h
      refine ⟨fun other hother => ?_, fun count other hsame => ?_⟩
      · exact Option.some.inj hother ▸ by simpa using hdeclares
      · cases hsame

/-- A field that no relation claims has no problem with a relation. -/
theorem LookupResult.plainResult_ne_relation_error {result : LookupResult} {key : FieldKey}
    {kind : Kind} {problem : RelationProblem} :
    result.plainResult key kind ≠ .ok (.error (.relation problem)) := by
  have hkind : kind.plainResult ≠ .error (.relation problem) := by
    unfold Kind.plainResult
    intro h
    split at h <;> cases h
  intro h
  unfold plainResult at h
  split at h
  · cases h
  · cases h
  · exact hkind (Except.ok.inj h)
  · exact hkind (Except.ok.inj h)
  · split at h
    · exact hkind (Except.ok.inj h)
    · cases h
    · cases h

namespace Resolver

variable {catalog : Catalog} {source : ChoiceSource} {limit : Option Nat} {collection : String}
  {field : Field}

/-- A relation leaves a field without a type if it is not the only one to claim the field, or if it
leads nowhere. -/
theorem resolve_eq_relation_error {problem : RelationProblem}
    (h : (ofCatalog catalog source limit).resolve collection field =
      .ok (.error (.relation problem))) :
    1 < (catalog.claimants (direction field) ⟨collection, field.name⟩).length ∨
      ∃ relation, catalog.claimants (direction field) ⟨collection, field.name⟩ = [relation] ∧
        catalog.IsDeadEnd (direction field) relation ∧
        ∀ count key, problem ≠ .claimedBy count key := by
  rcases hclaimants : catalog.claimants (direction field) ⟨collection, field.name⟩ with
    - | ⟨relation, - | ⟨second, rest⟩⟩
  · rw [resolve_of_no_claimant hclaimants] at h
    exact absurd h LookupResult.plainResult_ne_relation_error
  · rw [resolve_of_claimant hclaimants] at h
    exact .inr ⟨relation, rfl, Catalog.plainClaim_eq_relation_error (Except.ok.inj h)⟩
  · exact .inl (by simp)

end Resolver

/-! ### Strict exports -/

namespace Exporter

variable {m : Type → Type} [Monad m] {settings : Settings} {catalog : Catalog}
  {source : ChoiceSource}

/-- A strict export of a catalog with a problem comes to the problem, and to nothing else. -/
theorem exportCatalog_of_check_error {error : CatalogError} (h : catalog.check = .error error)
    (sink : Sink m) :
    (mk settings true).exportCatalog catalog source sink =
      pure (.failed (.generation (.catalog error))) := by
  refine exportCatalog_of_error sink ?_
  rw [generate, check_eq_error.mpr ⟨rfl, error, h, rfl⟩]
  rfl

/-- A strict export of any other catalog is the export of the catalog. -/
theorem exportCatalog_of_check_ok (h : catalog.check = .ok ()) (sink : Sink m) :
    (mk settings true).exportCatalog catalog source sink =
      (mk settings false).exportCatalog catalog source sink := by
  have hgenerate : (mk settings true).generate catalog source =
      (mk settings false).generate catalog source := by
    have hlenient : (mk settings false).check catalog = .ok () := rfl
    rw [generate, generate, check_eq_ok.mpr fun _ => h, hlenient]
    rfl
  rw [exportCatalog, exportCatalog, hgenerate]

/-- The output that an export has delivered if it succeeds. -/
theorem exists_run_of_exported {σ : Type} {exporter : Exporter} {sink : Sink (StateM σ)}
    {state after : σ} {made : Export} {summary : Summary}
    (h : (exporter.exportCatalog catalog source sink).run state = (made, after))
    (hresult : made.result = .ok summary) :
    ∃ output, (exporter.strict → catalog.check = .ok ()) ∧
      (exporter.generator catalog source).run = .ok output ∧ summary = output.summary := by
  cases hgenerate : exporter.generate catalog source with
  | error error =>
    rw [exportCatalog_of_error sink hgenerate] at h
    cases h
    cases hresult
  | ok output =>
    have hgenerated : exporter.generated (.ofCatalog catalog source) = .ok output := hgenerate
    obtain ⟨generator, hinput, hcheck, hrun⟩ := generated_eq_ok.mp hgenerated
    cases hinput
    obtain ⟨delivered, calls, last, hdelivers, hdeliver, -⟩ := sink.exists_run_deliver output state
    rw [exportCatalog_of_ok sink hgenerate, hdeliver] at h
    cases h
    exact ⟨output, hcheck, hrun, hdelivers.summary_eq hresult⟩

/-- Strict exports only refuse more. If the catalog has a problem, a strict export fails with it,
calls nothing of its sink and leaves it as it was; otherwise it is the export that is not strict, with
the same result and the same calls, from any state of any sink. After a strict export that succeeds,
no field has several relations that claim it in one direction, and wherever a relation has left a
field without a type, it is the only one to claim the field, and the collection that it would lead to
is not named or is not in the catalog. -/
theorem strict_exact {σ : Type} (settings : Settings) (catalog : Catalog) (source : ChoiceSource)
    (sink : Sink (StateM σ)) (state : σ) :
    (∀ error, catalog.check = .error error →
      ((mk settings true).exportCatalog catalog source sink).run state =
          (.failed (.generation (.catalog error)), state) ∧
        ((mk settings true).exportCatalog catalog source sink.logged).run (state, []) =
          (.failed (.generation (.catalog error)), state, [])) ∧
      (catalog.check = .ok () →
        (mk settings true).exportCatalog catalog source sink =
            (mk settings false).exportCatalog catalog source sink ∧
          (mk settings true).exportCatalog catalog source sink.logged =
            (mk settings false).exportCatalog catalog source sink.logged) ∧
      ∀ made after summary,
        ((mk settings true).exportCatalog catalog source sink).run state = (made, after) →
        made.result = .ok summary →
        ∃ output, (Generator.mk catalog source settings).run = .ok output ∧
          summary = output.summary ∧
          (∀ direction key, (catalog.claimants direction key).length ≤ 1) ∧
          ∀ diagnostic ∈ output.diagnostics, ∀ problem, diagnostic.cause = .relation problem →
            (∀ count key, problem ≠ .claimedBy count key) ∧
            ∃ field relation, (diagnostic.key, field) ∈ catalog.keyedFields ∧
              catalog.claimants (Resolver.direction field) diagnostic.key = [relation] ∧
              catalog.IsDeadEnd (Resolver.direction field) relation := by
  refine ⟨fun error herror => ?_, fun hcheck => ?_, fun made after summary hrun hresult => ?_⟩
  · rw [exportCatalog_of_check_error herror, exportCatalog_of_check_error herror]
    exact ⟨rfl, rfl⟩
  · exact ⟨exportCatalog_of_check_ok hcheck sink, exportCatalog_of_check_ok hcheck sink.logged⟩
  · obtain ⟨output, hcheck, hdone, rfl⟩ := exists_run_of_exported hrun hresult
    have hsingle := (Catalog.checkRelations_eq_ok.mp (Catalog.check_eq_ok.mp (hcheck rfl)).2.2).2
    refine ⟨output, hdone, rfl, hsingle, fun diagnostic hdiagnostic problem hproblem => ?_⟩
    rw [Generator.diagnostics_of_generate (Generator.run_eq_ok.mp hdone).2] at hdiagnostic
    obtain ⟨⟨key, field⟩, hkeyed, hreport⟩ := List.mem_filterMap.mp hdiagnostic
    obtain ⟨rfl, hresolve⟩ := Resolver.report?_eq_some.mp hreport
    obtain ⟨entity, -, other, -, hkey⟩ := Catalog.mem_keyedFields.mp hkeyed
    obtain ⟨hname, rfl⟩ := Prod.mk.inj hkey
    rw [hproblem] at hresolve
    obtain hmany | ⟨relation, hclaimants, hdead, hproblems⟩ :=
      Resolver.resolve_eq_relation_error hresolve
    · exact absurd hmany (Nat.not_lt.mpr (hsingle _ _))
    · rw [← hname] at hclaimants hkeyed ⊢
      exact ⟨hproblems, other, relation, hkeyed, hclaimants, hdead⟩

/-- Articles with a reviewer and with remarks, neither of which is a collection of the catalog. -/
def reviews : Catalog where
  entities := .ofList [
    { Entity.ofName "authors" with fields := .ofList [.ofKind "article" .integer] },
    { Entity.ofName "articles" with
      fields := .ofList [.ofKind "reviewer" .integer, .ofKind "remarks" .aliasField] }]
  relations := [
    .toOne "articles" "reviewer" "reviewers",
    ⟨"authors", "article", some "articles", none,
      some ⟨some "articles", some "remarks", some "remarks", none⟩⟩]

/-- The reviews with a second relation on the reviewer. -/
def reviewedTwice : Catalog :=
  reviews.addRelation (.toOne "articles" "reviewer" "authors")

/-- A strict export of the reviews succeeds, with a report on each of the two fields that lead
nowhere; with a second relation on one of them it is refused. -/
theorem strict_exact_reviews :
    (∃ made after summary, ∃ output : Output,
      ((mk .standard true).exportCatalog reviews .none OutputStore.sink).run .empty =
        (made, after) ∧
      made.result = .ok summary ∧ summary = output.summary ∧
      summary.diagnostics = [
        "articles.reviewer: ambiguous relation: relation on 'articles.reviewer' points to unknown " ++
          "collection 'reviewers'",
        "articles.remarks: ambiguous relation: relation on 'authors.article' points to unknown " ++
          "collection 'remarks'"] ∧
      ∀ diagnostic ∈ output.diagnostics, ∀ problem, diagnostic.cause = .relation problem →
        ∃ field relation, (diagnostic.key, field) ∈ reviews.keyedFields ∧
          reviews.claimants (Resolver.direction field) diagnostic.key = [relation]) ∧
      reviewedTwice.check = .error (.duplicateRelation ⟨"articles", "reviewer"⟩) ∧
      ((mk .standard true).exportCatalog reviewedTwice .none OutputStore.sink.logged).run
          (.empty, []) =
        (.failed (.generation (.catalog (.duplicateRelation ⟨"articles", "reviewer"⟩))), .empty,
          []) := by
  obtain ⟨made, after, summary, hrun, hresult, hreports⟩ :
      ∃ made after summary,
        ((mk .standard true).exportCatalog reviews .none OutputStore.sink).run .empty =
          (made, after) ∧
        made.result = .ok summary ∧ summary.diagnostics = [
          "articles.reviewer: ambiguous relation: relation on 'articles.reviewer' points to " ++
            "unknown collection 'reviewers'",
          "articles.remarks: ambiguous relation: relation on 'authors.article' points to unknown " ++
            "collection 'remarks'"] :=
    ⟨_, _, _, rfl, rfl, by decide⟩
  obtain ⟨-, -, hdone⟩ := strict_exact .standard reviews .none OutputStore.sink .empty
  obtain ⟨output, -, hsummary, -, hcauses⟩ := hdone made after summary hrun hresult
  obtain ⟨hrefused, -, -⟩ := strict_exact .standard reviewedTwice .none OutputStore.sink .empty
  have hcheck : reviewedTwice.check = .error (.duplicateRelation ⟨"articles", "reviewer"⟩) := rfl
  refine ⟨⟨made, after, summary, output, hrun, hresult, hsummary, hreports,
    fun diagnostic hdiagnostic problem hproblem => ?_⟩, hcheck, (hrefused _ hcheck).2⟩
  obtain ⟨-, field, relation, hkeyed, hclaimants, -⟩ :=
    hcauses diagnostic hdiagnostic problem hproblem
  exact ⟨field, relation, hkeyed, hclaimants⟩

end Exporter

end TypedCatalog
