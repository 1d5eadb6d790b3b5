import TypedCatalog.Proofs.PlainResolution
import TypedCatalog.Proofs.Units

/-!
# Runs that fail

Once a catalog is accepted, all that can end a run is a connection to the source that breaks, and
only at a field that is looked up: a relation that claims a field keeps it from the source, even if
the relation gives it no type. The error is that of the first such field in the order of the catalog
(`Generator.error?_generate`). A lookup that comes too late counts as timed out whatever it would
have ended in, and like a failed query it concerns its field only.
-/

namespace TypedCatalog

/-! ### Lookups -/

namespace Answer

/-- Whether an answer comes within a time limit: it is there at once, or there is no limit, or it
takes no longer. -/
def IsInTime (answer : Answer) (limit : Option Nat) : Prop :=
  ∀ delay ∈ answer.delay, ∀ millis ∈ limit, delay ≤ millis

/-- Whether an answer tells, within a time limit, that the connection broke. -/
def Breaks (answer : Answer) (limit : Option Nat) (cause : String) : Prop :=
  answer.IsInTime limit ∧ answer.result = .error (.transport cause)

variable {answer : Answer} {limit : Option Nat}

theorem within_of_isInTime (h : answer.IsInTime limit) : answer.within limit = answer.result := by
  unfold within
  split
  · rename_i millis delay hdelay
    rw [if_pos (h delay hdelay millis rfl)]
  · rfl

/-- A late answer counts as timed out. -/
theorem within_of_late {millis delay : Nat} (hdelay : answer.delay = some delay)
    (hlate : millis < delay) : answer.within (some millis) = .error (.timeout millis) := by
  unfold within
  rw [hdelay]
  exact if_neg (Nat.not_le.mpr hlate)

/-- What a lookup ends in tells of a broken connection only if the answer did so in time. -/
theorem breaks_iff {cause : String} :
    answer.Breaks limit cause ↔ answer.within limit = .error (.transport cause) := by
  by_cases h : answer.IsInTime limit
  · rw [within_of_isInTime h, Breaks, and_iff_right h]
  · have hlate := h
    simp only [IsInTime, Option.mem_def, not_forall, Nat.not_le] at hlate
    obtain ⟨delay, hdelay, millis, rfl, hlt⟩ := hlate
    rw [within_of_late hdelay hlt]
    simp [Breaks, h]

end Answer

/-- A lookup ends a run exactly if it ends in a broken connection. -/
theorem LookupResult.plainResult_eq_error {result : LookupResult} {key : FieldKey} {kind : Kind}
    {error : GenerationError} :
    result.plainResult key kind = .error error ↔ ∃ cause,
      result = .error (.transport cause) ∧ error = .metadata key (.transport cause) := by
  unfold plainResult
  split
  · simp [eq_comm]
  · rename_i lookup hlookup
    simp only [reduceCtorEq, false_iff, not_exists, not_and, Except.error.injEq]
    exact fun cause h _ => hlookup cause h
  all_goals simp

/-! ### Claimed fields -/

/-- Whether a relation claims a field: a field with a column by its key, an alias field by a
complete one-side. -/
def Catalog.IsClaimed (catalog : Catalog) (key : FieldKey) (field : Field) : Prop :=
  ∃ relation ∈ catalog.relations,
    if field.isAlias then relation.reverseKey? = some key else relation.forwardKey = key

instance (catalog : Catalog) (key : FieldKey) (field : Field) :
    Decidable (catalog.IsClaimed key field) :=
  inferInstanceAs (Decidable (∃ relation ∈ catalog.relations,
    if field.isAlias then relation.reverseKey? = some key else relation.forwardKey = key))

theorem Catalog.isClaimed_iff {catalog : Catalog} {key : FieldKey} {field : Field} :
    catalog.IsClaimed key field ↔ catalog.claimants (Resolver.direction field) key ≠ [] := by
  rw [claimants, Ne, List.filter_eq_nil_iff]
  simp only [not_forall, not_not, IsClaimed, exists_prop, Resolver.direction]
  refine exists_congr fun relation => and_congr_right fun _ => ?_
  split
  · exact (Relation.claims_reverse key relation).symm
  · exact (Relation.claims_forward key relation).symm

namespace Resolver

variable {catalog : Catalog} {source : ChoiceSource} {limit : Option Nat} {collection : String}
  {field : Field}

/-- What becomes of a claimed field is the same for every source and every time limit, and never
ends a run. -/
theorem exists_resolve_of_isClaimed (h : catalog.IsClaimed ⟨collection, field.name⟩ field) :
    ∃ result, ∀ source limit,
      (ofCatalog catalog source limit).resolve collection field = .ok result := by
  rcases hclaimants : catalog.claimants (direction field) ⟨collection, field.name⟩ with
    - | ⟨relation, - | ⟨second, rest⟩⟩
  · exact absurd hclaimants (Catalog.isClaimed_iff.mp h)
  · exact ⟨_, fun source limit => resolve_of_claimant hclaimants⟩
  · exact ⟨_, fun source limit => resolve_of_claimants hclaimants⟩

/-- What becomes of an unclaimed field is what its own lookup says, or its kind. -/
theorem resolve_of_not_isClaimed (h : ¬ catalog.IsClaimed ⟨collection, field.name⟩ field) :
    (ofCatalog catalog source limit).resolve collection field =
      ((source ⟨collection, field.name⟩).within limit).plainResult ⟨collection, field.name⟩
        field.kind :=
  resolve_of_no_claimant (not_not.mp (mt Catalog.isClaimed_iff.mpr h))

/-- A field ends a run exactly if it is unclaimed and its lookup tells in time of a broken
connection. -/
theorem resolve_eq_error {error : GenerationError} :
    (ofCatalog catalog source limit).resolve collection field = .error error ↔ ∃ cause,
      (¬ catalog.IsClaimed ⟨collection, field.name⟩ field ∧
        (source ⟨collection, field.name⟩).Breaks limit cause) ∧
      error = .metadata ⟨collection, field.name⟩ (.transport cause) := by
  by_cases h : catalog.IsClaimed ⟨collection, field.name⟩ field
  · obtain ⟨result, hresult⟩ := exists_resolve_of_isClaimed h
    simp [hresult, h]
  · rw [resolve_of_not_isClaimed h, LookupResult.plainResult_eq_error]
    simp only [Answer.breaks_iff, h, not_false_eq_true, true_and]

/-- An unclaimed field whose lookup fails otherwise has no type for that reason. -/
theorem resolve_of_lookup_error (h : ¬ catalog.IsClaimed ⟨collection, field.name⟩ field)
    {error : LookupError} (herror : (source ⟨collection, field.name⟩).within limit = .error error)
    (hsoft : ∀ cause, error ≠ .transport cause) :
    (ofCatalog catalog source limit).resolve collection field = .ok (.error (.lookup error)) := by
  rw [resolve_of_not_isClaimed h, herror]
  cases error with
  | transport cause => exact absurd rfl (hsoft cause)
  | query | timeout => rfl

end Resolver

/-! ### Runs -/

namespace Generator

variable {generator : Generator}

/-- A run ends with the error of the first field, in the order of the catalog, that ends it. -/
theorem error?_generate (generator : Generator) :
    error? generator.generate = generator.catalog.keyedFields.findSome? fun keyed =>
      error? (generator.resolver.resolve keyed.1.collection keyed.2) := by
  have hmodel : ∀ entity, error? (generator.modelUnit entity) =
      entity.keyedFields.findSome? fun keyed =>
        error? (generator.resolver.resolve keyed.1.collection keyed.2) := by
    intro entity
    rw [modelUnit, error?_bind_pure, Resolver.model, error?_map, Resolver.outcomes, error?_mapM,
      Entity.keyedFields, List.findSome?_map]
    simp only [Resolver.outcome, error?_map, Function.comp_def]
  rw [generate, error?_bind_pure, error?_mapM, Catalog.keyedFields, findSome?_flatMap]
  simp only [hmodel]

/-- Whether the lookup of a field, which nothing claims, tells in time of a broken connection. -/
def BreaksAt (generator : Generator) (keyed : FieldKey × Field) (cause : String) : Prop :=
  ¬ generator.catalog.IsClaimed keyed.1 keyed.2 ∧
    (generator.source keyed.1).Breaks generator.settings.lookupLimit cause

/-- A field ends a run exactly if its lookup breaks. -/
theorem resolve_eq_error_iff {keyed : FieldKey × Field}
    (h : keyed ∈ generator.catalog.keyedFields) {error : GenerationError} :
    generator.resolver.resolve keyed.1.collection keyed.2 = .error error ↔
      ∃ cause, generator.BreaksAt keyed cause ∧ error = .metadata keyed.1 (.transport cause) := by
  obtain ⟨entity, -, field, -, rfl⟩ := Catalog.mem_keyedFields.mp h
  exact Resolver.resolve_eq_error

/-- A field does not end a run exactly if its lookup does not break. -/
theorem error?_resolve_eq_none {keyed : FieldKey × Field}
    (h : keyed ∈ generator.catalog.keyedFields) :
    error? (generator.resolver.resolve keyed.1.collection keyed.2) = none ↔
      ∀ cause, ¬ generator.BreaksAt keyed cause := by
  rw [Option.eq_none_iff_forall_ne_some]
  simp only [ne_eq, error?_eq_some, resolve_eq_error_iff h]
  constructor
  · exact fun hno cause hbreaks => hno _ ⟨cause, hbreaks, rfl⟩
  · rintro hno error ⟨cause, hbreaks, -⟩
    exact hno cause hbreaks

/-- A run fails with the error of the first field whose lookup breaks. -/
theorem generate_eq_error_iff {error : GenerationError} :
    generator.generate = .error error ↔ ∃ before keyed after cause,
      generator.catalog.keyedFields = before ++ keyed :: after ∧
        (∀ earlier ∈ before, ∀ cause, ¬ generator.BreaksAt earlier cause) ∧
        generator.BreaksAt keyed cause ∧ error = .metadata keyed.1 (.transport cause) := by
  rw [← error?_eq_some, error?_generate, List.findSome?_eq_some_iff]
  refine exists_congr fun before => exists_congr fun keyed => exists_congr fun after => ?_
  rw [exists_and_left]
  refine and_congr_right fun hfields => ?_
  have hmem : ∀ other ∈ before ++ keyed :: after, other ∈ generator.catalog.keyedFields :=
    fun other h => hfields ▸ h
  have hbefore : (∀ earlier ∈ before,
        error? (generator.resolver.resolve earlier.1.collection earlier.2) = none) ↔
      ∀ earlier ∈ before, ∀ cause, ¬ generator.BreaksAt earlier cause :=
    forall₂_congr fun earlier h => error?_resolve_eq_none (hmem earlier (by simp [h]))
  rw [error?_eq_some, resolve_eq_error_iff (hmem keyed (by simp)), hbefore, and_comm,
    exists_and_left]

/-- A run fails exactly if the lookup of some field breaks. -/
theorem exists_generate_error_iff :
    (∃ error, generator.generate = .error error) ↔
      ∃ keyed ∈ generator.catalog.keyedFields, ∃ cause, generator.BreaksAt keyed cause := by
  have hfails : (∃ error, generator.generate = .error error) ↔
      (error? generator.generate).isSome = true := by
    simp only [Option.isSome_iff_exists, error?_eq_some]
  rw [hfails, error?_generate, List.findSome?_isSome_iff]
  refine exists_congr fun keyed => and_congr_right fun h => ?_
  simp only [Option.isSome_iff_exists, error?_eq_some, resolve_eq_error_iff h]
  constructor
  · rintro ⟨_, cause, hbreaks, -⟩
    exact ⟨cause, hbreaks⟩
  · rintro ⟨cause, hbreaks⟩
    exact ⟨_, cause, hbreaks, rfl⟩

/-- What the source says about claimed fields does not matter for a run. -/
theorem generate_congr_source {source : ChoiceSource}
    (h : ∀ keyed ∈ generator.catalog.keyedFields, ¬ generator.catalog.IsClaimed keyed.1 keyed.2 →
      source keyed.1 = generator.source keyed.1) :
    { generator with source := source }.generate = generator.generate := by
  have hresolve : ∀ entity ∈ generator.catalog.entities.toList, ∀ field ∈ entity.fields.toList,
      { generator with source := source }.resolver.resolve entity.collection field =
        generator.resolver.resolve entity.collection field := by
    intro entity hentity field hfield
    by_cases hclaimed : generator.catalog.IsClaimed ⟨entity.collection, field.name⟩ field
    · obtain ⟨result, hresult⟩ := Resolver.exists_resolve_of_isClaimed hclaimed
      rw [resolver, resolver, hresult, hresult]
    · have hkeyed := Catalog.mem_keyedFields.mpr ⟨entity, hentity, field, hfield, rfl⟩
      have hsame : source ⟨entity.collection, field.name⟩ = generator.source _ :=
        h _ hkeyed hclaimed
      rw [resolver, resolver, Resolver.resolve_of_not_isClaimed hclaimed,
        Resolver.resolve_of_not_isClaimed hclaimed, ← hsame]
  have hmodel : ∀ entity ∈ generator.catalog.entities.toList,
      { generator with source := source }.modelUnit entity = generator.modelUnit entity := by
    intro entity hentity
    rw [modelUnit, modelUnit, Resolver.model_congr (hresolve entity hentity)]
  have hmodels := mapM_congr hmodel
  rw [generate, generate, hmodels]
  rfl

/-- The checks before a run blame the catalog or the name of the index. -/
theorem error_of_accept {error : GenerationError} (h : generator.accept = .error error) :
    (∃ fault, error = .catalog fault) ∨
      ∃ entity, error = indexClashError generator.settings entity := by
  unfold accept at h
  split at h
  · exact .inl ⟨_, (Except.error.inj h).symm⟩
  · split at h
    · cases h
    · split at h
      · exact .inl ⟨_, (Except.error.inj h).symm⟩
      · exact .inr ⟨_, (Except.error.inj h).symm⟩
      · cases h

end Generator

/-! ### Snapshots -/

/-- The choices of a snapshot are at hand: no connection breaks. -/
theorem ChoiceTable.not_breaks_source (table : ChoiceTable) (key : FieldKey) (limit : Option Nat)
    (cause : String) : ¬ (table.source key).Breaks limit cause := by
  rintro ⟨-, h⟩
  unfold source at h
  dsimp only at h
  split at h
  · cases h
  · split at h <;> cases h

namespace Snapshot

variable {text : String} {settings : Settings}

/-- The units of a snapshot are always generated. -/
theorem exists_generate (snapshot : Snapshot) (settings : Settings) :
    ∃ output, (snapshot.generator settings).generate = .ok output := by
  rw [← error?_eq_none, Generator.error?_generate, List.findSome?_eq_none_iff]
  intro keyed h
  refine (Generator.error?_resolve_eq_none h).mpr fun cause hbreaks => ?_
  exact ChoiceTable.not_breaks_source _ _ _ cause hbreaks.2

theorem exists_generateText_iff :
    (∃ output, generateText text settings = .ok output) ↔
      ∃ snapshot, parse text = .ok snapshot ∧ (snapshot.generator settings).accept = .ok () := by
  unfold generateText
  cases parse text with
  | error fault => simp
  | ok snapshot =>
    obtain ⟨output, houtput⟩ := snapshot.exists_generate settings
    simp [Generator.run_eq_ok, houtput]

/-- What keeps the units of a text from being generated is that it is no snapshot, or that the
catalog is not accepted. -/
theorem error_of_generateText {error : GenerationError}
    (h : generateText text settings = .error error) :
    (∃ fault, error = .snapshot fault) ∨ ∃ snapshot,
      parse text = .ok snapshot ∧ (snapshot.generator settings).accept = .error error := by
  unfold generateText at h
  cases hparse : parse text with
  | error fault =>
    rw [hparse] at h
    exact .inl ⟨fault, (Except.error.inj h).symm⟩
  | ok snapshot =>
    rw [hparse] at h
    obtain haccept | ⟨_, -, hgenerate⟩ := bind_eq_error.mp h
    · exact .inr ⟨snapshot, rfl, haccept⟩
    · obtain ⟨output, houtput⟩ := snapshot.exists_generate settings
      rw [houtput] at hgenerate
      cases hgenerate

theorem ne_of_generateText {error : GenerationError}
    (h : generateText text settings = .error error) :
    (∀ key cause, error ≠ .metadata key cause) ∧ ∀ fault, error ≠ .file fault := by
  obtain ⟨fault, rfl⟩ | ⟨snapshot, -, haccept⟩ := error_of_generateText h
  · exact ⟨nofun, nofun⟩
  · obtain ⟨fault, rfl⟩ | ⟨entity, rfl⟩ := Generator.error_of_accept haccept
    · exact ⟨nofun, nofun⟩
    · exact ⟨nofun, nofun⟩

end Snapshot

/-! ### What ends a run -/

namespace Generator

/-- A run ends exactly where a connection is seen to break. It fails exactly if the lookup of an
unclaimed field tells so in time, and with the error of the first such field in the order of the
catalog. What becomes of a claimed field is the same for every source, also if its relations give it
no type; so sources that agree on the unclaimed fields give one result. An unclaimed field whose
lookup is late counts as timed out, and one whose lookup fails otherwise has no type, but the run
goes on. A text gives its units exactly if it is a snapshot whose catalog is accepted, and never
fails for the source or for a file. -/
theorem fails_iff_breaks (generator : Generator) :
    ((∃ error, generator.generate = .error error) ↔
      ∃ keyed ∈ generator.catalog.keyedFields, ∃ cause, generator.BreaksAt keyed cause) ∧
    (∀ error, generator.generate = .error error ↔ ∃ before keyed after cause,
      generator.catalog.keyedFields = before ++ keyed :: after ∧
        (∀ earlier ∈ before, ∀ cause, ¬ generator.BreaksAt earlier cause) ∧
        generator.BreaksAt keyed cause ∧ error = .metadata keyed.1 (.transport cause)) ∧
    (∀ keyed ∈ generator.catalog.keyedFields, generator.catalog.IsClaimed keyed.1 keyed.2 →
      ∃ result, ∀ source limit, (Resolver.ofCatalog generator.catalog source limit).resolve
        keyed.1.collection keyed.2 = .ok result) ∧
    (∀ source, (∀ keyed ∈ generator.catalog.keyedFields,
        ¬ generator.catalog.IsClaimed keyed.1 keyed.2 →
          source keyed.1 = generator.source keyed.1) →
      { generator with source := source }.generate = generator.generate) ∧
    (∀ keyed ∈ generator.catalog.keyedFields, ¬ generator.catalog.IsClaimed keyed.1 keyed.2 →
      (∀ millis delay, generator.settings.lookupLimit = some millis →
        (generator.source keyed.1).delay = some delay → millis < delay →
        generator.resolver.resolve keyed.1.collection keyed.2 =
          .ok (.error (.lookup (.timeout millis)))) ∧
      ∀ error, (generator.source keyed.1).IsInTime generator.settings.lookupLimit →
        (generator.source keyed.1).result = .error error → (∀ cause, error ≠ .transport cause) →
        generator.resolver.resolve keyed.1.collection keyed.2 = .ok (.error (.lookup error))) ∧
    ∀ text settings,
      ((∃ output, generateText text settings = .ok output) ↔
        ∃ snapshot, Snapshot.parse text = .ok snapshot ∧
          (snapshot.generator settings).accept = .ok ()) ∧
      ∀ error, generateText text settings = .error error →
        (∀ key cause, error ≠ .metadata key cause) ∧ ∀ fault, error ≠ .file fault := by
  refine ⟨exists_generate_error_iff, fun error => generate_eq_error_iff, fun keyed h hclaimed => ?_,
    fun source h => generate_congr_source h, fun keyed h hclaimed => ?_,
    fun text settings =>
      ⟨Snapshot.exists_generateText_iff, fun error => Snapshot.ne_of_generateText⟩⟩
  · obtain ⟨entity, -, field, -, rfl⟩ := Catalog.mem_keyedFields.mp h
    exact Resolver.exists_resolve_of_isClaimed hclaimed
  · obtain ⟨entity, -, field, -, rfl⟩ := Catalog.mem_keyedFields.mp h
    refine ⟨fun millis delay hlimit hdelay hlate => ?_, fun error hintime hresult hsoft => ?_⟩
    · refine Resolver.resolve_of_lookup_error hclaimed ?_ nofun
      rw [hlimit]
      exact Answer.within_of_late hdelay hlate
    · refine Resolver.resolve_of_lookup_error hclaimed ?_ hsoft
      rw [Answer.within_of_isInTime hintime]
      exact hresult

/-- Articles with a relation to authors, which are not in the catalog, and a source whose answers
fail in every way. -/
def flaky : Generator where
  catalog := {
    entities := .ofList [{ Entity.ofName "articles" with
      fields := .ofList [.ofKind "author" .integer, .ofKind "mood" .string, .ofKind "tone" .string,
        .ofKind "state" .string, .ofKind "rank" .string] }]
    relations := [.toOne "articles" "author" "authors"] }
  source := fun key =>
    if key.field = "mood" then ⟨some 20, .error (.transport "reset")⟩
    else if key.field = "tone" then ⟨some 10, .error (.query "malformed")⟩
    else if key.field = "state" then ⟨some 10, .error (.transport "closed")⟩
    else ⟨none, .error (.transport "refused")⟩
  settings := { Settings.standard with lookupLimit := some 10 }

/-- The run fails at the fourth field: the first is claimed, though its relation leads nowhere, the
lookup of the second breaks too late, and that of the third fails without breaking. -/
theorem fails_iff_breaks_flaky :
    flaky.accept = .ok () ∧
    flaky.generate = .error (.metadata ⟨"articles", "state"⟩ (.transport "closed")) ∧
    (∃ result, ∀ source limit, (Resolver.ofCatalog flaky.catalog source limit).resolve "articles"
      (.ofKind "author" .integer) = .ok result) ∧
    flaky.resolver.resolve "articles" (.ofKind "mood" .string) =
      .ok (.error (.lookup (.timeout 10))) ∧
    flaky.resolver.resolve "articles" (.ofKind "tone" .string) =
      .ok (.error (.lookup (.query "malformed"))) ∧
    { flaky with source := fun key =>
      if key.field = "author" then ⟨none, .ok none⟩ else flaky.source key }.generate =
        flaky.generate ∧
    ∀ fault, generateText "" flaky.settings ≠ .error (.file fault) := by
  obtain ⟨-, hfirst, hclaimed, hsource, hlookup, htext⟩ := fails_iff_breaks flaky
  have hfields : flaky.catalog.keyedFields = [
      (⟨"articles", "author"⟩, .ofKind "author" .integer),
      (⟨"articles", "mood"⟩, .ofKind "mood" .string),
      (⟨"articles", "tone"⟩, .ofKind "tone" .string),
      (⟨"articles", "state"⟩, .ofKind "state" .string),
      (⟨"articles", "rank"⟩, .ofKind "rank" .string)] := rfl
  have hauthor : flaky.catalog.IsClaimed ⟨"articles", "author"⟩ (.ofKind "author" .integer) := by
    decide
  have hmood := hlookup (⟨"articles", "mood"⟩, .ofKind "mood" .string) (by simp [hfields])
    (by decide)
  have htone := hlookup (⟨"articles", "tone"⟩, .ofKind "tone" .string) (by simp [hfields])
    (by decide)
  refine ⟨rfl, (hfirst _).mpr ⟨_ :: _ :: _ :: [], _, [_], "closed", hfields, ?_, ?_, rfl⟩,
    hclaimed (_, .ofKind "author" .integer) (by simp [hfields]) hauthor,
    hmood.1 10 20 rfl rfl (by decide), htone.2 _ (by simp [flaky, Answer.IsInTime]) rfl (by simp),
    hsource _ ?_, fun fault h => ((htext _ _).2 _ h).2 fault rfl⟩
  · simp only [List.forall_mem_cons, List.not_mem_nil, false_imp_iff, implies_true, and_true]
    refine ⟨fun cause h => h.1 hauthor, fun cause h => ?_, fun cause h => ?_⟩
    · exact absurd (h.2.1 20 rfl 10 rfl) (by decide)
    · cases h.2.2
  · exact ⟨by decide, by simp [flaky, Answer.IsInTime], rfl⟩
  · rw [hfields]
    simp only [List.forall_mem_cons, List.not_mem_nil, false_imp_iff, implies_true, and_true]
    exact ⟨fun h => absurd hauthor h, fun _ => rfl, fun _ => rfl, fun _ => rfl, fun _ => rfl⟩

end Generator

end TypedCatalog
