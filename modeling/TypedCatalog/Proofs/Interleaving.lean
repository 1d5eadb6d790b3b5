import Mathlib.Logic.Relation
import TypedCatalog.Generation.Concurrent
import TypedCatalog.Proofs.Units

/-!
# Runs with entities in flight

What an entity in flight comes to is settled when it is started (`EntityTask.result`), and with it
what a run comes to (`RunState.result`): no step changes either. A run can always go on until it is
over and cannot go on for ever (`RunState.rank`). So however the entities get on, a run ends, and
with what the run on one entity after the other gives (`Generator.ends_with_generate`).
-/

namespace TypedCatalog

/-- What an entity in flight comes to. -/
def EntityTask.result (generator : Generator) : EntityTask → Except GenerationError ModelUnit
  | .working entity outcomes pending =>
    (fun others => generator.unitOf entity (outcomes ++ others)) <$>
      pending.mapM (generator.resolver.outcome entity.collection)
  | .finished result => result

/-- What the entities in flight and those that wait come to, in the order of the catalog. -/
def RunState.expected (generator : Generator) (waiting : List Entity)
    (inFlight : List EntityTask) : List (Except GenerationError ModelUnit) :=
  inFlight.map (EntityTask.result generator) ++ waiting.map generator.modelUnit

/-- What a run comes to. -/
def RunState.result (generator : Generator) : RunState → Except GenerationError Output
  | .underway waiting inFlight collected =>
    (fun units => ⟨collected ++ units, generator.indexUnit⟩) <$>
      (RunState.expected generator waiting inFlight).mapM id
  | .ended result => result

namespace Generator

variable {generator : Generator} {scope : LimitScope}

/-! ### One step -/

/-- An entity comes to its unit from the start. -/
theorem result_ofEntity (entity : Entity) :
    (EntityTask.ofEntity entity).result generator = generator.modelUnit entity := by
  rw [EntityTask.ofEntity, EntityTask.result, modelUnit, Resolver.model, Resolver.outcomes]
  cases entity.fields.toList.mapM (generator.resolver.outcome entity.collection) <;> rfl

/-- Getting on does not change what an entity comes to. -/
theorem result_of_advance {task next : EntityTask} (h : generator.advance task = some next) :
    next.result generator = task.result generator := by
  cases task with
  | finished result => cases h
  | working entity outcomes pending =>
    cases pending with
    | nil =>
      cases h
      change Except.ok _ = Except.ok (generator.unitOf entity (outcomes ++ []))
      rw [List.append_nil]
    | cons field pending =>
      rw [advance] at h
      cases houtcome : generator.resolver.outcome entity.collection field with
      | error error =>
        rw [houtcome] at h
        cases h
        rw [EntityTask.result, EntityTask.result, List.mapM_cons, houtcome]
        rfl
      | ok outcome =>
        rw [houtcome] at h
        cases h
        rw [EntityTask.result, EntityTask.result, List.mapM_cons, houtcome]
        cases pending.mapM (generator.resolver.outcome entity.collection) with
        | error error => rfl
        | ok others =>
          change Except.ok (generator.unitOf entity (outcomes ++ [outcome] ++ others)) =
            Except.ok (generator.unitOf entity (outcomes ++ outcome :: others))
          rw [List.append_assoc, List.singleton_append]

/-- A step does not change what a run comes to. -/
theorem result_of_step {state next : RunState} (h : generator.Step scope state next) :
    next.result generator = state.result generator := by
  cases h with
  | @start entity waiting inFlight _ _ =>
    have hexpected : RunState.expected generator waiting (inFlight ++ [.ofEntity entity]) =
        RunState.expected generator (entity :: waiting) inFlight := by
      simp [RunState.expected, result_ofEntity]
    rw [RunState.result, RunState.result, hexpected]
  | @advance waiting before after task next _ hadvance =>
    have hexpected : RunState.expected generator waiting (before ++ next :: after) =
        RunState.expected generator waiting (before ++ task :: after) := by
      simp [RunState.expected, result_of_advance hadvance]
    rw [RunState.result, RunState.result, hexpected]
  | @collect waiting unit inFlight collected =>
    have hexpected : RunState.expected generator waiting (.finished (.ok unit) :: inFlight) =
        .ok unit :: RunState.expected generator waiting inFlight := rfl
    rw [RunState.result, RunState.result, hexpected, List.mapM_cons]
    cases (RunState.expected generator waiting inFlight).mapM id with
    | error error => rfl
    | ok units =>
      change Except.ok (Output.mk (collected ++ [unit] ++ units) _) =
        Except.ok (Output.mk (collected ++ unit :: units) _)
      rw [List.append_assoc, List.singleton_append]
  | @stop waiting error inFlight collected =>
    have hexpected : RunState.expected generator waiting (.finished (.error error) :: inFlight) =
        .error error :: RunState.expected generator waiting inFlight := rfl
    rw [RunState.result, RunState.result, hexpected, List.mapM_cons]
    rfl
  | @complete collected =>
    change _ = Except.ok (Output.mk (collected ++ []) generator.indexUnit)
    rw [List.append_nil]
    rfl

/-- As long as a run is not over it can go on. -/
theorem exists_step (generator : Generator) (scope : LimitScope) (waiting : List Entity)
    (inFlight : List EntityTask) (collected : List ModelUnit) :
    ∃ next, generator.Step scope (.underway waiting inFlight collected) next := by
  match inFlight with
  | .finished (.ok unit) :: _ => exact ⟨_, .collect⟩
  | .finished (.error error) :: _ => exact ⟨_, .stop⟩
  | .working entity outcomes pending :: rest =>
    obtain ⟨next, hnext⟩ : ∃ next, generator.advance (.working entity outcomes pending) =
        some next := by
      cases pending with
      | nil => exact ⟨_, rfl⟩
      | cons field pending =>
        rw [advance]
        cases generator.resolver.outcome entity.collection field <;> exact ⟨_, rfl⟩
    have hstep : generator.Step scope
        (.underway waiting ([] ++ .working entity outcomes pending :: rest) collected)
        (.underway waiting ([] ++ next :: rest) collected) := .advance hnext
    exact ⟨_, hstep⟩
  | [] =>
    cases waiting with
    | nil => exact ⟨_, .complete⟩
    | cons entity waiting =>
      refine ⟨_, .start ?_⟩
      rw [List.countP_nil, limit]
      omega

end Generator

/-! ### The length of a run -/

/-- How often an entity in flight can get on before it is collected, and the collection itself. -/
def EntityTask.rank : EntityTask → Nat
  | .working _ _ pending => pending.length + 2
  | .finished _ => 1

/-- The ranks of several entities in flight, taken together. -/
def EntityTask.totalRank : List EntityTask → Nat
  | [] => 0
  | task :: rest => task.rank + totalRank rest

theorem EntityTask.totalRank_append (tasks others : List EntityTask) :
    totalRank (tasks ++ others) = totalRank tasks + totalRank others := by
  induction tasks with
  | nil => rw [List.nil_append, totalRank, Nat.zero_add]
  | cons task rest ih => rw [List.cons_append, totalRank, totalRank, ih, Nat.add_assoc]

/-- How many steps a run can still have. An entity that waits is worth one step more than one that
has just been started. -/
def RunState.rank : RunState → Nat
  | .underway waiting inFlight _ =>
    EntityTask.totalRank (inFlight ++ waiting.map .ofEntity) + waiting.length + 1
  | .ended _ => 0

namespace Generator

variable {generator : Generator} {scope : LimitScope}

theorem rank_lt_of_advance {task next : EntityTask} (h : generator.advance task = some next) :
    next.rank < task.rank := by
  cases task with
  | finished result => cases h
  | working entity outcomes pending =>
    cases pending with
    | nil =>
      cases h
      exact Nat.one_lt_two
    | cons field pending =>
      rw [advance] at h
      cases houtcome : generator.resolver.outcome entity.collection field with
      | ok outcome =>
        rw [houtcome] at h
        cases h
        exact Nat.lt_succ_self _
      | error error =>
        rw [houtcome] at h
        cases h
        exact Nat.succ_lt_succ (Nat.succ_pos _)

theorem rank_lt_of_step {state next : RunState} (h : generator.Step scope state next) :
    next.rank < state.rank := by
  cases h with
  | @start entity waiting inFlight _ _ => simp [RunState.rank]
  | advance hadvance =>
    have hlt := rank_lt_of_advance hadvance
    simp only [RunState.rank, EntityTask.totalRank_append, EntityTask.totalRank]
    omega
  | collect =>
    simp only [RunState.rank, List.cons_append, EntityTask.totalRank, EntityTask.rank]
    omega
  | stop => exact Nat.succ_pos _
  | complete => exact Nat.succ_pos _

/-- No run goes on for ever. -/
theorem wellFounded_step (generator : Generator) (scope : LimitScope) :
    WellFounded fun next state => generator.Step scope state next :=
  Subrelation.wf rank_lt_of_step (InvImage.wf RunState.rank Nat.lt_wfRel.wf)

/-! ### Runs -/

/-- Whether a run can come to a state. -/
def Reaches (generator : Generator) (scope : LimitScope) (state : RunState) : Prop :=
  Relation.ReflTransGen (generator.Step scope) generator.initial state

/-- A run comes to what the run on one entity after the other comes to. -/
theorem result_initial (generator : Generator) :
    generator.initial.result generator = generator.generate := by
  rw [initial, RunState.result, RunState.expected, List.map_nil, List.nil_append, List.mapM_map,
    generate]
  change _ <$> generator.catalog.entities.toList.mapM generator.modelUnit = _
  cases generator.catalog.entities.toList.mapM generator.modelUnit <;> rfl

theorem result_of_reaches {state : RunState} (h : generator.Reaches scope state) :
    state.result generator = generator.generate := by
  induction h with
  | refl => exact result_initial generator
  | tail _ hstep ih => rw [result_of_step hstep, ih]

/-- From every state a run can be brought to its end. -/
theorem exists_ended (generator : Generator) (scope : LimitScope) (state : RunState) :
    ∃ result, Relation.ReflTransGen (generator.Step scope) state (.ended result) := by
  induction state using (generator.wellFounded_step scope).induction with
  | h state ih =>
    cases state with
    | ended result => exact ⟨result, .refl⟩
    | underway waiting inFlight collected =>
      obtain ⟨next, hstep⟩ := exists_step generator scope waiting inFlight collected
      obtain ⟨result, hrest⟩ := ih next hstep
      exact ⟨result, .head hstep hrest⟩

/-- A run ends, and only with what the run on one entity after the other gives. -/
theorem reaches_ended_iff {result : Except GenerationError Output} :
    generator.Reaches scope (.ended result) ↔ result = generator.generate := by
  constructor
  · exact fun h => result_of_reaches h
  · rintro rfl
    obtain ⟨result, h⟩ := exists_ended generator scope generator.initial
    rwa [← result_of_reaches h]

/-- Whether no more entities are in flight than the settings allow. -/
def KeepsLimit (generator : Generator) (scope : LimitScope) : RunState → Prop
  | .underway _ inFlight _ => inFlight.countP scope.counts ≤ generator.limit
  | .ended _ => True

/-- An entity that gets on counts towards the limit. -/
theorem counts_of_advance {task next : EntityTask} (h : generator.advance task = some next) :
    scope.counts task := by
  cases task with
  | working => cases scope <;> rfl
  | finished => cases h

theorem keepsLimit_of_step {state next : RunState} (hkeeps : generator.KeepsLimit scope state)
    (h : generator.Step scope state next) : generator.KeepsLimit scope next := by
  cases h with
  | start room =>
    rw [KeepsLimit, List.countP_append]
    exact Nat.le_trans (Nat.add_le_add_left List.countP_le_length _) room
  | @advance _ before after task next _ hadvance =>
    rw [KeepsLimit, List.countP_append, List.countP_cons, if_pos (counts_of_advance hadvance)]
      at hkeeps
    rw [KeepsLimit, List.countP_append, List.countP_cons]
    split <;> omega
  | collect => exact Nat.le_trans (List.sublist_cons_self _ _).countP_le hkeeps
  | stop => trivial
  | complete => trivial

theorem keepsLimit_of_reaches {state : RunState} (h : generator.Reaches scope state) :
    generator.KeepsLimit scope state := by
  induction h with
  | refl => exact Nat.zero_le _
  | tail _ hstep ih => exact keepsLimit_of_step ih hstep

/-- A run on one entity after the other fails for the first entity that fails. -/
theorem exists_first_failure {error : GenerationError} (h : generator.generate = .error error) :
    ∃ before entity after, generator.catalog.entities.toList = before ++ entity :: after ∧
      (∀ earlier ∈ before, ∃ unit, generator.modelUnit earlier = .ok unit) ∧
      generator.modelUnit entity = .error error := by
  rw [← error?_eq_some, generate, error?_bind_pure, error?_mapM, List.findSome?_eq_some_iff] at h
  obtain ⟨before, entity, after, hentities, herror, hbefore⟩ := h
  exact ⟨before, entity, after, hentities, fun earlier hearlier =>
    error?_eq_none.mp (hbefore earlier hearlier), error?_eq_some.mp herror⟩

/-- How many entities are in flight, and in which order they get on, makes no difference to what a
run gives. Whatever the limit, and whether or not entities that wait to be collected count towards
it, a run keeps it, can go on until it is over, and cannot go on for ever. It ends with the models
in the order of the catalog, the index and the reports of the run on one entity after the other, or
with the same error: that of the first entity, in the order of the catalog, that fails, also if a
later one failed at an earlier time. -/
theorem ends_with_generate (generator : Generator) (scope : LimitScope) :
    (∀ result, generator.Reaches scope (.ended result) ↔ result = generator.generate) ∧
      (∀ waiting inFlight collected, ∃ next,
        generator.Step scope (.underway waiting inFlight collected) next) ∧
      (WellFounded fun next state => generator.Step scope state next) ∧
      (∀ waiting inFlight collected,
        generator.Reaches scope (.underway waiting inFlight collected) →
          inFlight.countP scope.counts ≤ max generator.settings.concurrency 1) ∧
      ∀ error, generator.Reaches scope (.ended (.error error)) → ∃ before entity after,
        generator.catalog.entities.toList = before ++ entity :: after ∧
          (∀ earlier ∈ before, ∃ unit, generator.modelUnit earlier = .ok unit) ∧
          generator.modelUnit entity = .error error :=
  ⟨fun _ => reaches_ended_iff, exists_step generator scope, wellFounded_step generator scope,
    fun _ _ _ h => keepsLimit_of_reaches h,
    fun _ h => exists_first_failure (reaches_ended_iff.mp h).symm⟩

/-- Two collections, of which the first is slow to fail and the second fast, with both in flight. -/
def outage : Generator where
  catalog := {
    entities := .ofList [
      { Entity.ofName "alphas" with fields := .ofList [.ofKind "kind" .string] },
      { Entity.ofName "betas" with fields := .ofList [.ofKind "kind" .string] }]
    relations := [] }
  source := fun key =>
    if key.collection = "alphas" then ⟨some 300, .error (.transport "reset")⟩
    else ⟨some 100, .error (.transport "refused")⟩
  settings := Settings.standard.withConcurrency 2

/-- The second collection can have failed when nothing is known of the first. The run fails for the
first nevertheless. -/
theorem ends_with_generate_outage :
    (∃ first, outage.Reaches .uncollected (.underway [] [.ofEntity first,
      .finished (.error (.metadata ⟨"betas", "kind"⟩ (.transport "refused")))] [])) ∧
    ∀ result, outage.Reaches .uncollected (.ended result) ↔
      result = .error (.metadata ⟨"alphas", "kind"⟩ (.transport "reset")) := by
  constructor
  · obtain ⟨first, second, hentities⟩ :
        ∃ first second, outage.catalog.entities.toList = [first, second] := ⟨_, _, rfl⟩
    have hfirst : outage.Step .uncollected outage.initial
        (.underway [second] [.ofEntity first] []) := by
      rw [initial, hentities]
      exact .start Nat.zero_lt_two
    have hsecond : outage.Step .uncollected (.underway [second] [.ofEntity first] [])
        (.underway [] [.ofEntity first, .ofEntity second] []) :=
      .start Nat.one_lt_two
    have hfails : outage.Step .uncollected
        (.underway [] ([.ofEntity first] ++ [.ofEntity second]) [])
        (.underway [] ([.ofEntity first] ++
          [.finished (.error (.metadata ⟨"betas", "kind"⟩ (.transport "refused")))]) []) := by
      refine .advance ?_
      cases hentities
      rfl
    exact ⟨first, ((Relation.ReflTransGen.single hfirst).tail hsecond).tail hfails⟩
  · exact (ends_with_generate outage .uncollected).1

end Generator

end TypedCatalog
