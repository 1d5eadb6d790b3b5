import TypedCatalog.Generation.Run

/-!
# Entities in flight

`Generator.generate` finishes one entity before it comes to the next. A run may also have several
entities in flight. `Generator.Step` is one step of such a run: entities are started in the order of
the catalog, as many at once as the settings allow (`LimitScope`); each resolves its fields one by
one, and which of them gets on next is left open; what they come to is collected in the order of the
catalog again. The first failure that is collected ends the run, whatever is still in flight.
-/

namespace TypedCatalog

/-- An entity that has been started. -/
inductive EntityTask where
  /-- Fields have been resolved, others are pending. -/
  | working (entity : Entity) (outcomes : List FieldOutcome) (pending : List Field)
  /-- There is a unit, or a reason to end the run, that waits to be collected. -/
  | finished (result : Except GenerationError ModelUnit)

namespace EntityTask

/-- An entity of which no field has been resolved. -/
def ofEntity (entity : Entity) : EntityTask := .working entity [] entity.fields.toList

/-- Whether an entity is being worked on. -/
def isWorking : EntityTask → Bool
  | working .. => true
  | finished _ => false

end EntityTask

/-- Which of the entities in flight count towards the limit. -/
inductive LimitScope where
  /-- Those that are worked on. -/
  | unfinished
  /-- All of them, until they are collected. -/
  | uncollected

/-- Whether an entity in flight counts towards the limit. -/
def LimitScope.counts : LimitScope → EntityTask → Bool
  | unfinished, task => task.isWorking
  | uncollected, _ => true

/-- How far a run has come. -/
inductive RunState where
  /-- Entities wait to be started, others are in flight, and units have been collected, each in the
  order of the catalog. -/
  | underway (waiting : List Entity) (inFlight : List EntityTask) (collected : List ModelUnit)
  /-- The run is over. -/
  | ended (result : Except GenerationError Output)

namespace Generator

/-- The unit of an entity whose fields had the given outcomes. -/
def unitOf (generator : Generator) (entity : Entity) (outcomes : List FieldOutcome) : ModelUnit :=
  ⟨generator.settings.fileName (Model.ofOutcomes entity outcomes).declaration.typeName,
    .ofOutcomes entity outcomes⟩

/-- An entity in flight gets on: its next field is resolved or, after the last one, its unit is
made. -/
def advance (generator : Generator) : EntityTask → Option EntityTask
  | .working entity outcomes [] => some (.finished (.ok (generator.unitOf entity outcomes)))
  | .working entity outcomes (field :: pending) =>
    match generator.resolver.outcome entity.collection field with
    | .ok outcome => some (.working entity (outcomes ++ [outcome]) pending)
    | .error error => some (.finished (.error error))
  | .finished _ => none

/-- How many entities may be in flight at once: at least one. -/
def limit (generator : Generator) : Nat := max generator.settings.concurrency 1

/-- The state before the first step. -/
def initial (generator : Generator) : RunState := .underway generator.catalog.entities.toList [] []

/-- One step of a run. -/
inductive Step (generator : Generator) (scope : LimitScope) : RunState → RunState → Prop where
  /-- The next entity is started. -/
  | start {entity : Entity} {waiting : List Entity} {inFlight : List EntityTask}
    {collected : List ModelUnit}
    (room : inFlight.countP scope.counts < generator.limit) :
    Step generator scope (.underway (entity :: waiting) inFlight collected)
      (.underway waiting (inFlight ++ [.ofEntity entity]) collected)
  /-- Any of the entities in flight gets on. -/
  | advance {waiting : List Entity} {before after : List EntityTask} {task next : EntityTask}
    {collected : List ModelUnit} (h : generator.advance task = some next) :
    Step generator scope (.underway waiting (before ++ task :: after) collected)
      (.underway waiting (before ++ next :: after) collected)
  /-- The unit of the foremost entity in flight is collected. -/
  | collect {waiting : List Entity} {unit : ModelUnit} {inFlight : List EntityTask}
    {collected : List ModelUnit} :
    Step generator scope (.underway waiting (.finished (.ok unit) :: inFlight) collected)
      (.underway waiting inFlight (collected ++ [unit]))
  /-- The foremost entity in flight has failed, and with it the run. -/
  | stop {waiting : List Entity} {error : GenerationError} {inFlight : List EntityTask}
    {collected : List ModelUnit} :
    Step generator scope (.underway waiting (.finished (.error error) :: inFlight) collected)
      (.ended (.error error))
  /-- All units are collected. -/
  | complete {collected : List ModelUnit} :
    Step generator scope (.underway [] [] collected) (.ended (.ok ⟨collected, generator.indexUnit⟩))

end Generator

end TypedCatalog
