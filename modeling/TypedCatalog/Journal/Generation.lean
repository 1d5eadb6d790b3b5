import TypedCatalog.Generation.Run
import TypedCatalog.Journal.Event

/-!
# The journal of a generation

What a generator tells about itself follows from what it is given and what comes of it. The checks
tell of collisions that the settings allow and of problems with relations; the generation tells of
every entity, up to the first that ends the run, and of the fields that were left without a type.
-/

namespace TypedCatalog

namespace Event

/-- A collection whose file a later one takes. -/
def overwrittenCollection (collision : IdentifierCollision) : Event :=
  ⟨.warn, "identifier collision, later unit overwrites earlier one",
    [("identifier", .text collision.identifier), ("first", .text collision.first),
      ("second", .text collision.second)]⟩

/-- A collection whose file the index takes. -/
def overwrittenByIndex (entity : Entity) : Event :=
  ⟨.warn, "model unit shares its file with the index, index overwrites it",
    [("collection", .text entity.collection), ("identifier", .text entity.typeName)]⟩

/-- A problem with the relations of a catalog. -/
def relationProblem (error : CatalogError) : Event :=
  ⟨.warn, "catalog has relation problems", [("error", .text error.message)]⟩

/-- The begin of a generation. -/
def generating (generator : Generator) : Event :=
  ⟨.info, "generating declarations",
    [("entities", .count generator.catalog.entities.size),
      ("concurrency", .count generator.settings.concurrency)]⟩

/-- The begin of an entity's generation. -/
def generatingModel (entity : Entity) : Event :=
  ⟨.debug, "generating model",
    [("entity", .text entity.collection), ("fields", .count entity.fields.size)]⟩

/-- A field without a type. -/
def fieldWithoutType (diagnostic : Diagnostic) : Event :=
  ⟨.warn, "could not resolve field type, emitting never",
    [("entity", .text diagnostic.key.collection), ("field", .text diagnostic.key.field),
      ("error", .text diagnostic.cause.message)]⟩

/-- The number of fields without a type. -/
def fieldsWithoutType (count : Nat) : Event :=
  ⟨.warn, "some fields were emitted as never", [("diagnostics", .count count)]⟩

/-- The end of a generation. -/
def generated (output : Output) : Event :=
  ⟨.info, "generation complete", [("units", .count output.files.length)]⟩

end Event

namespace Generator

/-- The collisions that are told of: none if they are rejected. -/
def allowedCollisions (generator : Generator) : Journal :=
  match generator.settings.collisions with
  | .reject => []
  | .overwrite =>
    generator.catalog.collisions.map Event.overwrittenCollection ++
      generator.indexClashes.map Event.overwrittenByIndex

/-- What is told of the relations. -/
def relationEvents (generator : Generator) : Journal :=
  match generator.catalog.checkRelations with
  | .ok () => []
  | .error error => [.relationProblem error]

/-- The journal of the checks before a run; one that ends the run leaves no trace. -/
def acceptJournal (generator : Generator) : Journal :=
  match generator.accept with
  | .error _ => []
  | .ok () => generator.allowedCollisions ++ generator.relationEvents

/-- The journal of an entity's generation. -/
def modelJournal (generator : Generator) (entity : Entity) : Journal :=
  .generatingModel entity ::
    match generator.modelUnit entity with
    | .error _ => []
    | .ok unit => unit.model.diagnostics.map Event.fieldWithoutType

/-- The journal of the generation of entities up to the first that ends the run. -/
def modelsJournal (generator : Generator) : List Entity → Journal
  | [] => []
  | entity :: rest =>
    generator.modelJournal entity ++
      match generator.modelUnit entity with
      | .error _ => []
      | .ok _ => generator.modelsJournal rest

/-- What is told at the end of a generation. -/
def endJournal (output : Output) : Journal :=
  (if output.diagnostics.isEmpty then [] else [.fieldsWithoutType output.diagnostics.length]) ++
    [.generated output]

/-- The journal of a generation. -/
def generateJournal (generator : Generator) : Journal :=
  .generating generator :: generator.modelsJournal generator.catalog.entities.toList ++
    match generator.generate with
    | .error _ => []
    | .ok output => endJournal output

/-- The journal of checks and generation. -/
def journal (generator : Generator) : Journal :=
  generator.acceptJournal ++
    match generator.accept with
    | .error _ => []
    | .ok () => generator.generateJournal

end Generator

/-- The journal of the generation of the snapshot in a text. -/
def generateTextJournal (text : String) (settings : Settings) : Journal :=
  match Snapshot.parse text with
  | .error _ => []
  | .ok snapshot => (snapshot.generator settings).journal

end TypedCatalog
