import TypedCatalog.Declaration.Index
import TypedCatalog.Generation.Model
import TypedCatalog.Generation.Settings

/-!
# Runs

`Generator.accept` checks a catalog against the settings, and `Generator.generate` gives the units
of an accepted one: a model for every entity, in the order of the catalog, and the index. A unit is
a declaration with the name of the file that it goes to.
-/

namespace TypedCatalog

open Text

/-- A model and the name of its file. -/
structure ModelUnit where
  /-- The name of the file. -/
  fileName : String
  /-- The model. -/
  model : Model

/-- The index and the name of its file. -/
structure IndexUnit where
  /-- The name of the file. -/
  fileName : String
  /-- The declaration. -/
  declaration : IndexDecl
  deriving DecidableEq, Repr

/-- A file to be written. -/
structure OutputFile where
  /-- The name. -/
  name : String
  /-- The contents. -/
  text : String
  deriving DecidableEq, Repr

/-- The file of a model. -/
def ModelUnit.file (unit : ModelUnit) : OutputFile := ⟨unit.fileName, unit.model.declaration.text⟩

/-- The file of an index. -/
def IndexUnit.file (unit : IndexUnit) : OutputFile := ⟨unit.fileName, unit.declaration.text⟩

/-- What a run gives. -/
structure Output where
  /-- The models, in the order of the catalog. -/
  models : List ModelUnit
  /-- The index. -/
  index : IndexUnit

namespace Output

/-- The files, models first. -/
def files (output : Output) : List OutputFile :=
  output.models.map ModelUnit.file ++ [output.index.file]

/-- All reports, in order. -/
def diagnostics (output : Output) : List Diagnostic :=
  output.models.flatMap (·.model.diagnostics)

end Output

/-- A catalog, a source of choices for it, and settings. -/
structure Generator where
  /-- The catalog. -/
  catalog : Catalog
  /-- The source of choices. -/
  source : ChoiceSource
  /-- The settings. -/
  settings : Settings

namespace Generator

/-- Whether the unit of an entity would have the file name of the index, but for case. -/
def clashesWithIndex (settings : Settings) (entity : Entity) : Bool :=
  foldCase entity.typeName == foldCase settings.indexStem

/-- The entities whose units would have the file name of the index. -/
def indexClashes (generator : Generator) : List Entity :=
  generator.catalog.entities.toList.filter (clashesWithIndex generator.settings)

/-- The error of an entity whose unit would have the file name of the index. -/
def indexClashError (settings : Settings) (entity : Entity) : GenerationError :=
  .indexNameClash entity.collection entity.typeName settings.indexStem

/-- The checks before a run. Identifiers must be usable under any policy; collisions, and clashes
with the index, are errors only where they are to be rejected. -/
def accept (generator : Generator) : Except GenerationError Unit :=
  match generator.catalog.checkIdentifiers with
  | .error error => .error (.catalog error)
  | .ok () =>
    match generator.settings.collisions with
    | .overwrite => .ok ()
    | .reject =>
      match generator.catalog.collisions, generator.indexClashes with
      | collision :: _, _ => .error (.catalog collision.error)
      | [], entity :: _ => .error (indexClashError generator.settings entity)
      | [], [] => .ok ()

/-- The resolver of a run. -/
def resolver (generator : Generator) : Resolver :=
  .ofCatalog generator.catalog generator.source generator.settings.lookupLimit

/-- The unit of an entity. -/
def modelUnit (generator : Generator) (entity : Entity) : Except GenerationError ModelUnit := do
  let model ← generator.resolver.model entity
  return ⟨generator.settings.fileName model.declaration.typeName, model⟩

/-- The unit of the index. -/
def indexUnit (generator : Generator) : IndexUnit where
  fileName := generator.settings.fileName generator.settings.indexStem
  declaration := .ofCatalog generator.catalog generator.settings.indexName

/-- The units of a catalog that has been accepted. -/
def generate (generator : Generator) : Except GenerationError Output := do
  let models ← generator.catalog.entities.toList.mapM generator.modelUnit
  return ⟨models, generator.indexUnit⟩

/-- Checks a catalog and generates its units. -/
def run (generator : Generator) : Except GenerationError Output := do
  generator.accept
  generator.generate

end Generator

/-- The generator of a snapshot, with the choices that the snapshot itself holds. -/
def Snapshot.generator (snapshot : Snapshot) (settings : Settings) : Generator :=
  ⟨snapshot.catalog, snapshot.table.source, settings⟩

/-- Generates the units of the snapshot in a text. -/
def generateText (text : String) (settings : Settings) : Except GenerationError Output :=
  match Snapshot.parse text with
  | .error error => .error (.snapshot error)
  | .ok snapshot => (snapshot.generator settings).run

end TypedCatalog
