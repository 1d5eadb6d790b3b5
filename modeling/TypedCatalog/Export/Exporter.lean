import TypedCatalog.Export.Sink

/-!
# Exports

An export reads a snapshot, generates all units and then writes them to a sink, models first. As
nothing is written before everything is generated, a failed run leaves the sink alone. The first
file that cannot be written ends the export.
-/

namespace TypedCatalog

/-- Why an export failed. -/
inductive ExportError where
  /-- The snapshot's file could not be read. -/
  | readSnapshot (path : String) (fault : FileFault)
  /-- Nothing was generated. -/
  | generation (error : GenerationError)
  /-- The sink could not be made ready. -/
  | prepare (fault : FileFault)
  /-- A file could not be written. -/
  | write (file : String) (fault : FileFault)
  deriving DecidableEq, Repr

namespace ExportError

/-- The wording of an error; that of a failed generation is its own. -/
def message : ExportError → String
  | readSnapshot path fault => "failed to read snapshot '" ++ path ++ "': " ++ fault.message
  | generation error => error.message
  | prepare fault => "failed to prepare output: " ++ fault.message
  | write file fault => "failed to write '" ++ file ++ "': " ++ fault.message

/-- What caused an error, the nearest cause first. -/
def causes : ExportError → List String
  | readSnapshot _ fault => [fault.message]
  | generation error => error.causes
  | prepare fault => [fault.message]
  | write _ fault => [fault.message]

end ExportError

/-- What a successful export tells. -/
structure Summary where
  /-- The number of models. -/
  models : Nat
  /-- The names of the files written, in order. -/
  files : List String
  /-- The reports on fields without a type. -/
  diagnostics : List String
  deriving DecidableEq, Repr

/-- The summary of an export of which every file was written. -/
def Output.summary (output : Output) : Summary where
  models := output.models.length
  files := output.files.map OutputFile.name
  diagnostics := output.diagnostics.map Diagnostic.text

/-- What became of an export. -/
structure Export where
  /-- The files that the sink was asked to write, in order. -/
  attempted : List OutputFile
  /-- How the export ended. -/
  result : Except ExportError Summary

namespace Export

/-- An export that ended before any file. -/
def failed (error : ExportError) : Export := ⟨[], .error error⟩

end Export

namespace Sink

variable {m : Type → Type} [Monad m]

/-- Writes files one after the other, up to the first that fails. The result holds the files that
were tried and the failure, if there was one. -/
def writeAll (sink : Sink m) : List OutputFile → m (List OutputFile × Option ExportError)
  | [] => pure ([], none)
  | file :: rest => do
    match ← sink.write file with
    | .error fault => return ([file], some (.write file.name fault))
    | .ok () =>
      let (attempted, failure) ← sink.writeAll rest
      return (file :: attempted, failure)

/-- Makes the sink ready and writes the files of an output. -/
def deliver (sink : Sink m) (output : Output) : m Export := do
  match ← sink.prepare with
  | .error fault => return .failed (.prepare fault)
  | .ok () =>
    match ← sink.writeAll output.files with
    | (attempted, some error) => return ⟨attempted, .error error⟩
    | (attempted, none) => return ⟨attempted, .ok output.summary⟩

end Sink

/-- How to export. -/
structure Exporter where
  /-- The settings of the run. -/
  settings : Settings
  /-- Whether every problem of the catalog is an error, also one that would only leave fields
  without a type. -/
  strict : Bool
  deriving DecidableEq, Repr

namespace Exporter

/-- The check of a catalog before its generation. -/
def check (exporter : Exporter) (catalog : Catalog) : Except GenerationError Unit :=
  if exporter.strict then catalog.check.mapError .catalog else .ok ()

/-- The generator of an export. -/
def generator (exporter : Exporter) (catalog : Catalog) (source : ChoiceSource) : Generator :=
  ⟨catalog, source, exporter.settings⟩

/-- What is to be written for a catalog. -/
def generate (exporter : Exporter) (catalog : Catalog) (source : ChoiceSource) :
    Except GenerationError Output := do
  exporter.check catalog
  (exporter.generator catalog source).run

variable {m : Type → Type} [Monad m]

/-- Exports a catalog with choices from the given source. -/
def exportCatalog (exporter : Exporter) (catalog : Catalog) (source : ChoiceSource)
    (sink : Sink m) : m Export :=
  match exporter.generate catalog source with
  | .error error => pure (.failed (.generation error))
  | .ok output => sink.deliver output

/-- A catalog that nothing is generated for leaves the sink alone. -/
theorem exportCatalog_of_error {exporter : Exporter} {catalog : Catalog} {source : ChoiceSource}
    {error : GenerationError} (sink : Sink m)
    (h : exporter.generate catalog source = .error error) :
    exporter.exportCatalog catalog source sink = pure (.failed (.generation error)) := by
  rw [exportCatalog, h]

/-- A catalog that an output is generated for is exported by delivering it. -/
theorem exportCatalog_of_ok {exporter : Exporter} {catalog : Catalog} {source : ChoiceSource}
    {output : Output} (sink : Sink m) (h : exporter.generate catalog source = .ok output) :
    exporter.exportCatalog catalog source sink = sink.deliver output := by
  rw [exportCatalog, h]

/-- Exports the snapshot in a text, with the choices that it holds itself. -/
def exportText (exporter : Exporter) (text : String) (sink : Sink m) : m Export :=
  match Snapshot.parse text with
  | .error error => pure (.failed (.generation (.snapshot error)))
  | .ok snapshot => exporter.exportCatalog snapshot.catalog snapshot.table.source sink

/-- Exports the snapshot that has been read from a path. -/
def exportRead (exporter : Exporter) (path : String) (read : Except FileFault String)
    (sink : Sink m) : m Export :=
  match read with
  | .error fault => pure (.failed (.readSnapshot path fault))
  | .ok text => exporter.exportText text sink

/-- Exports the snapshot in a file. -/
def exportFile (exporter : Exporter) (disk : Disk m) (path : String) (sink : Sink m) :
    m Export := do
  exporter.exportRead path (← disk.readText path) sink

end Exporter

/-- Generates the units of the snapshot that has been read from a file. -/
def generateRead (read : Except FileFault String) (settings : Settings) :
    Except GenerationError Output :=
  match read with
  | .error fault => .error (.file fault)
  | .ok text => generateText text settings

end TypedCatalog
