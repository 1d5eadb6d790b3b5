import TypedCatalog.Export.Exporter
import TypedCatalog.Journal.Generation

/-!
# The journal of an export

An export tells of what it reads, generates and writes. What it tells of the sink follows from the
files that the sink was asked to write and from how the export ended.
-/

namespace TypedCatalog

namespace Event

/-- The begin of reading a snapshot's file. -/
def reading (path : String) : Event :=
  ⟨.info, "reading schema snapshot", [("snapshot", .text path)]⟩

/-- A snapshot that has been read. -/
def parsed (snapshot : Snapshot) : Event :=
  ⟨.debug, "snapshot parsed",
    [("collections", .count snapshot.catalog.entities.size),
      ("relations", .count snapshot.catalog.relations.length),
      ("choice_fields", .count snapshot.table.size)]⟩

/-- The begin of writing a file into a directory. -/
def writing (directory : String) (file : OutputFile) : Event :=
  ⟨.debug, "writing unit",
    [("path", .text (file.pathIn directory)), ("bytes", .count file.text.utf8ByteSize)]⟩

/-- The end of an export. -/
def exported (summary : Summary) : Event :=
  ⟨.info, "export complete",
    [("models", .count summary.models), ("diagnostics", .count summary.diagnostics.length)]⟩

/-- The files of a directory that have been written. -/
def written (directory : String) (summary : Summary) : Event :=
  ⟨.info, "declarations written",
    [("dir", .text directory), ("files", .count summary.files.length)]⟩

end Event

/-- What an export into a directory tells of its files; one into memory tells nothing. -/
def Export.writeJournal (made : Export) : (directory : Option String) → Journal
  | none => []
  | some directory => made.attempted.map (Event.writing directory)

/-- What an export tells at its end. -/
def Export.endJournal (made : Export) : Journal :=
  match made.result with
  | .error _ => []
  | .ok summary => [.exported summary]

namespace Exporter

/-- The journal of an export of a catalog, of which `made` is what became. -/
def catalogJournal (exporter : Exporter) (catalog : Catalog) (source : ChoiceSource)
    (directory : Option String) (made : Export) : Journal :=
  match exporter.check catalog with
  | .error _ => []
  | .ok () =>
    (exporter.generator catalog source).journal ++ made.writeJournal directory ++ made.endJournal

/-- The journal of an export of the snapshot in a text. -/
def textJournal (exporter : Exporter) (text : String) (directory : Option String)
    (made : Export) : Journal :=
  match Snapshot.parse text with
  | .error _ => []
  | .ok snapshot =>
    .parsed snapshot ::
      exporter.catalogJournal snapshot.catalog snapshot.table.source directory made

/-- The journal of an export of the snapshot that has been read from a path. -/
def readJournal (exporter : Exporter) (path : String) (read : Except FileFault String)
    (directory : Option String) (made : Export) : Journal :=
  .reading path ::
    match read with
    | .error _ => []
    | .ok text => exporter.textJournal text directory made

end Exporter

end TypedCatalog
