import TypedCatalog.Command.Line
import TypedCatalog.Journal.Export

/-!
# The journal of a command

The command tells what its export tells, and at last where the files are.
-/

namespace TypedCatalog

/-- What the command tells at its end. -/
def Command.Request.endJournal (request : Command.Request) (made : Export) : Journal :=
  match made.result with
  | .error _ => []
  | .ok summary => [.written request.target summary]

/-- The journal of a request for which the snapshot has been read, and of which `made` is what
became. -/
def Command.Request.journal (request : Command.Request) (read : Except FileFault String)
    (made : Export) : Journal :=
  request.exporter.readJournal request.snapshot read (some request.target) made ++
    request.endJournal made

end TypedCatalog
