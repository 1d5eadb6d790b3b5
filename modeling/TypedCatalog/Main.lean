import TypedCatalog.Journal.Command

/-!
# The command line

`main` runs a request on the disk of the system. Events that matter to every user and errors go to
standard error; the exit code is 0 after an export, 1 after a failed one and 2 after a command line
that asks for nothing that could be done.
-/

namespace TypedCatalog

/-- The fault in an error of the system. -/
def systemFault : IO.Error → FileFault
  | .noFileOrDirectory .. => .notFound
  | .alreadyExists .. => .exists
  | .inappropriateType _ code _ => if code == 21 then .isDirectory else .notDirectory
  | error => .other error.toString

/-- An operation of the system with its faults as values. -/
def attempt {α : Type} (act : IO α) : IO (Except FileFault α) := do
  try
    return .ok (← act)
  catch error =>
    return .error (systemFault error)

/-- The text in bytes that have been read. -/
def textOfBytes (bytes : ByteArray) : Except FileFault String :=
  match String.fromUTF8? bytes with
  | some text => .ok text
  | none => .error .invalidText

/-- The disk of the system. -/
def systemDisk : Disk IO where
  readText path := do return (← attempt (IO.FS.readBinFile path)).bind textOfBytes
  makeDirectory path := attempt (IO.FS.createDir path)
  isDirectory path := do
    try
      (← IO.FS.realPath path).isDir
    catch _ =>
      return false
  writeText path text := attempt (IO.FS.writeFile path text)

/-- The line of a detail. -/
def detailText (detail : String × Detail) : String :=
  " " ++ detail.1 ++ "=" ++
    match detail.2 with
    | .text s => s
    | .count n => Json.countText n

/-- The line of an event. -/
def eventText (event : Event) : String :=
  event.level.text ++ " " ++ event.message ++ String.join (event.details.map detailText)

/-- How the command is used. -/
def usageText : String :=
  "usage: generate TARGET [--snapshot PATH] [--extension TEXT] [--index-name NAME]\n" ++
    "         [--allow-collisions] [--strict] [--concurrency N] [--metadata-timeout-ms N]"

/-- Why a command line cannot be followed. -/
def usageMessage : Command.UsageError → String
  | .missingArgument => "the target is missing"
  | .helpOnMissing => "a command is missing"
  | .help => "help"
  | .version => "version"
  | .unknownCommand => "unknown command"
  | .unknownArgument => "unknown argument"
  | .missingValue => "a value is missing"
  | .badNumber => "a value is not a number of 64 bits"
  | .givenTwice => "an option is given twice"
  | .superfluousValue => "an option that takes no value is given one"

/-- Tells why a command line cannot be followed, or gives the help that it asks for. -/
def reportUsage (error : Command.UsageError) : IO UInt32 := do
  match error with
  | .help =>
    IO.println usageText
    return 0
  | .version =>
    IO.println "1.0.0"
    return 0
  | error =>
    IO.eprintln ("error: " ++ usageMessage error)
    IO.eprintln usageText
    return 2

/-- Runs a request and tells what became of it. -/
def runRequest (request : Command.Request) : IO UInt32 := do
  let read ← systemDisk.readText request.snapshot
  let made ← request.exporter.exportRead request.snapshot read (systemDisk.sink request.target)
  for event in request.journal read made do
    if event.level != .debug then IO.eprintln (eventText event)
  match made.result with
  | .ok _ => return 0
  | .error error =>
    IO.eprintln ("error: " ++ error.message)
    for cause in error.causes do
      IO.eprintln ("caused by: " ++ cause)
    return 1

end TypedCatalog

/-- Runs the command line. The environment may name the snapshot. -/
def main (args : List String) : IO UInt32 := do
  match TypedCatalog.Command.request args (← IO.getEnv "SCHEMAGEN_SNAPSHOT") with
  | .error error => TypedCatalog.reportUsage error
  | .ok request => TypedCatalog.runRequest request
