import TypedCatalog.Command.Request

/-!
# Reading a command line

Arguments are read from left to right. A value that stands in an argument of its own is not judged
at once but when the next known argument comes, or at the end: until then it is `Pending`. So an
unknown argument is the error even if a value before it is bad, while of two known ones the first
counts.
-/

namespace TypedCatalog.Command

/-- A slot that has come, with its value if that has come too. -/
structure Pending where
  /-- The slot. -/
  slot : Slot
  /-- The value. -/
  value : Option String
  deriving DecidableEq, Repr

/-- What has been read of the arguments of the command. -/
structure Progress where
  /-- The values that have been judged. -/
  given : Given
  /-- What has not been judged. -/
  pending : Option Pending
  /-- Whether options may follow. -/
  optionsMayFollow : Bool
  deriving DecidableEq, Repr

namespace Progress

/-- Nothing has been read. -/
def start : Progress := ⟨.nothing, none, true⟩

/-- The values after what is pending has been judged. -/
def judged (progress : Progress) : Except UsageError Given :=
  match progress.pending with
  | none => .ok progress.given
  | some ⟨_, none⟩ => .error .missingValue
  | some ⟨slot, some value⟩ => progress.given.take slot value

/-- Whether the target has come. -/
def hasTarget (progress : Progress) : Bool :=
  progress.given.target.isSome || progress.pending.any (·.slot == .target)

/-- A word that no option waits for. -/
def positional (progress : Progress) (text : String) : Except UsageError Progress :=
  if progress.hasTarget then .error .unknownArgument
  else do return { progress with given := ← progress.judged, pending := some ⟨.target, some text⟩ }

/-- A word. It is the value of the option that waits for one, or else a positional argument. -/
def word (progress : Progress) (text : String) : Except UsageError Progress :=
  match progress.pending with
  | some ⟨slot, none⟩ => .ok { progress with pending := some ⟨slot, some text⟩ }
  | _ => progress.positional text

/-- An option that takes a value. -/
def option (progress : Progress) (slot : Slot) : Option String → Except UsageError Progress
  | none => do return { progress with given := ← progress.judged, pending := some ⟨slot, none⟩ }
  | some value => do
    return { progress with given := ← (← progress.judged).take slot value, pending := none }

/-- An option that takes no value. -/
def switch (progress : Progress) (switch : Switch) : Except UsageError Progress := do
  return { progress with given := ← (← progress.judged).turnOn switch, pending := none }

/-- The option for help. -/
def help (progress : Progress) : Except UsageError Progress := do
  let _ ← progress.judged
  .error .help

/-- A long option. -/
def long (progress : Progress) (name : String) (value : Option String) :
    Except UsageError Progress :=
  match Slot.ofName? name with
  | some slot => progress.option slot value
  | none =>
    match Switch.ofName? name, value with
    | some _, some _ => .error .superfluousValue
    | some switch, none => progress.switch switch
    | none, value =>
      if name ≠ "help" then .error .unknownArgument
      else if value.isSome then .error .superfluousValue
      else progress.help

/-- One argument. -/
def next (progress : Progress) (text : String) : Except UsageError Progress :=
  if progress.optionsMayFollow then
    match Argument.ofText text.toList with
    | .endOfOptions => .ok { progress with optionsMayFollow := false }
    | .long name value => progress.long (String.ofList name) (value.map String.ofList)
    | .short 'h' _ => progress.help
    | .short _ _ => .error .unknownArgument
    | .word => progress.word text
  else progress.positional text

end Progress

/-- The request in the arguments of the command; `environment` may name the snapshot. -/
def generateRequest (arguments : List String) (environment : Option String) :
    Except UsageError Request := do
  let progress ← arguments.foldlM Progress.next .start
  (← progress.judged).request environment

/-- The commands. -/
def commands : List String := ["generate", "help"]

/-- Help on a command, which must exist; no command has commands of its own. -/
def helpOn : List String → UsageError
  | [] => .help
  | [command] => if commands.contains command then .help else .unknownCommand
  | _ => .unknownCommand

/-- The short options that stand before a command. -/
def shortOption : Char → UsageError
  | 'h' => .help
  | 'V' => .version
  | _ => .unknownArgument

/-- The long options that stand before a command. -/
def longOption (name : List Char) (value : Option (List Char)) : UsageError :=
  if name = "help".toList then
    if value.isSome then .superfluousValue else .help
  else if name = "version".toList then
    if value.isSome then .superfluousValue else .version
  else .unknownArgument

/-- The error of a command that follows the end of options. -/
def afterOptions : List String → UsageError
  | [] => .helpOnMissing
  | word :: _ => if commands.contains word then .unknownArgument else .unknownCommand

/-- The request in a command line; `environment` may name the snapshot. -/
def request (arguments : List String) (environment : Option String) :
    Except UsageError Request :=
  match arguments with
  | [] => .error .helpOnMissing
  | "generate" :: rest => generateRequest rest environment
  | "help" :: rest => .error (helpOn rest)
  | first :: rest =>
    match Argument.ofText first.toList with
    | .endOfOptions => .error (afterOptions rest)
    | .long name value => .error (longOption name value)
    | .short option _ => .error (shortOption option)
    | .word => .error .unknownCommand

/-- Exports what a request asks for. -/
def Request.run {m : Type → Type} [Monad m] (request : Request) (disk : Disk m) : m Export :=
  request.exporter.exportFile disk request.snapshot (disk.sink request.target)

end TypedCatalog.Command
