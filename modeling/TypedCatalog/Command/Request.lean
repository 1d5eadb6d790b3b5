import TypedCatalog.Command.Usage
import TypedCatalog.Export.Exporter
import TypedCatalog.Text.Digits

/-!
# What a command line asks for

`Request` is what the one command that generates declarations needs to know, and `Given` the values
that a command line has given so far. A value is checked when it is taken: no option may come twice,
paths may not be empty, and numbers must have 64 bits.
-/

namespace TypedCatalog.Command

/-- A request to generate declarations. -/
structure Request where
  /-- The directory to write to. -/
  target : String
  /-- The snapshot to read. -/
  snapshot : String
  /-- How to export it. -/
  exporter : Exporter
  deriving DecidableEq, Repr

/-- What takes a value. -/
inductive Slot where
  /-- The directory to write to, the only one that is not an option. -/
  | target
  /-- The snapshot to read. -/
  | snapshot
  /-- The extension of files. -/
  | extension
  /-- The name of the index type. -/
  | indexName
  /-- The number of entities in flight. -/
  | concurrency
  /-- The time limit of a lookup. -/
  | lookupLimit
  deriving DecidableEq, Repr

/-- What is either given or not. -/
inductive Switch where
  /-- Let a later unit overwrite an earlier one. -/
  | allowCollisions
  /-- Fail on problems with relations. -/
  | strict
  deriving DecidableEq, Repr

/-- The option of a name. -/
def Slot.ofName? : String → Option Slot
  | "snapshot" => some .snapshot
  | "extension" => some .extension
  | "index-name" => some .indexName
  | "concurrency" => some .concurrency
  | "metadata-timeout-ms" => some .lookupLimit
  | _ => none

/-- The switch of a name. -/
def Switch.ofName? : String → Option Switch
  | "allow-collisions" => some .allowCollisions
  | "strict" => some .strict
  | _ => none

/-- The values given so far. -/
structure Given where
  /-- The directory to write to. -/
  target : Option String
  /-- The snapshot to read. -/
  snapshot : Option String
  /-- The extension of files. -/
  extension : Option String
  /-- The name of the index type. -/
  indexName : Option String
  /-- The number of entities in flight. -/
  concurrency : Option Nat
  /-- The time limit of a lookup. -/
  lookupLimit : Option Nat
  /-- The switches. -/
  switches : List Switch
  deriving DecidableEq, Repr

/-- A command line without arguments. -/
def Given.nothing : Given := ⟨none, none, none, none, none, none, []⟩

/-- The number in decimal digits, of which there must be at least one. -/
def decimal? : List Char → Option Nat
  | [] => none
  | digits =>
    digits.foldl
      (fun sum c => do return 10 * (← sum) + (← Text.digitValue? c)) (some 0)

/-- A number of 64 bits; a plus sign may stand in front. -/
def number (text : String) : Except UsageError Nat :=
  let digits :=
    match text.toList with
    | '+' :: rest => rest
    | all => all
  match decimal? digits with
  | some n => if n < Nat.pow 2 64 then .ok n else .error .badNumber
  | none => .error .badNumber

/-- A path, which must not be empty. -/
def path (text : String) : Except UsageError String :=
  if text.isEmpty then .error .missingValue else .ok text

namespace Given

/-- Whether a slot has a value. -/
def has (given : Given) : Slot → Bool
  | .target => given.target.isSome
  | .snapshot => given.snapshot.isSome
  | .extension => given.extension.isSome
  | .indexName => given.indexName.isSome
  | .concurrency => given.concurrency.isSome
  | .lookupLimit => given.lookupLimit.isSome

/-- The values with the value of a slot that has none. -/
def set (given : Given) (slot : Slot) (text : String) : Except UsageError Given :=
  match slot with
  | .target => do return { given with target := some (← path text) }
  | .snapshot => do return { given with snapshot := some (← path text) }
  | .extension => .ok { given with extension := some text }
  | .indexName => .ok { given with indexName := some text }
  | .concurrency => do return { given with concurrency := some (← number text) }
  | .lookupLimit => do return { given with lookupLimit := some (← number text) }

/-- The values with one more. -/
def take (given : Given) (slot : Slot) (text : String) : Except UsageError Given :=
  if given.has slot then .error .givenTwice else given.set slot text

/-- The values with one more switch. -/
def turnOn (given : Given) (switch : Switch) : Except UsageError Given :=
  if given.switches.contains switch then .error .givenTwice
  else .ok { given with switches := switch :: given.switches }

/-- The settings that the values ask for. -/
def settings (given : Given) : Settings :=
  let settings := (Settings.standard.withExtension (given.extension.getD "ts")).withConcurrency
    (given.concurrency.getD 1)
  { settings with
    indexName := given.indexName.getD settings.indexName
    collisions := if given.switches.contains .allowCollisions then .overwrite else .reject
    lookupLimit := given.lookupLimit }

/-- The request that the values amount to. The snapshot may be named by the environment, which must
not name an empty path then. -/
def request (given : Given) (environment : Option String) : Except UsageError Request := do
  let snapshot ←
    match given.snapshot, environment with
    | some snapshot, _ => .ok snapshot
    | none, some named => path named
    | none, none => .ok "schema-snapshot.json"
  match given.target with
  | none => .error .missingArgument
  | some target =>
    return ⟨target, snapshot, ⟨given.settings, given.switches.contains .strict⟩⟩

end Given

end TypedCatalog.Command
