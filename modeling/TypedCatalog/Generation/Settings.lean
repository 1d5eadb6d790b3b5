/-!
# Settings of a run

The names of the files and of the index, what to do about collisions, and the limits of a run.
-/

namespace TypedCatalog

/-- What to do where two units would have one file name. -/
inductive CollisionPolicy where
  /-- Fail before anything is generated. -/
  | reject
  /-- Generate all; the later unit takes the place of the earlier one. -/
  | overwrite
  deriving DecidableEq, Repr

/-- The settings of a run. -/
structure Settings where
  /-- The extension of file names, without its dot. -/
  extension : String
  /-- The name of the index type. -/
  indexName : String
  /-- The file name of the index without extension. -/
  indexStem : String
  /-- What to do about collisions. -/
  collisions : CollisionPolicy
  /-- How many entities may be worked on at once. -/
  concurrency : Nat
  /-- The time limit of a lookup, in milliseconds. -/
  lookupLimit : Option Nat
  deriving DecidableEq, Repr

namespace Settings

/-- The settings where nothing else is said. -/
def standard : Settings := ⟨"ts", "Collections", "index", .reject, 1, none⟩

instance : Inhabited Settings := ⟨standard⟩

/-- The settings with another extension, of which dots at the beginning are left out. -/
def withExtension (settings : Settings) (extension : String) : Settings :=
  { settings with extension := String.ofList (extension.toList.dropWhile (· == '.')) }

/-- The settings with another limit on the entities in flight; at least one is. -/
def withConcurrency (settings : Settings) (concurrency : Nat) : Settings :=
  { settings with concurrency := max concurrency 1 }

/-- The name of a file without extension given. -/
def fileName (settings : Settings) (stem : String) : String :=
  if settings.extension.isEmpty then stem else stem ++ "." ++ settings.extension

end Settings

end TypedCatalog
