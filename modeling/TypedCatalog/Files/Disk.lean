import TypedCatalog.Files.Fault
import TypedCatalog.Files.Path

/-!
# Disks

The file operations that an export needs. A disk may be the one of the system or a tree of files
that is held as a value. `Disk.createDirectories` makes a directory together with those above it.
-/

namespace TypedCatalog

/-- Reads and writes files by path. -/
structure Disk (m : Type → Type) where
  /-- The text of a file. -/
  readText (path : String) : m (Except FileFault String)
  /-- Makes a directory where nothing is; the one above it must be there. -/
  makeDirectory (path : String) : m (Except FileFault Unit)
  /-- Whether there is a directory at a path. -/
  isDirectory (path : String) : m Bool
  /-- Writes a file, in the place of one that is there. -/
  writeText (path text : String) : m (Except FileFault Unit)

namespace Disk

variable {m : Type → Type} [Monad m]

/-- Makes a directory, or leaves the one that is there. -/
def ensureDirectory (disk : Disk m) (path : String) : m (Except FileFault Unit) := do
  match ← disk.makeDirectory path with
  | .error .exists =>
    if ← disk.isDirectory path then return .ok () else return .error .exists
  | result => return result

/-- Makes directories at the first of the paths and, as far as they are missing, at the others,
each of which is above the one before. What has been made stays even if a path fails. -/
def ensureDirectories (disk : Disk m) : List String → m (Except FileFault Unit)
  | [] => pure (.ok ())
  | path :: above => do
    match ← disk.ensureDirectory path with
    | .error .notFound =>
      match ← disk.ensureDirectories above with
      | .ok () => disk.ensureDirectory path
      | .error fault => return .error fault
    | result => return result

/-- Makes a directory, and those above it as far as they are missing. The empty path needs none. -/
def createDirectories (disk : Disk m) (path : String) : m (Except FileFault Unit) :=
  if path.isEmpty then pure (.ok ()) else disk.ensureDirectories (Path.ancestors path)

end Disk

end TypedCatalog
