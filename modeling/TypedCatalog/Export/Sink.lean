import TypedCatalog.Files.Disk
import TypedCatalog.Generation.Run

/-!
# Sinks

A sink is where the files of an export go. `OutputStore.sink` keeps them as a value, the last one
written under each name, and `Disk.sink` writes them into a directory.
-/

namespace TypedCatalog

/-- Where files are written to. -/
structure Sink (m : Type → Type) where
  /-- Makes ready for the first file. -/
  prepare : m (Except FileFault Unit)
  /-- Writes a file, in the place of one of its name. -/
  write (file : OutputFile) : m (Except FileFault Unit)

instance : Named OutputFile := ⟨OutputFile.name⟩

/-- Files by name, in the order in which the names first came. -/
abbrev OutputStore := Roster OutputFile

namespace OutputStore

/-- The store without files. -/
def empty : OutputStore := Roster.empty

/-- The contents written last under a name. -/
def text? (store : OutputStore) (name : String) : Option String :=
  (store.find? name).map OutputFile.text

@[simp] theorem text?_empty (name : String) : empty.text? name = none := rfl

/-- After a file has been written its name gives its contents, and any other name what it gave. -/
theorem text?_insert (store : OutputStore) (file : OutputFile) (name : String) :
    text? (store.insert file) name =
      if file.name = name then some file.text else store.text? name := by
  rw [text?, Roster.find?_insert]
  by_cases h : file.name = name
  · simp [Named.name, h]
  · simp [Named.name, h, text?]

/-- The store as a sink, which never fails. -/
def sink : Sink (StateM OutputStore) where
  prepare := pure (.ok ())
  write file := do
    modify fun store => store.insert file
    return .ok ()

end OutputStore

/-- The path of a file in a directory. -/
def OutputFile.pathIn (file : OutputFile) (directory : String) : String :=
  Path.join directory file.name

/-- A directory of a disk as a sink. -/
def Disk.sink {m : Type → Type} [Monad m] (disk : Disk m) (directory : String) : Sink m where
  prepare := disk.createDirectories directory
  write file := disk.writeText (file.pathIn directory) file.text

end TypedCatalog
