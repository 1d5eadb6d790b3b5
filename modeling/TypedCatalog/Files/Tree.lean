import TypedCatalog.Files.Disk

/-!
# A tree of files

A `FileTree` holds files and directories by the names that lead to them from the root, and has a
working directory at which relative paths begin. A path is walked name by name, and the walk fails
at the first name that does not lead on: that, and not what the path would lead to, decides the
fault.
-/

namespace TypedCatalog

/-- What stands at a place. -/
inductive FileEntry where
  /-- A file with its bytes. -/
  | file (bytes : ByteArray)
  /-- A directory. -/
  | directory

/-- Whether a directory stands at a place. -/
def FileEntry.isDirectory : FileEntry → Bool
  | .file _ => false
  | .directory => true

/-- The names that lead from the root to a file or directory. -/
abbrev FilePlace := List String

/-- Files and directories. -/
structure FileTree where
  /-- What there is, by place; the root is always there. -/
  entries : List (FilePlace × FileEntry)
  /-- Where relative paths begin. -/
  workingDirectory : FilePlace

namespace FileTree

/-- The greatest length of a name, in bytes. -/
def maxNameLength : Nat := 255

/-- The greatest length of a path, in bytes. -/
def maxPathLength : Nat := 4095

/-- What stands at a place. -/
def get? (tree : FileTree) (place : FilePlace) : Option FileEntry :=
  if place.isEmpty then some .directory else (tree.entries.find? (·.1 == place)).map (·.2)

/-- The tree with `entry` at a place. -/
def put (tree : FileTree) (place : FilePlace) (entry : FileEntry) : FileTree :=
  { tree with entries := (place, entry) :: tree.entries.filter (·.1 != place) }

/-- After an entry has been put at a place, it stands there, and every other place is as it was. -/
theorem get?_put (tree : FileTree) {place : FilePlace} (hplace : place ≠ []) (entry : FileEntry)
    (other : FilePlace) :
    (tree.put place entry).get? other =
      if place = other then some entry else tree.get? other := by
  by_cases h : place = other
  · subst h
    simp [get?, put, hplace]
  · have hfind : (tree.entries.filter (·.1 != place)).find? (·.1 == other) =
        tree.entries.find? (·.1 == other) := by
      induction tree.entries with
      | nil => rfl
      | cons first rest ih =>
        by_cases hf : first.1 = place
        · have : ¬ first.1 = other := fun e => h (hf ▸ e)
          simp [hf, h, ih]
        · by_cases ho : first.1 = other <;> simp [hf, ho, ih]
          have : ¬ other = place := fun e => h e.symm
          simp [this]
    simp [get?, put, h, hfind]

/-- Fails unless there is a directory at the place. -/
def requireDirectory (tree : FileTree) (place : FilePlace) : Except FileFault Unit :=
  match tree.get? place with
  | some .directory => .ok ()
  | some (.file _) => .error .notDirectory
  | none => .error .notFound

/-- Whether a part of a path is not the name of anything. -/
def isRelativeStep (part : String) : Bool :=
  Path.isIdle part || part == ".."

/-- The place that one part of a path leads to. -/
def step (tree : FileTree) (place : FilePlace) (part : String) : Except FileFault FilePlace := do
  tree.requireDirectory place
  if Path.isIdle part then .ok place
  else if part == ".." then .ok place.dropLast
  else if maxNameLength < part.utf8ByteSize then .error .nameTooLong
  else if (tree.get? (place ++ [part])).isSome then .ok (place ++ [part])
  else .error .notFound

/-- Fails for texts that are no paths. -/
def checkPath (path : String) : Except FileFault Unit :=
  if path.toList.any (·.toNat == 0) then .error .zeroInPath
  else if path.isEmpty then .error .notFound
  else if maxPathLength < path.utf8ByteSize then .error .nameTooLong
  else .ok ()

/-- Where a path begins. -/
def start (tree : FileTree) (path : String) : FilePlace :=
  if Path.isAbsolute path then [] else tree.workingDirectory

/-- The place that a path leads to. -/
def locate (tree : FileTree) (path : String) : Except FileFault FilePlace := do
  checkPath path
  (Path.parts path).foldlM tree.step (tree.start path)

/-- Where the last step of a path is to be taken. -/
structure LastStep where
  /-- The directory that the path leads to before it. -/
  parent : FilePlace
  /-- The last part; it is empty if the path is the root. -/
  part : String
  /-- Whether a slash follows. -/
  slash : Bool

/-- Walks a path up to its last step. -/
def lastStep (tree : FileTree) (path : String) : Except FileFault LastStep := do
  checkPath path
  let reversed := (Path.parts path).reverse
  let named := reversed.dropWhile (· == "")
  let parent ← named.tail.reverse.foldlM tree.step (tree.start path)
  tree.requireDirectory parent
  return ⟨parent, named.headD "", named.length < reversed.length⟩

/-- Whether a path leads to a directory. -/
def isDirectory (tree : FileTree) (path : String) : Bool :=
  match tree.locate path with
  | .ok place => (tree.get? place).any (·.isDirectory)
  | .error _ => false

/-- The text of the file at a path. -/
def readText (tree : FileTree) (path : String) : Except FileFault String := do
  match tree.get? (← tree.locate path) with
  | some (.file bytes) =>
    match String.fromUTF8? bytes with
    | some text => .ok text
    | none => .error .invalidText
  | some .directory => .error .isDirectory
  | none => .error .notFound

/-- The tree with a file of the given bytes at a path; its directory must be there. -/
def writeBytes (tree : FileTree) (path : String) (bytes : ByteArray) :
    Except FileFault FileTree := do
  let last ← tree.lastStep path
  if isRelativeStep last.part || last.slash then .error .isDirectory
  else if maxNameLength < last.part.utf8ByteSize then .error .nameTooLong
  else
    let place := last.parent ++ [last.part]
    if (tree.get? place).any (·.isDirectory) then .error .isDirectory
    else .ok (tree.put place (.file bytes))

/-- The tree with a directory at a path where nothing is; the one above it must be there. -/
def makeDirectory (tree : FileTree) (path : String) : Except FileFault FileTree := do
  let last ← tree.lastStep path
  if isRelativeStep last.part then .error .exists
  else if maxNameLength < last.part.utf8ByteSize then .error .nameTooLong
  else
    let place := last.parent ++ [last.part]
    if (tree.get? place).isSome then .error .exists else .ok (tree.put place .directory)

/-- The tree as a disk; a fault leaves it unchanged. -/
def disk : Disk (StateM FileTree) where
  readText path := do return (← get).readText path
  makeDirectory path := do
    match (← get).makeDirectory path with
    | .ok tree =>
      set tree
      return .ok ()
    | .error fault => return .error fault
  isDirectory path := do return (← get).isDirectory path
  writeText path text := do
    match (← get).writeBytes path text.toUTF8 with
    | .ok tree =>
      set tree
      return .ok ()
    | .error fault => return .error fault

/-! ### What is there -/

/-- The tree with only the root and the directories that lead to the working directory. -/
def ofWorkingDirectory (place : FilePlace) : FileTree where
  entries := (List.range place.length).map fun n => (place.take (n + 1), .directory)
  workingDirectory := place

/-- What is below the working directory, by path from there. -/
def below (tree : FileTree) : List (String × FileEntry) :=
  tree.entries.filterMap fun (place, entry) =>
    if tree.workingDirectory.isPrefixOf place && tree.workingDirectory.length < place.length then
      some ("/".intercalate (place.drop tree.workingDirectory.length), entry)
    else none

/-- The directories below the working directory, sorted. -/
def directories (tree : FileTree) : List String :=
  ((tree.below.filter (·.2.isDirectory)).map (·.1)).mergeSort

/-- The files below the working directory with their bytes. -/
def files (tree : FileTree) : List (String × ByteArray) :=
  tree.below.filterMap fun (path, entry) =>
    match entry with
    | .file bytes => some (path, bytes)
    | .directory => none

end FileTree

end TypedCatalog
