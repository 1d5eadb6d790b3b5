/-!
# What can go wrong with files

The faults of reading and writing files, with the wording of a Linux system.
-/

namespace TypedCatalog

/-- Why a file operation failed. -/
inductive FileFault where
  /-- There is nothing at the path. -/
  | notFound
  /-- There is something at the path already. -/
  | exists
  /-- A part of the path that must be a directory is a file. -/
  | notDirectory
  /-- There is a directory at the path. -/
  | isDirectory
  /-- A name in the path, or the path, is too long. -/
  | nameTooLong
  /-- The bytes of a file are no text. -/
  | invalidText
  /-- The path holds the character zero. -/
  | zeroInPath
  /-- Any other fault, in the words of whoever reports it. -/
  | other (text : String)
  deriving DecidableEq, Repr

/-- The wording of a fault. -/
def FileFault.message : FileFault → String
  | .notFound => "No such file or directory (os error 2)"
  | .exists => "File exists (os error 17)"
  | .notDirectory => "Not a directory (os error 20)"
  | .isDirectory => "Is a directory (os error 21)"
  | .nameTooLong => "File name too long (os error 36)"
  | .invalidText => "stream did not contain valid UTF-8"
  | .zeroInPath => "file name contained an unexpected NUL byte"
  | .other text => text

end TypedCatalog
