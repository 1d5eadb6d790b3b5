/-!
# Arguments of a command line

An argument is an option, a cluster of short options, the mark after which no options follow, or a
word. Which one it is depends on its first characters alone.
-/

namespace TypedCatalog.Command

/-- Why a command line does not say what to do. -/
inductive UsageError where
  /-- Something that is required is missing. -/
  | missingArgument
  /-- There is no argument at all, so that help is shown. -/
  | helpOnMissing
  /-- Help is asked for. -/
  | help
  /-- The version is asked for. -/
  | version
  /-- There is no such command. -/
  | unknownCommand
  /-- There is no such option, or a word too many. -/
  | unknownArgument
  /-- An option has no value, or a path is empty. -/
  | missingValue
  /-- A value is no number of 64 bits. -/
  | badNumber
  /-- An option is given twice. -/
  | givenTwice
  /-- A switch is given a value. -/
  | superfluousValue
  deriving DecidableEq, Repr

/-- An argument as its form tells it. -/
inductive Argument where
  /-- The mark after which no options follow. -/
  | endOfOptions
  /-- An option with the value that an equals sign may give it. -/
  | long (name : List Char) (value : Option (List Char))
  /-- Short options in one argument. -/
  | short (first : Char) (others : List Char)
  /-- Anything else, such as a single dash. -/
  | word
  deriving DecidableEq, Repr

/-- An option and what follows its first equals sign. -/
def Argument.ofLong (text : List Char) : Argument :=
  .long (text.takeWhile (· != '=')) (text.dropWhile (· != '=')).tail?

/-- The form of an argument. -/
def Argument.ofText : List Char → Argument
  | ['-', '-'] => .endOfOptions
  | '-' :: '-' :: rest => .ofLong rest
  | '-' :: first :: others => .short first others
  | _ => .word

end TypedCatalog.Command
