import TypedCatalog.Text.Blank

/-!
# Notes in comments

A note stands in a comment line by line. What would end the comment is broken up, and white space at
the end of a line is left out.
-/

namespace TypedCatalog

/-- The text with a backslash inside every `*/`. -/
def breakCommentEnd : List Char → List Char
  | [] => []
  | '*' :: '/' :: rest => '*' :: '\\' :: '/' :: breakCommentEnd rest
  | c :: rest => c :: breakCommentEnd rest

/-- One line of a comment: a star, and the line after a space unless it is empty. -/
def commentLine (indent line : List Char) : List Char :=
  if line.isEmpty then indent ++ [' ', '*', '\n'] else indent ++ [' ', '*', ' '] ++ line ++ ['\n']

/-- A line of a note as it stands in a comment. -/
def noteLine (line : List Char) : List Char :=
  breakCommentEnd (Text.trimEnd line)

/-- The lines of a comment that hold a note. -/
def commentText (indent note : List Char) : List Char :=
  (Text.lines note).flatMap fun line => commentLine indent (noteLine line)

/-- The lines of a comment that hold a note, as a string. -/
def comment (indent note : String) : String :=
  String.ofList (commentText indent.toList note.toList)

end TypedCatalog
