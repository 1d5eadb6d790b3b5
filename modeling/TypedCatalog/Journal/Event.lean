/-!
# Events

A journal is the list of what a run tells about itself, in order. An event has a level, a message
that is the same for all events of its kind, and details with what is particular to it.
-/

namespace TypedCatalog

/-- How much an event matters. -/
inductive Level where
  /-- Of interest to those who look for the cause of a problem. -/
  | debug
  /-- Of interest to every user. -/
  | info
  /-- Something may not be as it should. -/
  | warn
  deriving DecidableEq, Repr

/-- The word for a level. -/
def Level.text : Level → String
  | debug => "DEBUG"
  | info => "INFO"
  | warn => "WARN"

/-- The value of an event's field. -/
inductive Detail where
  /-- A text. -/
  | text (s : String)
  /-- A number of things. -/
  | count (n : Nat)
  deriving DecidableEq, Repr

/-- An event of a run. -/
structure Event where
  /-- How much it matters. -/
  level : Level
  /-- What happened. -/
  message : String
  /-- Names and values of what is particular to it. -/
  details : List (String × Detail)
  deriving DecidableEq, Repr

/-- The events of a run, in order. -/
abbrev Journal := List Event

end TypedCatalog
