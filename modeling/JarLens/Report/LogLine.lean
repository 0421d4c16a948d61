import JarLens.Text.Basic

/-!
# Log lines

What the program tells about its own work, as events with fields. How a line is written is decided
where the program's output is made.
-/

namespace JarLens

/-- How much a log line matters. -/
inductive LogLevel where
  | debug
  | info
  | warning
  deriving DecidableEq, Repr

/-- The value of a field. -/
inductive LogValue where
  | text (t : Text)
  | texts (ts : List Text)
  | number (n : Int)
  | none
  deriving DecidableEq

/-- One line of the log. -/
structure LogLine where
  level : LogLevel
  /-- The part of the program that speaks. -/
  logger : Text
  event : Text
  fields : List (Text × LogValue)
  deriving DecidableEq

end JarLens
