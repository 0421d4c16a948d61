import JarLens.Report.Json
import JarLens.Report.LogLine
import JarLens.Text.Quoted

/-!
# The form of log lines

A line is written for a reader in columns, or as a JSON object. Lines below a threshold are left
out; the threshold is given by the name of a level.
-/

namespace JarLens

/-- How a level is written. -/
def LogLevel.label : LogLevel → Text
  | debug => "debug".toList
  | info => "info".toList
  | warning => "warning".toList

/-- The rank of a level among all there are names for. -/
def LogLevel.rank : LogLevel → Nat
  | debug => 10
  | info => 20
  | warning => 30

/-- The least rank that is written for the name of a threshold, none for what is no such name. The
threshold `NOTSET` leaves the choice to the general one, which is that of warnings. -/
def thresholdRank? (name : Text) : Option Nat :=
  ([("DEBUG", 10), ("INFO", 20), ("WARN", 30), ("WARNING", 30), ("NOTSET", 30), ("ERROR", 40),
    ("CRITICAL", 50), ("FATAL", 50)].map fun (name, rank) => (String.toList name, rank)).lookup name

/-- The characters that make a text stand quoted. -/
def needsQuotes (t : Text) : Bool :=
  t.any fun c => c ∈ [' ', '\t', '=', '\r', '\n', '"', '\x27']

namespace LogValue

/-- A value for a reader. -/
def toText : LogValue → Text
  | .text t => if needsQuotes t then Text.quoted t else t
  | .texts ts => Text.quotedList ts
  | .number n => Text.ofInt n
  | .none => "None".toList

/-- A value in JSON. -/
def toJson : LogValue → Json
  | .text t => .text t
  | .texts ts => .array (ts.map .text)
  | .number n => .number n
  | .none => .null

end LogValue

namespace LogLine

/-- The width of the column for levels. -/
def levelWidth : Nat := 9

/-- The width of the column for events. -/
def eventWidth : Nat := 30

/-- A line in columns: time, level, event, logger, and the fields by name. -/
def toColumns (time : Text) (l : LogLine) : Text :=
  let fields := l.fields.mergeSort fun a b => Text.le a.1 b.1
  time ++ " [".toList ++ Text.padEnd levelWidth l.level.label ++ "] ".toList ++
    Text.padEnd eventWidth l.event ++ " [".toList ++ l.logger ++ [']'] ++
    fields.flatMap fun (name, value) => ' ' :: name ++ '=' :: value.toText

/-- A line as an object: the fields in order, then event, level, logger and time. -/
def toJsonText (time : Text) (l : LogLine) : Text :=
  (Json.object ((l.fields.map fun (name, value) => (name, value.toJson)) ++
    [("event".toList, .text l.event), ("level".toList, .text l.level.label),
      ("logger".toList, .text l.logger), ("timestamp".toList, .text time)])).compact

end LogLine

/-- Which lines are written, and in which form. -/
structure LogStyle where
  /-- The least rank that is written. -/
  threshold : Nat
  asJson : Bool

/-- The written form of a log. -/
def LogStyle.write (style : LogStyle) (time : Text) (log : List LogLine) : Text :=
  (log.filter fun l => style.threshold ≤ l.level.rank).flatMap fun l =>
    (if style.asJson then l.toJsonText time else l.toColumns time) ++ ['\n']

end JarLens
