import JarLens.Project.Kind
import JarLens.Text.Blank
import JarLens.Text.Lines

/-!
# Outcomes of tools

What a tool left behind: its exit code, what it wrote, and the project it ran in. The tail of an
outcome is what is told of it: the last lines of its errors, or of its output if there are none.
-/

namespace JarLens

/-- What running a tool gave. -/
structure Outcome where
  exitCode : Option Int
  stdout : Text
  stderr : Text
  project : Detection
  deriving DecidableEq

namespace Outcome

/-- Whether the tool succeeded. -/
def ok (o : Outcome) : Bool :=
  o.exitCode == some 0

/-- The text of which the tail is taken. -/
def told (o : Outcome) : Text :=
  let errors := Text.strip o.stderr
  if errors = [] then Text.strip o.stdout else errors

/-- The last `n` lines of what is told of the outcome. -/
def tail (o : Outcome) (n : Int) : Text :=
  Text.join ['\n'] (Text.lastLines n (Text.lines o.told))

end Outcome

end JarLens
