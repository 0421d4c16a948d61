import JarLens.Text.Blank
import JarLens.Text.LowerCase
import JarLens.Text.UpperCase

/-!
# The environment

Variables by name, and the settings that the program takes from them.
-/

namespace JarLens

/-- The variables of the environment. -/
structure Environment where
  bindings : List (Text × Text) := []
  deriving DecidableEq

namespace Environment

/-- The value of a variable. -/
def get? (e : Environment) (name : Text) : Option Text :=
  e.bindings.lookup name

/-- The environment without a variable. -/
def erase (e : Environment) (name : Text) : Environment :=
  ⟨e.bindings.filter (·.1 != name)⟩

/-- The environment with a variable set. -/
def set (e : Environment) (name value : Text) : Environment :=
  ⟨(e.erase name).bindings ++ [(name, value)]⟩

/-- The trimmed value of a variable, or `fallback` when it is blank or not set. -/
def setting (e : Environment) (name fallback : Text) : Text :=
  let value := Text.strip ((e.get? name).getD [])
  if value = [] then fallback else value

/-- The folders that are searched where no search path is set. -/
def defaultSearchPath : Text :=
  "/bin:/usr/bin".toList

/-- The paths at which a command may lie: itself when it has a slash, and otherwise one in each
folder of the search path. -/
def programPaths (e : Environment) (command : Text) : List Text :=
  if '/' ∈ command then [command]
  else
    (Text.splitOn ':' ((e.get? "PATH".toList).getD defaultSearchPath)).map fun folder =>
      if folder = [] || folder.getLast? = some '/' then folder ++ command
      else folder ++ '/' :: command

/-- The least level of log lines that are written. -/
def logLevel (e : Environment) : Text :=
  Text.upper (e.setting "JAR_VIEWER_LOG_LEVEL".toList "INFO".toList)

/-- The form of log lines. -/
def logFormat (e : Environment) : Text :=
  Text.lower (e.setting "JAR_VIEWER_LOG_FORMAT".toList "console".toList)

/-- Where the decompiler lies, if that is set. -/
def decompilerOverride? (e : Environment) : Option Text :=
  (e.get? "JAR_VIEWER_CFR_JAR".toList).filter (· != [])

/-- The command that runs the decompiler. -/
def java (e : Environment) : Text :=
  e.setting "JAR_VIEWER_JAVA".toList "java".toList

/-- The command that prints the signatures of a class. -/
def javap (e : Environment) : Text :=
  e.setting "JAR_VIEWER_JAVAP".toList "javap".toList

end Environment

end JarLens
