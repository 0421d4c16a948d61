import JarLens.Shell.Utility.Folders
import JarLens.Shell.Utility.Moving
import JarLens.Shell.Utility.Permission
import JarLens.Shell.Utility.Printing
import JarLens.Shell.Utility.Removing

/-!
# The utilities of the system

Which utilities there are, by the names of their files in the folders of the system.
-/

namespace JarLens.Shell.Utility

/-- The utilities by name. -/
def table : List (Text × Utility) :=
  [("cat", cat), ("mkdir", mkdir), ("ln", ln), ("cp", cp), ("rm", rm), ("rmdir", rmdir),
    ("touch", touch), ("mv", mv), ("chmod", chmod), ("readlink", readlink), ("echo", echo),
    ("printf", printf), ("pwd", pwd), ("basename", basename), ("dirname", dirname),
    ("sleep", sleep), ("true", withStatus 0), ("false", withStatus 1), ("test", test),
    ("[", test)].map fun (name, f) => (String.toList name, f)

end JarLens.Shell.Utility
