import JarLens.Text.Basic

/-!
# File names

A file name's extension starts at its last dot, unless only dots precede that one in the name.
-/

namespace JarLens.Dependency

/-- The parts of a text before and after its last slash, the slash going with the first part. -/
def cutFolder (t : Text) : Text × Text :=
  match Text.cutLast? '/' t with
  | some (folder, name) => (folder ++ ['/'], name)
  | none => ([], t)

/-- A file name without its extension, and the extension with its dot. -/
def splitExtension (fileName : Text) : Text × Text :=
  let (folder, name) := cutFolder fileName
  match Text.cutLast? '.' name with
  | some (stem, extension) =>
    if stem.any (· != '.') then (folder ++ stem, '.' :: extension) else (fileName, [])
  | none => (fileName, [])

end JarLens.Dependency
