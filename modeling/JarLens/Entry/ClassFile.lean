import JarLens.Text.LowerCase
import JarLens.Entry.Path

/-!
# Compiled classes

A class entry is told from a resource by its suffix `.class` in any letter case. From its path
follow the path of its source text and the name of the class.
-/

namespace JarLens.Entry

/-- Whether the path names a compiled class: it ends with `.class` once it is in lower case. -/
def isClass (path : Text) : Bool :=
  Text.endsWith (Text.lower path) ".class".toList

/-- Whether `c` counts as the small letter `small` where case does not matter. The long s counts as
an s. -/
def sameLetter (small c : Char) : Bool :=
  c == small || c == small.toUpper || (small == 's' && c == '\u017f')

/-- Whether a text spells the class suffix in some letter case. -/
def isClassSuffix (t : Text) : Bool :=
  match t with
  | ['.', c, l, a, s, z] =>
    sameLetter 'c' c && sameLetter 'l' l && sameLetter 'a' a && sameLetter 's' s && sameLetter 's' z
  | _ => false

/-- The part of a path before its class suffix and the part after it, which is empty or one line
feed. -/
def cutClassSuffix? (path : Text) : Option (Text × Text) :=
  let n := path.length
  if isClassSuffix (path.drop (n - 6)) then some (path.take (n - 6), [])
  else if path.getLast? = some '\n' && isClassSuffix (path.dropLast.drop (n - 7)) then
    some (path.take (n - 7), ['\n'])
  else none

/-- The path with `suffix` in place of its class suffix. -/
def replaceClassSuffix (suffix path : Text) : Text :=
  match cutClassSuffix? path with
  | some (stem, after) => stem ++ suffix ++ after
  | none => path

/-- The path of the source text that belongs to a class entry. -/
def javaEntry (path : Text) : Text :=
  replaceClassSuffix ".java".toList path

/-- The name of the class that an entry holds: its path with dots for slashes, without the suffix
and without leading dots. -/
def className (path : Text) : Text :=
  Text.trimStart (· == '.') (Text.replaceChar '/' '.' (replaceClassSuffix [] (normalize path)))

end JarLens.Entry
