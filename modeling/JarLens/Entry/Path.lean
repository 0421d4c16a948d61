import JarLens.Text.Basic

/-!
# Entry paths

Archives name their members by paths that may be written with either slash, with repeated slashes
and with slashes at both ends. `normalize` brings them to one spelling in four passes; `segments` is
the reading that all spellings of a path share.
-/

namespace JarLens.Entry

/-- Both slashes separate the segments of a path. -/
def isSeparator (c : Char) : Bool :=
  c == '/' || c == '\\'

/-- The text with every run of slashes as one slash. -/
def collapseSlashes (t : Text) : Text :=
  t.foldr (fun c rest => if c = '/' && rest.head? = some '/' then rest else c :: rest) []

/-- The text without the slash that it ends with. -/
def dropFinalSlash (t : Text) : Text :=
  if t.getLast? = some '/' then t.dropLast else t

/-- The one spelling of a path: no separator at either end, and single slashes inside. -/
def normalize (path : Text) : Text :=
  dropFinalSlash (collapseSlashes (Text.replaceChar '\\' '/' (Text.trimStart isSeparator path)))

/-- The non-empty pieces of a path between separators. -/
def segments (path : Text) : List Text :=
  (Text.splitBy isSeparator path).filter (!·.isEmpty)

end JarLens.Entry
