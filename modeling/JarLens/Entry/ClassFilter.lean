import JarLens.Text.Basic

/-!
# Class filters

The decompiler takes a regular expression for the classes to write. `classFilter` is the one that
matches a single name: anchored at both ends, every operator character escaped.
-/

namespace JarLens.Entry

/-- The characters that a regular expression takes for operators unless a backslash precedes them.
-/
def patternOperators : List Char :=
  ['.', '*', '+', '?', '^', '$', '\x7b', '\x7d', '(', ')', '|', '[', ']', '\\']

/-- One character as a literal of a regular expression. -/
def patternLiteral (c : Char) : Text :=
  if c ∈ patternOperators then ['\\', c] else [c]

/-- The regular expression that matches exactly `name`. -/
def classFilter (name : Text) : Text :=
  '^' :: name.flatMap patternLiteral ++ ['$']

end JarLens.Entry
