import JarLens.Text.Blank
import JarLens.Text.Printable
import JarLens.Text.Number

/-!
# Groovy literals

Configuration names go into a Groovy script as single-quoted literals, which Groovy takes as they
stand. Names are trimmed, sorted and free of repetition first, so that one set of names has one
spelling.
-/

namespace JarLens.Dependency

/-- The names in one spelling: trimmed, without blank ones and repetitions, by code point. -/
def normalizeNames (names : List (Option Text)) : List Text :=
  sortTexts (distinct ((names.filterMap (·.map Text.strip)).filter (!·.isEmpty)))

/-- The escape of a character that a literal cannot hold as it is. -/
def groovyEscape? (c : Char) : Option Text :=
  if c = '\\' then some ['\\', '\\']
  else if c = '\x27' then some ['\\', '\x27']
  else if c = '\n' then some ['\\', 'n']
  else if c = '\r' then some ['\\', 'r']
  else if c = '\t' then some ['\\', 't']
  else none

/-- A character by its code, in at least four hexadecimal digits. -/
def unicodeEscape (c : Char) : Text :=
  '\\' :: 'u' :: Text.ofHex 4 c.toNat

/-- One character inside a literal: escaped, itself, or by its code when it does not print. -/
def groovyChar (c : Char) : Text :=
  match groovyEscape? c with
  | some escape => escape
  | none => if Text.isPrintable c then [c] else unicodeEscape c

/-- The literal of a text. -/
def groovyString (t : Text) : Text :=
  '\x27' :: t.flatMap groovyChar ++ ['\x27']

/-- The list of literals for a set of names. -/
def groovyList (names : List (Option Text)) : Text :=
  '[' :: Text.join [',', ' '] ((normalizeNames names).map groovyString) ++ [']']

end JarLens.Dependency
