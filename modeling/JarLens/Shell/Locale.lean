import JarLens.Shell.Variables
import JarLens.Shell.Message
import JarLens.Shell.Opening

/-!
# Locales

Which characters print is a matter of the locale that variables name. There are two: the plain one,
and one in which all characters of Unicode print. If a name is that of no locale, the plain one is
taken whatever the others are.
-/

namespace JarLens.Shell

/-- The variables that name the locale for a matter of its own, the one for characters first. -/
def localeMatters : List String :=
  ["LC_CTYPE", "LC_NUMERIC", "LC_TIME", "LC_COLLATE", "LC_MONETARY", "LC_MESSAGES", "LC_PAPER",
    "LC_NAME", "LC_ADDRESS", "LC_TELEPHONE", "LC_MEASUREMENT", "LC_IDENTIFICATION"]

/-- The name of the locale for a matter, given the variables. -/
def localeName (given : List (Text × Text)) (matter : String) : Text :=
  (["LC_ALL", matter, "LANG"].findSome? fun name =>
    (given.lookup name.toList).filter (!·.isEmpty)).getD ['C']

/-- What prints in the locale with a name. -/
def glyphsOf? (name : Text) : Option Glyphs :=
  if name == ['C'] || name == "POSIX".toList then some .ascii
  else
    match name with
    | 'C' :: '.' :: charset =>
      if (charset.filter Char.isAlphanum).map Char.toLower == "utf8".toList then some .unicode
      else none
    | _ => none

/-- What prints, given the variables. -/
def glyphs (given : List (Text × Text)) : Glyphs :=
  match localeMatters.map fun matter => glyphsOf? (localeName given matter) with
  | some g :: others => if others.all (·.isSome) then g else .ascii
  | _ => .ascii

/-- What prints for a program that is started now. -/
def Run.glyphs : Run Glyphs := do
  pure (Shell.glyphs (← Run.exported))

end JarLens.Shell
