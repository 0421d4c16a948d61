import JarLens.Text.Number

/-!
# Size limit

Texts shown to a reader are cut to a number of characters, and a remark says so.
-/

namespace JarLens.Text

/-- The number of characters that are shown of one entry. -/
def shownCharacters : Int := 200000

/-- The remark after a text that was cut to `limit` characters. -/
def cutRemark (limit : Int) : Text :=
  "\n\n// [Truncated output at ".toList ++ ofInt limit ++ " characters]".toList

/-- The text, cut where it is longer than `limit`, and whether it was. -/
def limited (limit : Int) (t : Text) : Text × Bool :=
  if (t.length : Int) ≤ limit then (t, false) else (takeSigned limit t ++ cutRemark limit, true)

/-- The text as shown to a reader. -/
def shown (t : Text) : Text :=
  (limited shownCharacters t).1

end JarLens.Text
