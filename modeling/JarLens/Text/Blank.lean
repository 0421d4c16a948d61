import JarLens.Text.Span
import JarLens.Text.Basic

/-!
# Blank characters

The white space of the Unicode standard together with the four information separators
U+001C to U+001F. `strip` removes it at both ends.
-/

namespace JarLens.Text

/-- The spans of blank characters. -/
def blankSpans : List (Nat × Nat) :=
  [(0x09, 0x0d), (0x1c, 0x20), (0x85, 0x85), (0xa0, 0xa0), (0x1680, 0x1680), (0x2000, 0x200a),
    (0x2028, 0x2029), (0x202f, 0x202f), (0x205f, 0x205f), (0x3000, 0x3000)]

/-- Whether the character is white space. -/
def isBlank (c : Char) : Bool :=
  inSpans blankSpans c.toNat

/-- The text without leading and trailing white space. -/
def strip (t : Text) : Text :=
  trimEnd isBlank (trimStart isBlank t)

end JarLens.Text
