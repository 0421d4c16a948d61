import JarLens.Text.Number
import JarLens.Text.Utf8

/-!
# Texts of bytes

Scripts, and all values in them, are bytes: their lengths and patterns count bytes, and a byte that
belongs to no character stays as it is. In the shell a `Text` therefore holds one character for each
byte, U+0000 to U+00FF. Only names of files are brought to characters, by `decoded`, and back by
`encoded`.
-/

namespace JarLens.Shell

/-- The text of bytes. -/
def ofBytes (bytes : ByteArray) : Text :=
  bytes.toList.map fun b => Char.ofNat b.toNat

/-- The bytes of a text. -/
def toBytes (t : Text) : ByteArray :=
  t.foldl (fun bytes c => bytes.push c.toNat.toUInt8) (.emptyWithCapacity t.length)

/-- The characters that a text of bytes encodes. -/
def decoded (t : Text) : Text :=
  Text.decodeUtf8 (toBytes t)

/-- The bytes of characters. -/
def encoded (t : Text) : Text :=
  ofBytes (Text.encodeUtf8 t)

/-- Whether a name may start with the character. -/
def isNameStart (c : Char) : Bool :=
  c.isAlpha || c == '_'

/-- Whether a name may go on with the character. -/
def isNameChar (c : Char) : Bool :=
  c.isAlphanum || c == '_'

/-- The name that a text starts with, empty if there is none. -/
def leadingName (t : Text) : Text :=
  if (t.head?).any isNameStart then t.takeWhile isNameChar else []

/-- Whether the whole text is a name. -/
def isName (t : Text) : Bool :=
  t != [] && leadingName t == t

/-- The blanks that separate words. -/
def isBlank (c : Char) : Bool :=
  c == ' ' || c == '\t'

end JarLens.Shell
