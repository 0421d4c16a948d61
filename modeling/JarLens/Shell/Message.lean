import JarLens.Text.Number
import JarLens.Text.Printable
import JarLens.Text.Utf8

/-!
# Messages

A message of a utility consists of words and of names. How a name is written depends on the
characters that print: bare where the shell would read it back as one word, between quotes of the
shell, or between quotation marks. Bytes that do not print are written by number.
-/

namespace JarLens.Shell

/-- The single quote. -/
def singleQuote : Char := '\x27'

/-- Whether the shell takes a character for more than itself, wherever it stands in a word. -/
def isSpecial (c : Char) : Bool :=
  c ∈ [' ', '!', '"', '$', '&', singleQuote, '(', ')', '*', ':', ';', '<', '=', '>', '?', '[', '\\',
    '^', '\x60', '|']

/-- Which characters print, and which quotation marks there are. -/
inductive Glyphs where
  | ascii
  | unicode
  deriving DecidableEq

/-- Whether a character prints as itself. -/
def Glyphs.prints (g : Glyphs) (c : Char) : Bool :=
  if c.toNat < 128 then 32 ≤ c.toNat && c.toNat < 127
  else g == .unicode && c != '\ufffd' && Text.isPrintable c

/-- The quotation marks. -/
def Glyphs.marks : Glyphs → Char × Char
  | ascii => (singleQuote, singleQuote)
  | unicode => ('\u2018', '\u2019')

/-- Whether a name has to be quoted. -/
def needsQuotes (g : Glyphs) (name : Text) : Bool :=
  name.any (fun c => isSpecial c || !g.prints c) ||
    match name with
    | [] => true
    | [c] => c ∈ ['#', '~', '\x7b', '\x7d']
    | c :: _ => c ∈ ['#', '~']

/-- Whether a character means the same between single and between double quotes. -/
def isQuoteNeutral (g : Glyphs) (c : Char) : Bool :=
  c.isAlphanum || c ∈ ['%', '+', ',', '-', '.', '/', ':', '@', ']', '_', ' ', singleQuote] ||
    (128 ≤ c.toNat && g.prints c)

/-- A byte that does not print, by its letter or its octal number. -/
def byteEscape (b : UInt8) : Text :=
  match b with
  | 7 => ['\\', 'a'] | 8 => ['\\', 'b'] | 9 => ['\\', 't'] | 10 => ['\\', 'n']
  | 11 => ['\\', 'v'] | 12 => ['\\', 'f'] | 13 => ['\\', 'r']
  | _ =>
    let digits := Nat.toDigits 8 b.toNat
    '\\' :: List.replicate (3 - digits.length) '0' ++ digits

/-- The rest of a name after its opening quote. Escapes stand between quotes of their own, in which
`isEscaping` tells that the text before has ended. -/
def restInQuotes (g : Glyphs) : (isEscaping : Bool) → Text → Text
  | _, [] => [singleQuote]
  | isEscaping, c :: t =>
    if g.prints c then
      (if isEscaping then [singleQuote, singleQuote] else []) ++
        (if c = singleQuote then [c, '\\', c, c] else [c]) ++ restInQuotes g false t
    else
      (if isEscaping then [] else [singleQuote, '$', singleQuote]) ++
        (Text.encodeUtf8 [c]).toList.flatMap byteEscape ++ restInQuotes g true t

/-- A name between quotation marks, with a backslash before the mark that ends it, before another
backslash and before the letter or number of a byte that does not print. -/
def betweenMarks (g : Glyphs) (name : Text) : Text :=
  g.marks.1 :: (name.flatMap fun c =>
    if c = g.marks.2 || c = '\\' then ['\\', c]
    else if g.prints c then [c]
    else (Text.encodeUtf8 [c]).toList.flatMap byteEscape) ++ [g.marks.2]

/-- A name between quotes of the shell. -/
def betweenQuotes (g : Glyphs) (name : Text) : Text :=
  if singleQuote ∈ name && name.all (isQuoteNeutral g) then '"' :: name ++ ['"']
  else singleQuote :: restInQuotes g false name

/-- A part of a message. -/
inductive Phrase where
  | words (t : Text)
  /-- A name between quotes of the shell. -/
  | quoted (name : Text)
  /-- A name between quotes of the shell if it has to be, and bare otherwise. -/
  | bare (name : Text)
  /-- A name between quotation marks. -/
  | marked (name : Text)

/-- A part of a message as it is written. -/
def Phrase.write (g : Glyphs) : Phrase → Text
  | words t => t
  | quoted name => betweenQuotes g name
  | bare name => if needsQuotes g name then betweenQuotes g name else name
  | marked name => betweenMarks g name

/-- A message. -/
structure Message where
  phrases : List Phrase

namespace Message

instance : Append Message :=
  ⟨fun a b => ⟨a.phrases ++ b.phrases⟩⟩

instance : Coe Text Message :=
  ⟨fun t => ⟨[.words t]⟩⟩

/-- A message as it is written. -/
def write (g : Glyphs) (c : Message) : Text :=
  c.phrases.flatMap (Phrase.write g)

end Message

/-- A name between quotes of the shell. -/
def inQuotes (name : Text) : Message :=
  ⟨[.quoted name]⟩

/-- A name between quotation marks. -/
def inMarks (name : Text) : Message :=
  ⟨[.marked name]⟩

/-- A name, between quotes of the shell if it has to be. -/
def nameShown (name : Text) : Message :=
  ⟨[.bare name]⟩

/-- A text between plain quotes, in which nothing is escaped. -/
def betweenPlainQuotes (t : Text) : Text :=
  singleQuote :: t ++ [singleQuote]

end JarLens.Shell
