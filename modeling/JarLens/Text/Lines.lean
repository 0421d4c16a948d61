import JarLens.Text.Basic

/-!
# Lines

A line ends at any of ten break characters; a carriage return that a line feed follows is one break
with it. A break at the very end of a text starts no further line, so the empty text has no line.
-/

namespace JarLens.Text

/-- Line feed, vertical tab, form feed, carriage return, the file, group and record separators, the
next-line control, and the line and paragraph separators. -/
def isLineBreak (c : Char) : Bool :=
  c == '\n' || c == '\x0b' || c == '\x0c' || c == '\r' || c == '\x1c' || c == '\x1d' ||
    c == '\x1e' || c == '\u0085' || c == '\u2028' || c == '\u2029'

/-- The text without the carriage returns that a line feed follows directly. -/
def unifyBreaks (t : Text) : Text :=
  (t.foldr (fun c (next, out) =>
    (some c, if c = '\r' ∧ next = some '\n' then out else c :: out)) ((none : Option Char), [])).2

/-- The pieces without an empty last one. -/
def dropFinalEmpty (pieces : List Text) : List Text :=
  if pieces.getLast? = some [] then pieces.dropLast else pieces

/-- The lines of a text, without their breaks. -/
def lines (t : Text) : List Text :=
  dropFinalEmpty (splitBy isLineBreak (unifyBreaks t))

/-- The last `n` lines; a number of zero takes all of them, and a negative one leaves out that many
lines at the start. -/
def lastLines (n : Int) (ls : List Text) : List Text :=
  match n with
  | .ofNat 0 => ls
  | .ofNat n => ls.drop (ls.length - n)
  | .negSucc n => ls.drop (n + 1)

end JarLens.Text
