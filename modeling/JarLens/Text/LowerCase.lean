import JarLens.Text.Basic
import JarLens.Text.CaseTable

/-!
# Lower case

Full lower-casing of a text. Two rules go beyond a table of single code points:

- the capital I with a dot above becomes a small i and a combining dot, two characters;
- a capital sigma at the end of a word becomes the final small sigma. It ends a word when a cased
  letter precedes it and none follows, case-ignorable characters in between being skipped.
-/

namespace JarLens.Text

/-- Whether a word may hold the character without its being a letter. -/
def isCaseIgnorable (c : Char) : Bool :=
  inSpans caseIgnorableSpans c.toNat

/-- Whether the character is a letter with a case. -/
def isCased (c : Char) : Bool :=
  inSpans casedSpans c.toNat

/-- The small letter of one code point that a character has, itself without one. -/
def smallLetter (c : Char) : Char :=
  if c.toNat < 128 then c.toLower
  else match caseRuns.find? (·.holds c.toNat) with
    | some run => Char.ofNat (c.toNat + run.shift).toNat
    | none => c

/-- Whether the first character that is not case-ignorable is a letter with a case. -/
def meetsCased (t : Text) : Bool :=
  match t.dropWhile isCaseIgnorable with
  | [] => false
  | c :: _ => isCased c

/-- The lower case of `c` between the reversed text `before` it and the text `after` it. -/
def lowerBetween (before : Text) (c : Char) (after : Text) : Text :=
  if c = '\u03a3' then
    if meetsCased before && !meetsCased after then ['\u03c2'] else ['\u03c3']
  else if c = '\u0130' then ['i', '\u0307']
  else [smallLetter c]

/-- The lower case of `t`, standing after the reversed text `before`. -/
def lowerAfter : (before t : Text) → Text
  | _, [] => []
  | before, c :: t => lowerBetween before c t ++ lowerAfter (c :: before) t

/-- The text in lower case. -/
def lower (t : Text) : Text :=
  lowerAfter [] t

end JarLens.Text
