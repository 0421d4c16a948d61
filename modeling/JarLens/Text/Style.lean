import JarLens.Text.Basic

/-!
# Terminal codes

Texts may hold codes that change colours on a terminal, move its cursor or set its modes: an escape
character and a bracket, then parameters, then marks, then one character that ends the code. What
goes to a file or another program is written without them.
-/

namespace JarLens.Text

/-- Whether the character may stand among the parameters of a code. -/
def isCodeParameter (c : Char) : Bool :=
  '0' ≤ c && c ≤ '?'

/-- Whether the character may stand among the marks of a code. -/
def isCodeMark (c : Char) : Bool :=
  ' ' ≤ c && c ≤ '/'

/-- Whether the character ends a code. -/
def endsCode (c : Char) : Bool :=
  '@' ≤ c && c ≤ '~'

/-- The number of characters that follow the first one in the code that a text starts with. -/
def codeLength? (t : Text) : Option Nat :=
  match dropPrefix? ['\x1b', '['] t with
  | none => none
  | some rest =>
    let parameters := rest.takeWhile isCodeParameter
    let rest := rest.drop parameters.length
    let marks := rest.takeWhile isCodeMark
    match rest.drop marks.length with
    | c :: _ => if endsCode c then some (parameters.length + marks.length + 2) else none
    | [] => none

/-- The text without codes, after the first `skipped` characters. -/
def dropCodes : (skipped : Nat) → Text → Text
  | _, [] => []
  | skipped + 1, _ :: t => dropCodes skipped t
  | 0, c :: t =>
    match codeLength? (c :: t) with
    | some n => dropCodes n t
    | none => c :: dropCodes 0 t

/-- The text without codes. -/
def withoutCodes (t : Text) : Text :=
  dropCodes 0 t

end JarLens.Text
