import JarLens.Text.Basic

/-!
# Words of a line

Cuts a line that is still being typed into words at its blanks. Quotes and backslashes keep
characters together, and those that are still open at the end count as closed.
-/

namespace JarLens.CommandLine

/-- Where a reader of a line is. -/
inductive WordState where
  | between
  | within
  /-- Within quotes of a kind. -/
  | quoted (mark : Char)
  /-- After a backslash, maybe within quotes of a kind. -/
  | escaped (mark : Option Char)

/-- The blanks between words. -/
def isWordBlank (c : Char) : Bool :=
  c == ' ' || c == '\t' || c == '\r' || c == '\n'

/-- The words of a line, the first of them starting with the characters `word` in reverse order. A
word without characters counts only if it was quoted. -/
def splitFrom (state : WordState) (word : Text) (wasQuoted : Bool) : Text → List Text
  | [] =>
    match state with
    | .between => []
    | .within => if word.isEmpty && !wasQuoted then [] else [word.reverse]
    | .quoted _ | .escaped _ => [word.reverse]
  | c :: t =>
    match state with
    | .quoted mark =>
      if c == mark then splitFrom .within word true t
      else if c == '\\' && mark == '"' then splitFrom (.escaped (some mark)) word true t
      else splitFrom state (c :: word) true t
    | .escaped none => splitFrom .within (c :: word) wasQuoted t
    | .escaped (some mark) =>
      let word := if c == mark || c == '\\' then word else '\\' :: word
      splitFrom (.quoted mark) (c :: word) wasQuoted t
    | .between | .within =>
      if isWordBlank c then
        let rest := splitFrom .between [] false t
        if word.isEmpty && !wasQuoted then rest else word.reverse :: rest
      else if c == '"' || c == '\x27' then splitFrom (.quoted c) word wasQuoted t
      else if c == '\\' then splitFrom (.escaped none) word wasQuoted t
      else splitFrom .within (c :: word) wasQuoted t

/-- The words of a line. -/
def words (t : Text) : List Text :=
  splitFrom .between [] false t

end JarLens.CommandLine
