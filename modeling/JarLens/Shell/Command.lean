import JarLens.Shell.Bytes

/-!
# Scripts

The shape of scripts of the system's shell, by which tools are started. A word keeps its pieces
apart, since quoting decides what may still happen to each of them; a command holds words, other
commands and redirections. Lines are kept where a message can tell them.
-/

namespace JarLens.Shell

/-- What is made of the value of a parameter. -/
inductive Change where
  | same
  | length
  /-- The argument instead, where there is no value. -/
  | orElse
  /-- The argument instead, which the parameter is set to. -/
  | orAssign
  /-- A failure, where there is no value. -/
  | orFail
  /-- The argument instead, where there is a value. -/
  | butIf
  /-- Without the part at the start that the argument matches, the longest if `greedy` is set. -/
  | withoutStart (greedy : Bool)
  /-- Without the part at the end that the argument matches. -/
  | withoutEnd (greedy : Bool)
  /-- What has no meaning. -/
  | unknown

/-- How a redirection opens a file. -/
inductive OpenMode where
  | read
  | write
  /-- Writing, also over a file that the shell was told to keep. -/
  | overwrite
  | append
  | readWrite
  deriving DecidableEq

mutual

/-- A piece of a word. -/
inductive Piece where
  /-- Text outside of quotes. -/
  | plain (t : Text)
  /-- Text that stands for itself. -/
  | guarded (t : Text)
  /-- What stands between quotes. -/
  | quoted (pieces : List Piece)
  /-- The value of a parameter. With `emptyCounts` an empty value counts as none. -/
  | parameter (name : Text) (change : Change) (emptyCounts : Bool) (argument : List Piece)
  /-- What a command prints. -/
  | output (command : Option Command)
  /-- The value of an expression. -/
  | arithmetic (expression : List Piece)

/-- A redirection of a descriptor. -/
inductive Redirection where
  | file (descriptor : Nat) (mode : OpenMode) (path : List Piece)
  /-- To where another descriptor leads, or to nowhere. -/
  | duplicate (descriptor : Nat) (source : Option Nat)
  /-- To where the descriptor leads that a word tells. -/
  | duplicateTold (descriptor : Nat) (source : List Piece)
  /-- From a text in the script, by its number from 0. -/
  | document (descriptor number : Nat)

/-- A command. -/
inductive Command where
  | simple (line : Nat) (assignments words : List (List Piece)) (redirections : List Redirection)
  | redirected (line : Nat) (command : Command) (redirections : List Redirection)
  | pipeline (commands : List Command)
  | subshell (line : Nat) (command : Command) (redirections : List Redirection)
  | background (line : Nat) (command : Command) (redirections : List Redirection)
  | sequence (first second : Command)
  | both (first second : Command)
  | either (first second : Command)
  | negated (command : Command)
  | choice (condition yes : Command) (no : Option Command)
  /-- A loop while the condition succeeds, or fails if `isUntil` is set. -/
  | loop (isUntil : Bool) (condition body : Command)
  | each (line : Nat) (name : Text) (words : List (List Piece)) (body : Command)
  | cases (line : Nat) (subject : List Piece) (arms : List (List (List Piece) × Option Command))
  /-- The definition of a function, on the line where its body may start. -/
  | function (line : Nat) (name : Text) (body : Command)

end

/-- A word, in pieces. -/
abbrev Word := List Piece

/-- The text of a word without quotes and values. -/
def plainText? (w : Word) : Option Text :=
  w.foldr (fun piece t => match piece, t with
    | .plain p, some t => some (p ++ t)
    | _, _ => none) (some [])

/-- The word for all parameters, each for itself. -/
def allParameters : Word :=
  [.quoted [.parameter ['@'] .same false []]]

/-- Whether a word sets a variable. -/
def isAssignment : Word → Bool
  | .plain t :: _ =>
    let name := leadingName t
    name != [] && (t.drop name.length).head? == some '='
  | _ => false

end JarLens.Shell
