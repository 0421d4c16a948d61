import JarLens.Shell.Variables
import JarLens.Shell.Opening

/-!
# Commands of the shell itself

A builtin takes its arguments and gives a status. Its options stand first, several letters behind
one dash, and end at two dashes. `speak` lets it speak in its name; what it prints goes to the
normal output.
-/

namespace JarLens.Shell

/-- A command of the shell itself, from its arguments to its status. -/
abbrev Builtin := List Text → Run Nat

namespace Builtin

/-- Prints a text. A text that cannot be printed makes the command fail in the end. -/
def print (t : Text) : Run Nat := do
  if t.isEmpty then pure 0
  else if ← Run.write 1 (toBytes t) then pure 0
  else do
    let name := ((← get).speaker).getD []
    Run.warn (name ++ ": I/O error".toList)
    pure 1

/-- Prints a line. -/
def printLine (t : Text) : Run Nat :=
  print (t ++ ['\n'])

/-- What a letter of an option is, for letters with a colon after those that take an argument. -/
def optionKind (letters : Text) (c : Char) : Option Bool :=
  match letters with
  | [] => none
  | d :: ':' :: rest => if c == d then some true else optionKind rest c
  | d :: rest => if c == d then some false else optionKind rest c

/-- The options among letters that stand behind one dash. A letter with an argument takes the rest
of them, or else the argument that follows. -/
def takeLetters (letters : Text) : (cluster : Text) → (arguments : List Text) →
    Run (List (Char × Text) × List Text)
  | [], arguments => pure ([], arguments)
  | c :: cluster, arguments =>
    match optionKind letters c, cluster, arguments with
    | none, _, _ => Run.fail ("Illegal option -".toList ++ [c])
    | some true, [], [] => Run.fail ("No arg for -".toList ++ c :: " option".toList)
    | some true, [], value :: rest => pure ([(c, value)], rest)
    | some true, value, _ => pure ([(c, value)], arguments)
    | some false, _, _ => do
      let (options, rest) ← takeLetters letters cluster arguments
      pure ((c, []) :: options, rest)

/-- The options among arguments, and the operands. -/
def takeOptions (letters : Text) : (steps : Nat) → List Text → Run (List (Char × Text) × List Text)
  | 0, arguments => pure ([], arguments)
  | steps + 1, arguments =>
    match arguments with
    | ['-', '-'] :: rest => pure ([], rest)
    | ('-' :: c :: cluster) :: rest => do
      let (options, rest) ← takeLetters letters (c :: cluster) rest
      let (more, operands) ← takeOptions letters steps rest
      pure (options ++ more, operands)
    | _ => pure ([], arguments)

/-- The options among arguments, by letters of which those before a colon take an argument, and the
operands. -/
def options (letters : String) (arguments : List Text) : Run (List (Char × Text) × List Text) :=
  takeOptions letters.toList (arguments.length + 1) arguments

/-- Whether an option is among those that were given. -/
def isGiven (c : Char) (given : List (Char × Text)) : Bool :=
  given.any (·.1 == c)

/-- The greatest status that an action gives for the operands, each of which it is done for. -/
def forOperands (f : Text → Run Nat) : List Text → Run Nat
  | [] => pure 0
  | t :: ts => do
    let status ← f t
    let others ← forOperands f ts
    pure (max status others)

/-- A value as a script would write it: in single quotes, single quotes themselves in double
ones. -/
def quotedValue (t : Text) : Text :=
  pieces (t.length + 1) t
where
  /-- The quoted pieces of a text, one even for none. -/
  pieces : (steps : Nat) → Text → Text
    | 0, _ => []
    | steps + 1, t =>
      let plain := t.takeWhile (· != '\x27')
      let rest := t.drop plain.length
      let quotes := rest.takeWhile (· == '\x27')
      let rest := rest.drop quotes.length
      '\x27' :: plain ++ ['\x27'] ++ (if quotes.isEmpty then [] else '"' :: quotes ++ ['"']) ++
        if rest.isEmpty then [] else pieces steps rest

end Builtin

end JarLens.Shell
