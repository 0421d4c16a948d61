import JarLens.Shell.Builtin.Folder
import JarLens.Shell.Builtin.Names
import JarLens.Shell.Builtin.Printing
import JarLens.Shell.Builtin.Signals
import JarLens.Shell.Builtin.Variables

/-!
# Builtins for control

Leaving loops, functions and the script; and the table of all builtins that need no more than their
arguments.
-/

namespace JarLens.Shell.Builtin

/-- Skips to the end of as many loops as the argument says, at most of those that are running. -/
def skipLoops (skip : Nat → Skip) : Builtin := fun arguments => do
  let n ← match arguments with
    | [] => pure 1
    | t :: _ => do
      let n ← Run.number t
      if n == 0 then Run.refuseNumber t else pure n
  let n := min n (← get).loops
  if 0 < n then modify fun p => { p with skip := some (skip n) }
  pure 0

/-- Skips to the end of the function or file that runs, with a status. -/
def leaveFunction : Builtin := fun arguments => do
  match arguments with
  | [] => do
    modify fun p => { p with skip := some (.function true) }
    pure (← get).status
  | t :: _ => do
    let status ← Run.number t
    modify fun p => { p with skip := some (.function false) }
    pure status

/-- Ends the process, with a status. -/
def exit : Builtin := fun arguments => do
  match arguments with
  | [] => throw .exit
  | t :: _ => do
    let status ← Run.number t
    modify fun p => { p with settled := some status }
    throw .exit

/-- The builtins by name. -/
def table : List (Text × Builtin) :=
  [(":", withStatus 0), ("[", bracket), ("alias", makeAliases), ("bg", continueJob),
    ("break", skipLoops .loops), ("cd", cd), ("chdir", cd), ("command", commandMeaning),
    ("continue", skipLoops .rounds), ("echo", echo), ("exit", exit), ("export", exportVariables),
    ("false", withStatus 1), ("fg", continueJob), ("getopts", getopts), ("hash", hash),
    ("jobs", jobs), ("kill", kill), ("local", localVariables), ("printf", printf),
    ("pwd", pwd), ("read", read), ("readonly", protectVariables), ("return", leaveFunction),
    ("set", set), ("shift", shift), ("test", test), ("times", times), ("trap", trap),
    ("true", withStatus 0), ("type", type), ("ulimit", ulimit), ("umask", umask),
    ("unalias", removeAliases), ("unset", unset), ("wait", wait)].map fun (name, f) =>
      (String.toList name, f)

end JarLens.Shell.Builtin
