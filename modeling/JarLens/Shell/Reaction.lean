import JarLens.Shell.Children

/-!
# Reactions to signals

What a signal does to a process. Most of them end it unless something else is said.
-/

namespace JarLens.Shell

/-- The signals that stop a process, and the one that lets it go on. -/
def stoppingSignals : List Nat :=
  [19, 20, 21, 22]

/-- The signal that lets a stopped process go on. -/
def continueSignal : Nat := 18

/-- The signal that stops a process, whatever is said about it. -/
def stopSignal : Nat := 19

/-- The signals that do nothing where nothing is said about them. -/
def harmlessSignals : List Nat :=
  [0, 17, 18, 23, 28]

/-- The signal for a process of which a child has ended. -/
def childSignal : Nat := 17

/-- What a signal does to a process. -/
inductive Reaction where
  | nothing
  /-- It is dealt with later. -/
  | arrival
  | stop
  | death
  deriving DecidableEq

/-- What a signal does to a process. -/
def Process.reaction (p : Process) (n : Nat) : Reaction :=
  if n = killSignal then .death
  else if n = stopSignal then .stop
  else if n = 0 || p.ignores n then .nothing
  else if p.hasTrap n then .arrival
  else if harmlessSignals.contains n then .nothing
  else if stoppingSignals.contains n then .stop
  else .death

end JarLens.Shell
