import JarLens.Dependency.Cache
import JarLens.Machine.Basic
import JarLens.Report.LogLine

/-!
# Actions

An action sees the machine, may change its files, starts tools, logs, and ends with a result or a
failure. What happened up to a failure stays: the state is kept in both cases. How a started tool
behaves is a parameter, the `Launcher`, so that statements can range over every behaviour.
-/

namespace JarLens

/-- A tool to be started. -/
structure Launch where
  command : Text
  arguments : List Text
  /-- The folder to run in, if not the program's own. -/
  folder : Option Text
  deriving DecidableEq

/-- Why a tool does not start. -/
inductive LaunchFault where
  | missing
  | notExecutable
  /-- The trouble has nothing to do with the tool being there. -/
  | trouble (cause : PathTrouble)
  deriving DecidableEq

/-- What a finished tool leaves: its exit code, negative for the signal that ended it, and what it
wrote. -/
structure Finished where
  exitCode : Int
  stdout : ByteArray
  stderr : ByteArray

/-- How tools behave. A launch on a machine fails, or it starts a tool that is known by a number
from then on. A tool that is waited for runs until it is finished, and others with it. -/
structure Launcher where
  start : Machine → Launch → Except LaunchFault (Nat × Site)
  /-- Waits until one of some tools is finished: which one, what it leaves, and what there is
  then. -/
  await : Machine → (first : Nat) → (others : List Nat) → Nat × Finished × Site

/-- What actions work on. -/
structure State where
  machine : Machine
  cache : Dependency.Cache := {}
  /-- What was logged, in order. -/
  log : List LogLine := []
  /-- The tools that were started or could not be, in order. -/
  launches : List Launch := []

/-- Something to do that gives an `α` or a failure. -/
abbrev Action (α : Type) := ReaderT Launcher (ExceptT Failure (StateM State)) α

namespace Action

/-- The machine as it is now. -/
def machine : Action Machine := do
  pure (← get).machine

/-- The result of a look at the machine. -/
def look {α : Type} (f : Machine → Except Failure α) : Action α := do
  match f (← machine) with
  | .ok a => pure a
  | .error failure => throw failure

/-- Changes the files. -/
def setFiles (files : Files) : Action Unit :=
  modify fun s => { s with machine := s.machine.withFiles files }

/-- Adds a line to the log. -/
def log (level : LogLevel) (logger event : String) (fields : List (String × LogValue)) :
    Action Unit :=
  modify fun s => { s with
    log := s.log ++
      [{ level, logger := logger.toList, event := event.toList,
         fields := fields.map fun (name, value) => (name.toList, value) }] }

/-- Adds a line without fields to the log. -/
def logMessage (level : LogLevel) (logger : String) (message : Text) : Action Unit :=
  modify fun s => { s with
    log := s.log ++ [{ level, logger := logger.toList, event := message, fields := [] }] }

/-- Starts a tool, and gives its number. -/
def start (l : Launch) : Action (Except LaunchFault Nat) := fun launcher s =>
  let s' := { s with launches := s.launches ++ [l] }
  match launcher.start s.machine l with
  | .ok (number, site) => (.ok (.ok number), { s' with machine := s.machine.withSite site })
  | .error fault => (.ok (.error fault), s')

/-- Waits until one of some tools is finished, and gives its number and what it leaves. A number
that was not waited for counts as the first one. -/
def await (first : Nat) (others : List Nat) : Action (Nat × Finished) := fun launcher s =>
  let (number, finished, site) := launcher.await s.machine first others
  (.ok (if number ∈ others then number else first, finished),
    { s with machine := s.machine.withSite site })

/-- Does something, and then something else if it failed. -/
def orElseDo {α : Type} (body : Action α) (cleanUp : Action Unit) : Action α :=
  tryCatch body fun failure => do
    cleanUp
    throw failure

/-- Does something, and then something else whatever came of it. -/
def andThenDo {α : Type} (body : Action α) (cleanUp : Action Unit) : Action α := do
  let a ← orElseDo body cleanUp
  cleanUp
  pure a

end Action

end JarLens
