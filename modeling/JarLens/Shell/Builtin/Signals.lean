import JarLens.Shell.Builtin.Jobs

/-!
# Signals

What a process does when a signal reaches it, and how it sends one. A signal that nothing is said
about ends the process, with a few exceptions; one that is ignored does nothing; any other is dealt
with after the command that runs. Signals reach the processes that scripts have started, and the
process itself at once.
-/

namespace JarLens.Shell.Builtin

/-- The number after the last signal. -/
def signalLimit : Nat := 65

/-- The names of signals from 0, which stands for the end of the script, in order. -/
def signalNames : List Text :=
  (["EXIT", "HUP", "INT", "QUIT", "ILL", "TRAP", "ABRT", "BUS", "FPE", "KILL", "USR1", "SEGV",
    "USR2", "PIPE", "ALRM", "TERM", "16", "CHLD", "CONT", "STOP", "TSTP", "TTIN", "TTOU", "URG",
    "XCPU", "XFSZ", "VTALRM", "PROF", "WINCH", "IO", "PWR", "SYS", "32", "33", "RTMIN"].map
      String.toList) ++
    ((List.range 15).map fun k => "RTMIN+".toList ++ Text.ofNat (k + 1)) ++
    ((List.range 14).map fun k => "RTMAX-".toList ++ Text.ofNat (14 - k)) ++ ["RTMAX".toList]

/-- The name of a signal. -/
def signalName (n : Nat) : Text :=
  (signalNames[n]?).getD []

/-- The signal with a number. -/
def signalNumber? (t : Text) : Option Nat :=
  if (t.head?).any Char.isDigit then (Text.number? 10 t).filter (· < signalLimit) else none

/-- The signal with a number or a name, in any letter case, from `least` on. -/
def signal? (least : Nat) (t : Text) : Option Nat :=
  signalNumber? t <|>
    (signalNames.findIdx? fun name => name == t.map Char.toUpper).filter (least ≤ ·)

/-- The lines that show what is done at signals. -/
def trapLines (p : Process) : Text :=
  (List.range signalLimit).flatMap fun n =>
    match p.traps.lookup n with
    | some action =>
      "trap -- ".toList ++ quotedValue action ++ ' ' :: signalName n ++ ['\n']
    | none => []

/-- Says what is done at a signal, or what the system does where no action is given. -/
def setTrap (action : Option Text) (n : Nat) : Run Unit :=
  modify fun p =>
    { p with traps := (action.toList.map fun action => (n, action)) ++ p.traps.filter (·.1 != n) }

/-- Says what is done at each of some signals. -/
def setTraps (action : Option Text) : List Text → Run Nat
  | [] => pure 0
  | t :: ts =>
    match signal? 0 t with
    | some n => do
      setTrap action n
      setTraps action ts
    | none => do
      Run.complain ("trap: ".toList ++ t ++ ": bad trap".toList)
      pure 1

/-- Says what is done at signals, or shows it. Without an action the system does it again. -/
def trap : Builtin := fun arguments => do
  let (_, operands) ← options "" arguments
  match operands with
  | [] => print (trapLines (← get))
  | [t] => setTraps none [t]
  | action :: signals =>
    if (signalNumber? action).isSome then setTraps none operands
    else setTraps (if action == ['-'] then none else some action) signals

/-- Lets a signal reach the process itself. -/
def reach (n : Nat) : Run Unit := do
  let p ← get
  match p.reaction n with
  | .nothing => pure ()
  | .arrival => set { p with arrived := p.arrived ++ [n] }
  | .death => throw (.crashed n)
  | .stop => sendOn p.number n
where
  /-- Sends a signal, and lets it arrive. -/
  sendOn (number n : Nat) : Run Unit := do
    modify fun p => { p with sent := p.sent ++ [(number, n)] }
    Run.yield

/-- The processes that live outside: the first one of all, and the one that starts tools. -/
def outerNumbers : List Nat :=
  [1, firstNumber - 1]

/-- Sends a signal to a process by its number. -/
def send (n : Nat) (target : Text) : Run Nat := do
  if target.head? == some '%' then
    let _ ← findJob (some target)
    refuse
  else
    let number ← Run.number (if target.head? == some '-' then target.drop 1 else target)
    let p ← get
    if target.head? == some '-' then refuse
    else if number == p.number then do
      reach n
      pure 0
    else if p.living.any (· == number) then do
      reach.sendOn number n
      pure 0
    else if p.ended.any (fun e => e.number == number && e.isReachable (isAlive p) p.now) ||
        outerNumbers.any (· == number) then
      pure 0
    else refuse
where
  /-- Whether the process with a number lives. -/
  isAlive (p : Process) (number : Nat) : Bool :=
    number == p.number || p.living.any (· == number)
  /-- Tells that there is no such process. -/
  refuse : Run Nat := do
    Run.warn "No such process\n".toList
    pure 1

/-- Complains about how `kill` was called. -/
def refuseKill : Run Nat :=
  Run.fail ("Usage: kill [-s sigspec | -signum | -sigspec] [pid | job]... or\n" ++
    "kill -l [exitstatus]").toList

/-- Shows the names of all signals, or of the one that a status tells. -/
def listSignals : List Text → Run Nat
  | [] => print (("0".toList :: signalNames.drop 1).flatMap (· ++ ['\n']))
  | t :: _ => do
    let n ← Run.number t
    let n := if 128 < n then n - 128 else n
    if 0 < n && n < signalLimit then printLine (signalName n)
    else Run.fail ("invalid signal number or exit status: ".toList ++ t)

/-- Sends a signal to processes, `TERM` if none is named. -/
def kill : Builtin := fun arguments => do
  let sendAll := fun (n : Nat) (targets : List Text) =>
    if targets.isEmpty then refuseKill else forOperands (send n) targets
  match arguments with
  | [] => refuseKill
  | ('-' :: name) :: rest =>
    match signal? 1 name with
    | some n => sendAll n rest
    | none => do
      let (given, operands) ← options "ls:" arguments
      if isGiven 'l' given then listSignals operands
      else
        match (given.getLast?).map (·.2) with
        | none => sendAll 15 operands
        | some name =>
          match signal? 1 name with
          | some n => sendAll n operands
          | none => Run.fail ("invalid signal number or name: ".toList ++ name)
  | targets => sendAll 15 targets

end JarLens.Shell.Builtin
