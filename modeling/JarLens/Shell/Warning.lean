import JarLens.Shell.Descriptors

/-!
# Messages of the shell

What a script is told when something goes wrong: its name, the line, and the command that speaks
stand before the message.
-/

namespace JarLens.Shell.Run

/-- Prints a text and a line end to the error output. -/
def complain (t : Text) : Run Unit := do
  let _ ← write 2 (toBytes (t ++ ['\n']))

/-- What stands before messages: the script, the line and the command that speaks. -/
def messageStart (p : Process) : Text :=
  p.zero ++ ": ".toList ++ Text.ofNat p.line ++ ": ".toList ++
    match p.speaker with
    | some name => name ++ ": ".toList
    | none => []

/-- Prints a message about the line that runs. -/
def warn (t : Text) : Run Unit := do
  complain (messageStart (← get) ++ t)

/-- Ends the command after a message, and the process if nothing survives that. -/
def fail {α : Type} (t : Text) : Run α := do
  modify fun p => { p with status := 2 }
  warn t
  throw .fault

/-- Gives up the control of jobs, for which there is no terminal. Only the first process of a script
looks for one. -/
def giveUpJobs : Run Unit := do
  let p ← get
  if p.options.any (· == 'm') && !p.isChild then
    warn "can\x27t access tty; job control turned off".toList
    modify fun p => { p with options := p.options.filter (· != 'm') }

/-- Fails because a text is not a number. -/
def refuseNumber {α : Type} (t : Text) : Run α :=
  fail ("Illegal number: ".toList ++ t)

end JarLens.Shell.Run
