import JarLens.Shell.Builtin.Control
import JarLens.Shell.Children
import JarLens.Shell.Expansion

/-!
# Running scripts

A script runs command by command: each is read when those before it have run. The same holds for
texts that a script runs as scripts: the operands of `eval`, and what is done at signals and at the
end. How one command runs is a parameter here, the `Runner`.
-/

namespace JarLens.Shell

/-- In what place a command runs. -/
structure Manner where
  /-- Whether its status is asked about, so that a failure does not end the script. -/
  isTested : Bool := false
  /-- Whether the process has nothing to do after it. -/
  isLast : Bool := false

/-- The place of a command that others follow. -/
def Manner.first (m : Manner) : Manner :=
  { m with isLast := false }

/-- The place of a command whose status is asked about. -/
def Manner.tested : Manner :=
  { isTested := true }

/-- The place of a command that a process runs for itself. -/
def Manner.last : Manner :=
  { isLast := true }

/-- How a command runs, to its status. -/
abbrev Runner := Manner → Command → Run Nat

namespace Run

/-- Sets the status of the last command. -/
def setStatus (status : Nat) : Run Unit :=
  modify fun p => { p with status }

/-- Does something, after which some descriptors are brought back to what they were, unless it
succeeds and `stays` is set. -/
def withDescriptors {α : Type} (stays : Bool) (descriptors : List Nat) (body : Run α) : Run α := do
  let isOurs := fun (entry : Nat × Nat) => descriptors.any (· == entry.1)
  let p ← get
  let before := p.descriptors.filter isOurs
  let spare := p.spare
  set { p with spare := before.map Prod.snd ++ spare }
  let restore : Run Unit := modify fun p => { p with
    spare, descriptors := before ++ p.descriptors.filter (!isOurs ·) }
  let a ← tryCatch body fun ending => do
    restore
    throw ending
  if stays then modify fun p => { p with spare } else restore
  pure a

end Run

/-- Fails because a script cannot be read. -/
def refuseScript {α : Type} (fault : SyntaxFault) (line : Nat) : Run α := do
  modify fun p => { p with line }
  Run.fail ("Syntax error: ".toList ++ fault.message)

/-- Shows what was read of a script, up to the end of the line, where that is told. -/
def showRead (before after : Source) : Run Unit := do
  if ← Run.hasOption 'v' then
    let count := before.rest.length - after.rest.length
    let read := before.rest.take count
    let line := if read.getLast? == some '\n' then []
      else
        let more := after.rest.takeWhile (· != '\n')
        more ++ (after.rest.drop more.length).take 1
    let _ ← Run.write 2 (toBytes (read ++ line))

/-- Whether a script has come to its end without a line end. -/
def endsOpen (before after : Source) : Bool :=
  after.rest.isEmpty && before.rest.getLast? != some '\n'

/-- Runs the commands of a script one by one, up to the end or to a command that skips the rest. The
status is that of the last one. What is read of a file can be shown. -/
def runSource (runner : Runner) (m : Manner) (isFile : Bool) (source : Source) : Run Nat := do
  let line := (← get).readLine
  let status ← Run.iterate (fun (source, status) => do
      let p ← get
      let source : Source := { source with aliases := p.aliases, documents := p.documents }
      match readComplete.run source with
      | .error fault after => do
        if isFile then showRead source after
        refuseScript fault after.line
      | .ok complete after => do
        if isFile then showRead source after
        let isLast := m.isLast && endsOpen source after
        let source := after
        modify fun p => { p with documents := source.documents, readLine := source.line }
        match complete with
        | .finish => pure (.done status)
        | .commands none => pure (.again (source, status))
        | .commands (some command) => do
          let status ← runner { m with isLast } command
          pure (if (← get).skip.isSome then .done status else .again (source, status)))
    Run.roundLimit (source, 0)
  modify fun p => { p with readLine := line }
  pure status

/-- Runs a text as a script. -/
def runText (runner : Runner) (m : Manner) (t : Text) : Run Nat :=
  runSource runner m false { rest := t }

/-- Runs a whole script, the rest of which can be skipped like that of a function. Bytes that are
zero are left out. -/
def runWhole (runner : Runner) (m : Manner) (isFile : Bool) (content : Text) : Run Nat := do
  let status ← runSource runner m isFile { rest := content.filter (· != '\x00') }
  modify fun p => { p with skip := p.skip.filter fun
    | .function _ => false
    | _ => true }
  pure status

/-- Does what is due for the signals that arrived. The status of the last command stays as it
was. -/
def handleSignals (runner : Runner) : Run Unit := do
  let p ← get
  if p.arrived.isEmpty then pure ()
  else
    let status := p.settled.getD p.status
    let signals := distinct (p.arrived.mergeSort (· ≤ ·))
    set { p with settled := some status, arrived := [] }
    signals.forM fun n => do
      let now ← get
      if now.skip.isSome then set { now with arrived := now.arrived ++ [n] }
      else
        match now.traps.lookup n with
        | none => pure ()
        | some action => do
          let _ ← runText runner {} action
          match (← get).skip with
          | some (.function false) => pure ()
          | _ => Run.setStatus status
    modify fun q => { q with settled := p.settled }

/-- Runs a step up to where it ends the process. A settled status is the one that counts. -/
def untilEnd (body : Run Unit) : Run Unit :=
  tryCatch body fun
    | .exit => modify fun p => { p with status := p.settled.getD p.status, settled := none }
    | .fault => modify fun p => { p with settled := none }
    | ending => throw ending

/-- Runs a step up to where it ends the process, and then what is due at the end. The status is that
of the process. -/
def conclude (runner : Runner) (body : Run Unit) : Run Nat := do
  untilEnd (do
    body
    handleSignals runner)
  let p ← get
  match p.traps.lookup 0 with
  | some action => do
    set { p with
      traps := p.traps.filter (·.1 != 0), settled := some p.status, skip := none }
    untilEnd (do
      let _ ← runText runner {} action
      throw .exit)
  | none => pure ()
  pure (← get).status

/-! ## Children -/

/-- What a command prints, which runs in a process of its own. -/
def output (runner : Runner) : Option Command → Run ByteArray
  | none => pure .empty
  | some command => do
    let (source, sink) ← Run.addPipe
    let _ ← Run.claimSlot
    let spare := (← get).spare
    let (child, bytes) ← Run.holding [source] do
      let change := fun (p : Process) => { p.redirect 1 (some sink) with spare }
      let child ← Run.fork change (conclude runner do
        let _ ← runner .last command)
      let bytes ← Run.joinParts? (fun _ => false) do
        match (← get).channels[source]? with
        | some c => Run.readChannel? false Run.restLength source c
        | none => pure none
      pure (child, bytes)
    let status ← Run.awaitAll [child]
    modify fun p => { p with innerStatus := status }
    pure (bytes.getD .empty)

/-- The signals that a process which is not waited for does not heed. -/
def backgroundIgnored : List Nat :=
  [2, 3]

/-- Looks for the program of a command whose first word is a plain name, and keeps in mind where it
was found. -/
def findAhead : Command → Run Unit
  | .simple _ _ ([.plain name] :: _) _ => do
    let p ← get
    let isProgram := !Builtin.isBuiltinName name && !p.functions.any (·.1 == name)
    if isName name && isProgram then
      match search p none name with
      | .ok path => Builtin.remember name path
      | .error _ => pure ()
  | _ => pure ()

/-- Starts processes for commands, each of which reads what the one before writes, and gives their
numbers. The first one reads from a channel if there is one. What they keep open besides is
`spare`. -/
def startStages (runner : Runner) (m : Manner) (isJob : Bool) (spare : List Nat) :
    (input : Option Nat) → List Command → Run (List Nat)
  | _, [] => pure []
  | input, command :: rest => do
    findAhead command
    let pipe ← if rest.isEmpty then pure none else some <$> Run.addPipe
    let change := fun (p : Process) =>
      let p := if input.isSome then p.redirect 0 input else p
      let p := if let some (_, sink) := pipe then p.redirect 1 (some sink) else p
      { p with spare, ignored := (if isJob then backgroundIgnored else []) ++ p.ignored }
    let child ← Run.fork change (conclude runner do
      let _ ← runner { m with isLast := true } command)
    let source := pipe.map (·.1)
    modify fun p => { p with
      spare := source.toList ++ spare, lastJob := if isJob then some child else p.lastJob }
    pure (child :: (← startStages runner m isJob spare source rest))

/-- Runs the commands of a pipeline, and waits for all of them. -/
def runPipeline (runner : Runner) (m : Manner) (commands : List Command) : Run Nat := do
  let _ ← Run.claimSlot
  let members ← startStages runner m false (← get).spare none commands
  Run.awaitAll members

/-- Runs the commands of a pipeline without waiting for them. Nothing comes from the input of the
first one. -/
def runJob (runner : Runner) (m : Manner) (commands : List Command) : Run Unit := do
  let nothing ← Run.addChannel Channel.null
  let slot ← Run.claimSlot
  let members ← startStages runner m true (← get).spare (some nothing) commands
  Run.addJob slot members

end JarLens.Shell
