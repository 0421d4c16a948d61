import JarLens.Shell.Simple

/-!
# Running commands

What commands that are made of others do: sequences and choices, loops, groups with redirections,
and commands in processes of their own. `run` ties the knot: the commands inside of a command run
with one step less, so that running ends for every script.
-/

namespace JarLens.Shell

/-! ## Loops -/

/-- What a loop does after one of its parts ran. -/
inductive LoopStep where
  | goOn
  | nextRound
  | leave
  deriving DecidableEq

/-- Takes what is skipped as far as it is about the loop that runs. -/
def takeSkip : Run LoopStep := do
  let p ← get
  match p.skip with
  | none => pure .goOn
  | some (.function _) => pure .leave
  | some (.loops n) => do
    set { p with skip := if n ≤ 1 then none else some (.loops (n - 1)) }
    pure .leave
  | some (.rounds n) => do
    set { p with skip := if n ≤ 1 then none else some (.rounds (n - 1)) }
    pure (if n ≤ 1 then .nextRound else .leave)

/-- Does something as a loop. -/
def asLoop (body : Run Nat) : Run Nat := do
  modify fun p => { p with loops := p.loops + 1 }
  let status ← body
  modify fun p => { p with loops := p.loops - 1 }
  pure status

section Commands

variable (runner : Runner)

/-- One round of a loop with a condition, after a round with the status. -/
def runRound (m : Manner) (isUntil : Bool) (condition body : Command) (status : Nat) :
    Run (Run.Round Nat Nat) := do
  let asked ← runner .tested condition
  match ← takeSkip with
  | .leave => pure (.done (if (← get).skip matches some (.function _) then asked else status))
  | .nextRound => pure (.again status)
  | .goOn =>
    if (asked == 0) == isUntil then pure (.done status)
    else
      let status ← runner m.first body
      match ← takeSkip with
      | .leave => pure (.done status)
      | _ => pure (.again status)

/-- One round of a loop over texts, of which some are left, after a round with the status. -/
def runEach (m : Manner) (name : Text) (body : Command) :
    List Text × Nat → Run (Run.Round (List Text × Nat) Nat)
  | ([], status) => pure (.done status)
  | (t :: rest, _) => do
    Run.assign name t
    let status ← runner m.first body
    match ← takeSkip with
    | .leave => pure (.done status)
    | _ => pure (.again (rest, status))

/-- Whether one of some patterns matches a text. -/
def anyMatches (t : Text) : List Word → Run Bool
  | [] => pure false
  | w :: ws => do
    if isMatch (← expandPattern (output runner) w) t then pure true else anyMatches t ws

/-- Runs the first arm that has a pattern which matches. -/
def runCases (m : Manner) (t : Text) : List (List Word × Option Command) → Run Nat
  | [] => pure 0
  | (patterns, body) :: arms => do
    if ← anyMatches runner t patterns then
      match body with
      | some command => runner m command
      | none => pure 0
    else runCases m t arms

/-! ## Groups -/

/-- Makes redirections that stay, and runs a command as the last thing. -/
def runRedirected (m : Manner) (redirects : List Redirect) (command : Command) : Run Unit := do
  redirects.forM (makeRedirection runner false)
  let _ ← runner { m with isLast := true } command

/-- Runs a command in a process of its own, unless the process has nothing to do after it. -/
def runSubshell (m : Manner) (redirects : List Redirect) (command : Command) : Run Nat := do
  let body := runRedirected runner m redirects command
  if m.isLast && !(← get).hasTraps then do
    body
    throw .exit
  else do
    let _ ← Run.claimSlot
    let child ← Run.fork id (conclude runner body)
    Run.awaitAll [child]

/-- Runs a command in a process of its own without waiting for it. Nothing comes from its input. -/
def runBackground (redirects : List Redirect) (command : Command) : Run Unit := do
  let nothing ← Run.addChannel Channel.null
  let slot ← Run.claimSlot
  let child ← Run.fork id (conclude runner do
    modify fun p => { p with ignored := backgroundIgnored ++ p.ignored }
    Run.redirect 0 (some nothing)
    runRedirected runner {} redirects command)
  Run.addJob slot [child]

/-- Runs the second of two commands after the first one, unless it is skipped or the status of the
first one says otherwise. -/
def runSecond (goesOn : Nat → Bool) (status : Nat) (second : Run Nat) : Run Nat := do
  if (← get).skip.isSome || !goesOn status then pure status else second

/-- Runs a command of any shape. -/
def runCommand (m : Manner) : Command → Run Nat
  | .simple line assignments words redirections =>
    runSimple runner m line assignments words redirections
  | .redirected line command redirections => do
    modify fun p => { p with line }
    let redirects ← redirections.mapM (expandRedirection runner)
    Run.withDescriptors false (redirects.map (·.descriptor)) do
      if ← makeRedirections runner redirects then runner m.first command else pure 2
  | .pipeline commands => runPipeline runner m commands
  | .subshell line command redirections => do
    modify fun p => { p with line }
    let redirects ← redirections.mapM (expandRedirection runner)
    runSubshell runner m redirects command
  | .background line command redirections => do
    modify fun p => { p with line }
    match command with
    | .pipeline commands => runJob runner m commands
    | _ => do
      let redirects ← redirections.mapM (expandRedirection runner)
      runBackground runner redirects command
    pure 0
  | .sequence first second => do
    let status ← runner m.first first
    runSecond (fun _ => true) status (runner m second)
  | .both first second => do
    let status ← runner .tested first
    runSecond (· == 0) status (runner m second)
  | .either first second => do
    let status ← runner .tested first
    runSecond (· != 0) status (runner m second)
  | .negated command => do
    let status ← runner .tested command
    if (← get).skip.isSome then pure status else pure (if status == 0 then 1 else 0)
  | .choice condition yes no => do
    let status ← runner .tested condition
    if (← get).skip.isSome then pure status
    else if status == 0 then runner m yes
    else
      match no with
      | some command => runner m command
      | none => pure 0
  | .loop isUntil condition body =>
    asLoop (Run.iterate (runRound runner m isUntil condition body) Run.roundLimit 0)
  | .each line name words body => do
    modify fun p => { p with line }
    let texts ← expandWords (output runner) false words
    asLoop (Run.iterate (runEach runner m name body) Run.roundLimit (texts, 0))
  | .cases line subject arms => do
    modify fun p => { p with line }
    let t ← expandText (output runner) subject
    runCases runner m t arms
  | .function line name body => do
    modify fun p => { p with
      functions := (name, ⟨line, body⟩) :: p.functions.filter (·.1 != name) }
    pure 0

end Commands

/-- Whether a command that fails can end the script by itself. -/
def Command.endsScript : Command → Bool
  | .simple _ _ _ _ => true
  | .pipeline _ => true
  | .subshell _ _ _ => true
  | .background _ _ _ => true
  | _ => false

/-- Runs a command, and what is due for signals that arrive. A command that fails ends the script
where that is told, unless it is tested. Where the rest is skipped the status stays that of the
command that said so. -/
def run : (steps : Nat) → Runner
  | 0 => fun _ _ => throw .outOfSteps
  | steps + 1 => fun m command => do
    let runner := run steps
    if ← Run.hasOption 'n' then pure (← get).status
    else
      handleSignals runner
      let status ← runCommand runner m command
      if (← get).skip.isNone then Run.setStatus status
      handleSignals runner
      if status != 0 && !m.isTested && command.endsScript then
        if ← Run.hasOption 'e' then
          modify fun p => { p with settled := none }
          throw .exit
      pure status

end JarLens.Shell
