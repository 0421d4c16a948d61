import JarLens.Shell.Builtin.Basic
import JarLens.Shell.Reaction

/-!
# Jobs

The commands that a script has started without waiting for them: by which names they are known, how
they are shown, and how they are waited for. A job is forgotten once it was shown to be done.
-/

namespace JarLens.Shell.Builtin

/-! ## Names -/

/-- Why a text names no job. -/
inductive JobFault where
  | noCurrent
  | noPrevious
  | missing
  | ambiguous

/-- The job that a text names, which starts with a percent sign; the one started last for no text.
What a job runs is not kept, so that its text starts with the empty one alone. -/
def job? (jobs : List Job) : Option Text → Except JobFault Job
  | none | some ['%'] | some ['%', '%'] | some ['%', '+'] => jobs.head?.elim (.error .noCurrent) .ok
  | some ['%', '-'] => jobs[1]?.elim (.error .noPrevious) .ok
  | some ['%', '?'] =>
    match jobs with
    | [] => .error .missing
    | [job] => .ok job
    | _ => .error .ambiguous
  | some ('%' :: name) =>
    match if name.all Char.isDigit then Text.number? 10 name else none with
    | some n => (jobs.find? fun job => job.slot + 1 == n).elim (.error .missing) .ok
    | none => .error .missing
  | some _ => .error .missing

/-- The job that a text names. Fails if there is none. -/
def findJob (name : Option Text) : Run Job := do
  match job? (← get).jobs name with
  | .ok job => pure job
  | .error fault => Run.fail <| match fault with
    | .noCurrent => "No current job".toList
    | .noPrevious => "No previous job".toList
    | .missing => "No such job: ".toList ++ name.getD []
    | .ambiguous => name.getD [] ++ ": ambiguous".toList

/-! ## Showing -/

/-- How a job is shown. -/
inductive JobView where
  | plain
  | withNumbers
  | numbersOnly

/-- What is told of how a process has ended. -/
def exitText : Exit → Text
  | .status 0 => "Done".toList
  | .status n => "Done(".toList ++ Text.ofNat (n % 256) ++ [')']
  | .signal n => (signalText n).getD []

/-- The column at which what a job runs would be shown. -/
def jobColumn : Nat := 33

/-- A text filled with blanks up to that column, at least one. -/
def fillJob (t : Text) : Text :=
  t ++ List.replicate (max 1 (jobColumn - t.length)) ' '

/-- The lines that show a job among all jobs. -/
def jobLines (jobs : List Job) (view : JobView) (job : Job) : Text :=
  let number := fun (m : Nat × Option Exit) => Text.ofNat m.1
  let isAt := fun (k : Nat) => jobs[k]?.any (·.slot == job.slot)
  let sign := if isAt 0 then '+' else if isAt 1 then '-' else ' '
  let head := '[' :: Text.ofNat (job.slot + 1) ++ [']', ' ', sign, ' ']
  let state := if job.isDone then ((job.members.getLast?.bind (·.2)).map exitText).getD []
    else "Running".toList
  match view, job.members with
  | .numbersOnly, m :: _ => number m ++ ['\n']
  | .withNumbers, m :: ms =>
    let first := fillJob (head ++ number m ++ ' ' :: state)
    let indent := List.replicate head.length ' '
    first ++ (ms.flatMap fun m => " |\n".toList ++ fillJob (indent ++ number m ++ [' '])) ++ ['\n']
  | _, ms =>
    fillJob (head ++ state) ++ (List.replicate (ms.length - 1) " | ".toList).flatten ++ ['\n']

/-- Shows a job, which is forgotten if it is done. -/
def showJob (view : JobView) (job : Job) : Run Nat := do
  let status ← print (jobLines (← get).jobs view job)
  if job.isDone then
    modify fun p => { p with jobs := p.jobs.filter (·.slot != job.slot) }
  pure status

/-- Shows jobs, those that are named or all. -/
def jobs : Builtin := fun arguments => do
  let (given, operands) ← options "lp" arguments
  let view := match given.getLast?.map (·.1) with
    | some 'l' => JobView.withNumbers
    | some _ => .numbersOnly
    | none => .plain
  if operands.isEmpty then
    let _ ← Run.takeAllEnded []
    (← get).jobs.forM fun job => do
      let _ ← showJob view job
    pure 0
  else
    operands.forM fun name => do
      let _ ← showJob view (← findJob (some name))
    pure 0

/-- Goes on with a job, which is not possible without control of jobs. -/
def continueJob : Builtin := fun arguments => do
  let (_, operands) ← options "" arguments
  let _ ← findJob operands.head?
  Run.fail ("job ".toList ++ operands.head?.getD "(null)".toList ++
    " not created under job control".toList)

/-! ## Waiting -/

/-- Waits until a child has ended. Tells whether one has, and not a signal arrived. -/
def awaitChild (watched : List Nat) : Run Bool := do
  let taken ← Run.takeAllEnded watched
  if !taken.isEmpty then pure true
  else do
    if (← get).arrived.isEmpty then Run.await (.child true)
    pure !(← Run.takeAllEnded watched).isEmpty

/-- The status of a command during which a signal arrived. -/
def interruptedStatus : Run Nat := do
  pure (128 + ((← get).arrived.getLast?).getD 0)

/-- Waits for all jobs, and gives the status. -/
def waitForAll : Run Nat :=
  Run.iterate (fun _ => do
      if (← get).jobs.all Job.isDone then
        modify fun p => { p with jobs := p.jobs.map fun job => { job with isWaited := true } }
        pure (.done 0)
      else if ← awaitChild [] then pure (.again ())
      else do pure (.done (← interruptedStatus)))
    Run.roundLimit ()

/-- Waits for the job at a place. Gives its status, or otherwise that of being interrupted. -/
def waitForJob (slot : Nat) : Run (Except Nat Nat) :=
  Run.iterate (fun _ => do
      match (← get).jobs.find? (·.slot == slot) with
      | none => pure (.done (.ok 0))
      | some job =>
        if job.isDone then
          Run.modifyJob slot fun job => { job with isWaited := true }
          let last := job.members.getLast?.bind (·.2)
          pure (.done (.ok ((last.map Exit.toStatus).getD 0)))
        else if ← awaitChild (job.members.map (·.1)) then pure (.again ())
        else do pure (.done (.error (← interruptedStatus))))
    Run.roundLimit ()

/-- Waits for jobs, each named by a text with a percent sign or by its last process, and gives the
status of the last one that there is. -/
def waitForEach : (status : Nat) → List Text → Run Nat
  | status, [] => pure status
  | status, name :: names => do
    let found ← if name.head? == some '%' then some <$> findJob (some name)
      else do
        let n ← Run.number name
        pure ((← get).jobs.find? fun job => (job.members.getLast?.map (·.1)) == some n)
    match found with
    | none => waitForEach status names
    | some job =>
      match ← waitForJob job.slot with
      | .ok status => waitForEach status names
      | .error status => pure status

/-- Waits for jobs that were started without waiting for them. -/
def wait : Builtin := fun arguments => do
  let (_, operands) ← options "" arguments
  if operands.isEmpty then waitForAll else waitForEach 127 operands

end JarLens.Shell.Builtin
