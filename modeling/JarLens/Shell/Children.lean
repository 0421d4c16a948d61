import JarLens.Shell.Warning

/-!
# Children

How a process starts others and learns how they ended. Those that are started as one command are a
job; a process that waits for a job takes note of every child that has ended until then.
-/

namespace JarLens.Shell

/-- What is told of a process that a signal ended. -/
def signalText (signal : Nat) : Option Text :=
  (signals.lookup signal).map String.toList
where
  /-- What signals are called. -/
  signals : List (Nat × String) :=
    [(1, "Hangup"), (2, "Interrupt"), (3, "Quit"), (4, "Illegal instruction"),
      (5, "Trace/breakpoint trap"), (6, "Aborted"), (7, "Bus error"),
      (8, "Floating point exception"), (9, "Killed"), (10, "User defined signal 1"),
      (11, "Segmentation fault"), (12, "User defined signal 2"), (13, "Broken pipe"),
      (14, "Alarm clock"), (15, "Terminated"), (16, "Stack fault"),
      (24, "CPU time limit exceeded"), (25, "File size limit exceeded"),
      (26, "Virtual timer expired"), (27, "Profiling timer expired"), (29, "I/O possible"),
      (30, "Power failure"), (31, "Bad system call")]

/-- The signals that are not told of. -/
def untoldSignals : List Nat :=
  [2, brokenPipe]

/-- A process as another one starts it: nothing is done at signals any more, but those that are
ignored still are. -/
def Process.child (p : Process) (number : Nat) : Process :=
  { p with
    toWorld := {}, number, parent := p.number
    traps := p.traps.filter (·.2.isEmpty), arrived := [], skip := none, isChild := true
    jobs := [] }

/-- Whether a job can make place for another one. -/
def Job.isSettled (job : Job) : Bool :=
  job.isDone && job.isWaited

/-- A job that knows of a process that has ended. -/
def Job.note (e : Ended) (job : Job) : Job :=
  { job with
    members := job.members.map fun (n, exit) =>
      if n == e.number then (n, some e.exit) else (n, exit) }

namespace Run

/-! ## Starting -/

/-- Starts a process, which is a copy of this one with a change, and gives its number. It runs a
step to its status. -/
def fork (change : Process → Process) (body : Run Nat) : Run Nat := fun p =>
  let number := p.nextNumber
  let child := change (p.child number)
  let p := { p with nextNumber := number + 1 }
  .forked (fun p => (body p).life) child p fun p => .done number p

/-- Does something while channels are kept open. -/
def holding {α : Type} (channels : List Nat) (body : Run α) : Run α := do
  let before := (← get).spare
  modify fun p => { p with spare := channels ++ p.spare }
  let a ← body
  modify fun p => { p with spare := before }
  pure a

/-! ## Jobs -/

/-- Makes place for a job: the first place that is free, or has a job that was waited for up to its
end. -/
def claimSlot : Run Nat := do
  let p ← get
  let isTaken := fun (slot : Nat) => p.jobs.any fun job => job.slot == slot && !job.isSettled
  let slot := ((List.range (p.jobs.length + 1)).find? (!isTaken ·)).getD p.jobs.length
  set { p with jobs := p.jobs.filter (·.slot != slot) }
  pure slot

/-- Keeps processes as a job, which is not waited for now. -/
def addJob (slot : Nat) (members : List Nat) : Run Unit :=
  modify fun p => { p with
    jobs := { slot, members := members.map (·, none) } :: p.jobs, lastJob := members.getLast? }

/-- Changes the job at a place. -/
def modifyJob (slot : Nat) (f : Job → Job) : Run Unit :=
  modify fun p => { p with
    jobs := p.jobs.map fun job => if job.slot == slot then f job else job }

/-- Takes note of a child that has ended, the oldest of them. -/
def takeEnded : Run (Option Ended) := do
  let p ← get
  let ours := p.ended.filter fun e => e.parent == p.number && e.moment ≤ p.now
  match ours.mergeSort fun a b => a.number ≤ b.number with
  | [] => pure none
  | e :: _ => do
    set { p with
      ended := p.ended.filter (·.number != e.number), jobs := p.jobs.map (Job.note e) }
    pure (some e)

/-- Tells of a process that a signal has ended. -/
def tellSignal : Exit → Run Unit
  | .status _ => pure ()
  | .signal n =>
    match if untoldSignals.contains n then none else signalText n with
    | some t => complain t
    | none => pure ()

/-- Takes note of all children that have ended. Those among `watched` are told of. -/
def takeAllEnded (watched : List Nat) : Run (List Ended) := do
  if (← get).ended.isEmpty then pure []
  else
    iterate (fun taken => do
        match ← takeEnded with
        | none => pure (.done taken.reverse)
        | some e => do
          if watched.contains e.number then tellSignal e.exit
          pure (.again (e :: taken)))
      roundLimit []

/-- Waits for processes, and gives the status of the last one. -/
def awaitAll (members : List Nat) : Run Nat :=
  iterate (fun exits => do
      let taken ← takeAllEnded members
      let exits := exits ++ taken.map fun e => (e.number, e.exit)
      if members.all fun n => exits.any (·.1 == n) then
        let last := members.getLast?.bind (exits.lookup ·)
        pure (.done ((last.map Exit.toStatus).getD 0))
      else do
        await (.child false)
        pure (.again exits))
    roundLimit ([] : List (Nat × Exit))

end Run

end JarLens.Shell
