import JarLens.Shell.Reaction

/-!
# Processes together

All processes that live on a machine, of which one runs at a time: always the one that can go on
first. It runs until it waits for something, or until another one has something to do. Time is a
number that goes on with what processes do, so that waiting takes none of the real one. How long
single things take is fixed; all that shows of it is which of two things comes first.
-/

namespace JarLens.Shell

/-- A process that is not running at the moment. -/
structure Task where
  /-- The process, without the world. -/
  process : Process
  wait : Wait
  /-- The moment from which it can go on, once it can. -/
  ready : Option Nat
  /-- Whether a signal has stopped it. -/
  isStopped : Bool := false
  next : Process → Life

/-- A process that was started from outside, with the pipes that take its output. -/
structure Outsider where
  number : Nat
  stdout : Nat
  stderr : Nat
  exit : Option Exit := none

/-- The processes of a machine, with what they share. Between runs the files are those of the
machine. -/
structure System extends World where
  tasks : List Task := []
  outsiders : List Outsider := []

/-- The moment at which a task can go on. -/
def Task.due (t : Task) : Option Nat :=
  if t.isStopped then none else t.ready

namespace System

/-! ## Ends -/

/-- How long it takes until it shows that a process has ended. -/
def endTime : Exit → Nat
  | .status _ => 25
  | .signal _ => 60

/-- The system after a process has ended. Its parent may ask how, if it lives. -/
def bury (s : System) (number parent : Nat) (exit : Exit) : System :=
  let isAlive := fun (n : Nat) => s.tasks.any fun t => t.process.number == n
  let e : Ended := { number, parent, exit, moment := s.now + endTime exit }
  { s with
    ended := (s.ended ++ [e]).filter (·.isReachable isAlive s.now)
    outsiders := s.outsiders.map fun o =>
      if o.number == number then { o with exit := some exit } else o
    tasks := s.tasks.map fun t =>
      if t.process.number == parent && t.process.hasTrap childSignal then
        { t with process := { t.process with arrived := t.process.arrived ++ [childSignal] } }
      else t }

/-- Whether a process has a channel of some kind. -/
def hasHolder (s : System) (isOf : Channel → Bool) : Bool :=
  s.tasks.any fun t => t.process.holds.any fun k => s.channels[k]?.any isOf

/-- The moment at which what a process waits for has come, if it has. -/
def metAt? (s : System) (t : Task) : Option Nat :=
  let isCalled := fun (isOpen : Bool) => isOpen && !t.process.arrived.isEmpty
  let now := fun (isMet : Bool) => if isMet then some s.now else none
  match t.wait with
  | .turn moment => some moment
  | .child isOpen =>
    if isCalled isOpen then some s.now
    else ((s.ended.filter (·.parent == t.process.number)).map (·.moment)).min?
  | .data k isOpen =>
    now (isCalled isOpen || 0 < (s.pipes[k]?.getD {}).count || !s.hasHolder (·.isSinkOf k))
  | .room k count =>
    now (((s.pipes[k]?.getD {}).room?).all (count ≤ ·) || !s.hasHolder (·.isSourceOf k))

/-- Lets those go on who have got what they wait for. -/
def wake (s : System) : System :=
  { s with
    tasks := s.tasks.map fun t =>
      if t.ready.isSome then t else { t with ready := (s.metAt? t).map (· + wakeTime) } }

/-! ## Signals -/

/-- Lets a signal reach a process. -/
def deliver (s : System) (number n : Nat) : System :=
  match s.tasks.find? (·.process.number == number) with
  | none => s
  | some t =>
    let change := fun (f : Task → Task) =>
      { s with tasks := s.tasks.map fun t => if t.process.number == number then f t else t }
    let s := if n = continueSignal then change fun t =>
        { t with
          isStopped := false
          ready := t.ready.map fun moment => if t.isStopped then max moment s.now else moment }
      else s
    match t.process.reaction n with
    | .nothing => s
    | .arrival => change fun t =>
      { t with process := { t.process with arrived := t.process.arrived ++ [n] } }
    | .stop => change fun t => { t with isStopped := true }
    | .death =>
      let s := { s with tasks := s.tasks.filter (·.process.number != number) }
      s.bury number t.process.parent (.signal n)

/-- Lets all signals reach those that they were sent to. -/
def deliverAll (s : System) : System :=
  let sent := s.sent
  sent.foldl (fun s (number, n) => s.deliver number n) { s with sent := [] }

/-! ## Turns -/

/-- The task that can go on first, and the moment from which it can. -/
def first? (tasks : List Task) : Option (Nat × Task) :=
  tasks.foldl (fun found t =>
    match t.due, found with
    | some moment, some (earliest, _) => if moment < earliest then some (moment, t) else found
    | some moment, none => some (moment, t)
    | none, found => found) none

/-- The system with one more task, which comes after the others. -/
def add (s : System) (t : Task) : System :=
  { s with tasks := s.tasks ++ [t] }

/-- A process that waits for something, as a task. -/
def taskOf (wait : Wait) (p : Process) (next : Process → Life) : Task where
  process := { p with toWorld := {} }
  wait
  ready := match wait with
    | .turn moment => some moment
    | _ => none
  next

/-- How long it takes to start a process, until the one that starts it goes on. -/
def forkTime : Nat := 55

/-- How long it takes until a process that was started does something. -/
def birthTime : Nat := 190

/-- For how long a process runs at most before others are looked at. -/
def longestTurn : Nat := 100000

/-- What a running process starts with: the moment, and what it has to know of others. -/
def worldFor (w : World) (moment : Nat) (others : List Task) : World :=
  { w with
    files := { w.files with clock := moment }
    living := others.map (·.process.number)
    held := others.flatMap (·.process.holds)
    horizon := others.foldl (fun n t => min n (t.due.getD n)) (moment + longestTurn) }

/-- The system after a process ran for a while. -/
def after (others : List Task) (outsiders : List Outsider) : Life → System
  | .over exit p =>
    ({ toWorld := p.toWorld, tasks := others, outsiders } : System).bury p.number p.parent exit
  | .paused wait p next =>
    ({ toWorld := p.toWorld, tasks := others, outsiders } : System).add (taskOf wait p next)
  | .forked life child p next =>
    let s : System := { toWorld := p.toWorld, tasks := others, outsiders }
    let goesOn := taskOf (.turn (p.now + forkTime)) p next
    (s.add goesOn).add (taskOf (.turn (p.now + birthTime)) child life)

/-- The system after the task that can go on first has done so. None if there is none up to a
moment. -/
def turn? (limit : Nat) : System → Option System
  | ⟨world, tasks, outsiders⟩ =>
    match first? tasks with
    | none => none
    | some (moment, t) =>
      if limit < moment then none
      else
        let others := tasks.filter (·.process.number != t.process.number)
        let world := worldFor world moment others
        let life := t.next (Process.refresh { t.process with toWorld := world })
        some (after others outsiders life).deliverAll.wake

/-- Lets processes run until something has come about, nobody can go on, or a moment has come. -/
def run (isOver : System → Bool) (limit : Nat) : (turns : Nat) → System → System
  | 0, s => s
  | turns + 1, s =>
    if isOver s then s
    else
      match turn? limit s with
      | some s => run isOver limit turns s
      | none => s

/-- A moment that comes after all that happens. -/
def farMoment : Nat := 1000000000000000000

/-- How many turns there are at most. -/
def turnLimit : Nat := 1000000000

/-- The system after processes ran up to a moment. -/
def runUntil (s : System) (moment : Nat) : System :=
  let s := run (fun _ => false) moment turnLimit s
  { s with files := { s.files with clock := max moment s.now } }

/-! ## Outside -/

/-- Whether a process that was started from outside has ended, and nobody else can write what it
could. -/
def isOver (s : System) (o : Outsider) : Bool :=
  let isOutput := fun (c : Channel) => c.isSinkOf o.stdout || c.isSinkOf o.stderr
  o.exit.isSome && !s.hasHolder isOutput

end System

end JarLens.Shell
