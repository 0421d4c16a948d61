import JarLens.Shell.Process

/-!
# Courses

What a process does from a moment on. It runs until it ends, or until it has to wait for others;
then it tells for what, and how it goes on. A step of a process, a `Run`, leads from a process to
the course that it takes; it can end the process, and what it did until then stays done.
-/

namespace JarLens.Shell

/-- What a process waits for. -/
inductive Wait where
  /-- A moment. -/
  | turn (moment : Nat)
  /-- The end of a process that it has started. With `isOpen` a signal that something is done at
  ends that too. -/
  | child (isOpen : Bool)
  /-- Something to read in a pipe, or that nobody can write there any more. -/
  | data (pipe : Nat) (isOpen : Bool)
  /-- Room for some bytes in a pipe, or that nobody can read there any more. -/
  | room (pipe count : Nat)

/-- What a process does up to its end. -/
inductive Life where
  | over (exit : Exit) (p : Process)
  | paused (wait : Wait) (p : Process) (next : Process → Life)
  /-- The process `p` has started `child`, which leads its own life. -/
  | forked (life : Process → Life) (child p : Process) (next : Process → Life)

/-- Why a process ends. -/
inductive Ending where
  /-- With its status. -/
  | exit
  /-- After a failure that not every command survives. -/
  | fault
  /-- With a status, and nothing more is done. -/
  | finished (status : Nat)
  /-- By a signal. -/
  | crashed (signal : Nat)
  | outOfSteps

/-- The signal that ends a process at once, whatever is said about it. -/
def killSignal : Nat := 9

/-- How a process has ended that ends for a reason. -/
def Ending.toExit (p : Process) : Ending → Exit
  | .exit | .fault => .status p.status
  | .finished status => .status status
  | .crashed signal => .signal signal
  | .outOfSteps => .signal killSignal

/-- What a process does on the way to an `α`. -/
inductive Course (α : Type) where
  | done (a : α) (p : Process)
  | ended (ending : Ending) (p : Process)
  | paused (wait : Wait) (p : Process) (next : Process → Course α)
  | forked (life : Process → Life) (child p : Process) (next : Process → Course α)

/-- A step of a process. -/
def Run (α : Type) := Process → Course α

namespace Course

/-- The course that goes on with a step. -/
def bind {α β : Type} (f : α → Run β) : Course α → Course β
  | .done a p => f a p
  | .ended ending p => .ended ending p
  | .paused wait p next => .paused wait p fun p => (next p).bind f
  | .forked life child p next => .forked life child p fun p => (next p).bind f

/-- The course that goes on with a step where it would end. -/
def orElse {α : Type} (f : Ending → Run α) : Course α → Course α
  | .done a p => .done a p
  | .ended ending p => f ending p
  | .paused wait p next => .paused wait p fun p => (next p).orElse f
  | .forked life child p next => .forked life child p fun p => (next p).orElse f

/-- The life of a process that gives its status. -/
def life : Course Nat → Life
  | .done status p => .over (.status status) p
  | .ended ending p => .over (ending.toExit p) p
  | .paused wait p next => .paused wait p fun p => (next p).life
  | .forked life child p next => .forked life child p fun p => (next p).life

end Course

namespace Run

/-- One step after another. -/
@[always_inline, inline]
protected def bind {α β : Type} (x : Run α) (f : α → Run β) : Run β := fun p =>
  match x p with
  | .done a p => f a p
  | course => course.bind f

/-- A step that leads to something at once. -/
@[always_inline, inline]
protected def pure {α : Type} (a : α) : Run α := fun p =>
  .done a p

instance : Monad Run where
  pure := Run.pure
  bind := Run.bind

instance : MonadStateOf Process Run where
  get := fun p => .done p p
  set p := fun _ => .done () p
  modifyGet f := fun p => let (a, p) := f p; .done a p

/-- A step, and what is done where it would end the process. -/
@[always_inline, inline]
protected def tryCatch {α : Type} (x : Run α) (f : Ending → Run α) : Run α := fun p =>
  match x p with
  | .done a p => .done a p
  | course => course.orElse f

instance : MonadExceptOf Ending Run where
  throw ending := fun p => .ended ending p
  tryCatch := Run.tryCatch

instance {α : Type} : Inhabited (Run α) := ⟨fun p => .ended .outOfSteps p⟩

/-! ## Time -/

/-- Waits for something. -/
def await (wait : Wait) : Run Unit := fun p =>
  .paused wait p fun p => .done () p

/-- Lets time pass. Others come in where they have something to do by then. -/
def spend (microseconds : Nat) : Run Unit := fun p =>
  let moment := p.now + microseconds
  if moment ≤ p.horizon then .done () { p with files := { p.files with clock := moment } }
  else .paused (.turn moment) p fun p => .done () p

/-- Lets others come in now. -/
def yield : Run Unit := fun p =>
  .paused (.turn p.now) p fun p => .done () p

/-- Lets others come in at a moment from now. -/
def heed (microseconds : Nat) : Run Unit :=
  modify fun p => { p with horizon := min p.horizon (p.now + microseconds) }

/-! ## Repetitions -/

/-- What a round of a repetition leads to. -/
inductive Round (σ α : Type) where
  | again (s : σ)
  | done (a : α)

/-- Repeats a step, which goes from state to state. -/
def iterate {σ α : Type} (round : σ → Run (Round σ α)) : (limit : Nat) → σ → Run α
  | 0, _ => throw .outOfSteps
  | limit + 1, s => fun p =>
    match round s p with
    | .done (.again s) p => iterate round limit s p
    | .done (.done a) p => .done a p
    | course => course.bind fun
      | .again s => iterate round limit s
      | .done a => pure a

/-- How often anything is repeated at most. -/
def roundLimit : Nat := 1000000000

end Run

end JarLens.Shell
