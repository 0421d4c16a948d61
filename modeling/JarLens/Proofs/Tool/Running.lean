import JarLens.Tool.Run
import JarLens.Tool.Scratch

/-!
# Running actions

An action is a function of the launcher and the state. The equations of this module say what each
way of putting actions together does, so that no later proof opens the layers of the monad. Two
notions follow the same shape: `Keeps view` says that a part of the state is left alone, on success
and on failure alike, and `Ensures P` says what is known of a result.
-/

namespace JarLens

/-- The launcher under which no tool is there. -/
instance : Inhabited Launcher where
  default :=
    { start := fun _ _ => .error .missing
      await := fun m first _ => (first, ⟨0, .empty, .empty⟩, m.toSite) }

namespace Action

/-! ## Equations -/

section Equations

variable {α β : Type} (launcher : Launcher) (s : State)

@[simp] theorem run_pure (x : α) : (pure x : Action α) launcher s = (.ok x, s) := rfl

@[simp] theorem run_throw (f : Failure) : (throw f : Action α) launcher s = (.error f, s) := rfl

@[simp] theorem run_get : (get : Action State) launcher s = (.ok s, s) := rfl

@[simp] theorem run_modify (f : State → State) :
    (modify f : Action Unit) launcher s = (.ok (), f s) := rfl

/-- The second step goes on from the state of the first one, unless that failed. -/
theorem run_bind (a : Action α) (f : α → Action β) :
    (a >>= f) launcher s =
      match a launcher s with
      | (.ok x, s') => f x launcher s'
      | (.error e, s') => (.error e, s') := by
  show (ExceptT.bind (a launcher) (fun x => f x launcher)) s = _
  simp only [ExceptT.bind, ExceptT.mk, bind, StateT.bind]
  rcases a launcher s with ⟨_ | _, _⟩ <;> rfl

/-- A function is applied to a result and leaves a failure as it is. -/
theorem run_map (a : Action α) (f : α → β) :
    (f <$> a) launcher s =
      match a launcher s with
      | (.ok x, s') => (.ok (f x), s')
      | (.error e, s') => (.error e, s') := by
  show (ExceptT.map f (a launcher)) s = _
  simp only [ExceptT.map, ExceptT.mk, bind, StateT.bind]
  rcases a launcher s with ⟨_ | _, _⟩ <;> rfl

/-- The handler goes on from the state in which the attempt failed; nothing is undone. -/
theorem run_tryCatch (a : Action α) (h : Failure → Action α) :
    (tryCatch a h) launcher s =
      match a launcher s with
      | (.ok x, s') => (.ok x, s')
      | (.error e, s') => h e launcher s' := by
  show (ExceptT.tryCatch (a launcher) (fun e => h e launcher)) s = _
  simp only [ExceptT.tryCatch, ExceptT.mk, bind, StateT.bind]
  rcases a launcher s with ⟨_ | _, _⟩ <;> rfl

@[simp] theorem run_machine : Action.machine launcher s = (.ok s.machine, s) := rfl

/-- Looking at the machine leaves the state alone, also where it fails. -/
@[simp] theorem run_look (f : Machine → Except Failure α) :
    Action.look f launcher s = (f s.machine, s) := by
  unfold Action.look
  simp only [run_bind, run_machine]
  cases f s.machine <;> rfl

@[simp] theorem run_setFiles (files : Files) :
    Action.setFiles files launcher s =
      (.ok (), { s with machine := s.machine.withFiles files }) := rfl

end Equations

/-! ## What is left alone -/

/-- What is logged does not show in the view. -/
class HidesLog {γ : Type} (view : State → γ) : Prop where
  view_log : ∀ s lines, view { s with log := lines } = view s

instance : HidesLog State.machine := ⟨fun _ _ => rfl⟩

instance : HidesLog State.cache := ⟨fun _ _ => rfl⟩

/-- Whatever comes of the action, what `view` shows of the state is as before. -/
def Keeps {α γ : Type} (view : State → γ) (a : Action α) : Prop :=
  ∀ launcher s, view (a launcher s).2 = view s

namespace Keeps

variable {α β γ : Type} {view : State → γ}

theorem pure (x : α) : Keeps view (pure x : Action α) := fun _ _ => rfl

theorem throw (f : Failure) : Keeps view (throw f : Action α) := fun _ _ => rfl

theorem get : Keeps view (get : Action State) := fun _ _ => rfl

/-- A change of the state keeps a view if it does so in every state. -/
theorem modify {f : State → State} (h : ∀ s, view (f s) = view s) :
    Keeps view (modify f : Action Unit) := fun _ s => h s

/-- A log line is hidden from the view. -/
theorem log [HidesLog view] {level : LogLevel} {logger event : String}
    {fields : List (String × LogValue)} : Keeps view (Action.log level logger event fields) :=
  modify fun s => HidesLog.view_log s _

theorem logMessage [HidesLog view] {level : LogLevel} {logger : String} {message : Text} :
    Keeps view (Action.logMessage level logger message) :=
  modify fun s => HidesLog.view_log s _

theorem machine : Keeps view Action.machine := fun _ _ => rfl

/-- Looking at the machine keeps every view. -/
theorem look (f : Machine → Except Failure α) : Keeps view (Action.look f) := by
  intro launcher s
  rw [run_look]

/-- What both steps keep is kept. -/
theorem bind {a : Action α} {f : α → Action β} (ha : Keeps view a) (hf : ∀ x, Keeps view (f x)) :
    Keeps view (a >>= f) := by
  intro launcher s
  rw [run_bind]
  have h := ha launcher s
  rcases hrun : a launcher s with ⟨_ | x, s'⟩ <;> rw [hrun] at h
  · exact h
  · exact (hf x launcher s').trans h

theorem map {a : Action α} (f : α → β) (ha : Keeps view a) : Keeps view (f <$> a) := by
  intro launcher s
  rw [run_map]
  have h := ha launcher s
  rcases hrun : a launcher s with ⟨_ | x, s'⟩ <;> rw [hrun] at h <;> exact h

/-- The handler has to keep the view as well, whatever the failure. -/
theorem tryCatch {a : Action α} {h : Failure → Action α} (ha : Keeps view a)
    (hh : ∀ f, Keeps view (h f)) : Keeps view (tryCatch a h) := by
  intro launcher s
  rw [run_tryCatch]
  have hs := ha launcher s
  rcases hrun : a launcher s with ⟨f | x, s'⟩ <;> rw [hrun] at hs
  · exact (hh f launcher s').trans hs
  · exact hs

/-- Clearing up after a failure keeps what the attempt and the clearing keep. -/
theorem orElseDo {a : Action α} {cleanUp : Action Unit} (ha : Keeps view a)
    (hc : Keeps view cleanUp) : Keeps view (Action.orElseDo a cleanUp) :=
  ha.tryCatch fun f => hc.bind fun _ => .throw f

/-- Clearing up in any case keeps what the attempt and the clearing keep. -/
theorem andThenDo {a : Action α} {cleanUp : Action Unit} (ha : Keeps view a)
    (hc : Keeps view cleanUp) : Keeps view (Action.andThenDo a cleanUp) :=
  (ha.orElseDo hc).bind fun x => hc.bind fun _ => .pure x

/-- Detection changes no more of the state than the log. -/
theorem detectProject [HidesLog view] {path : Text} : Keeps view (detectProject path) := by
  refine (look _).bind fun found => ?_
  cases found.root <;> exact logMessage.bind fun _ => .pure _

end Keeps

/-! ## What is known of a result -/

/-- Every result of the action has the property. -/
def Ensures {α : Type} (P : α → Prop) (a : Action α) : Prop :=
  ∀ launcher s x, (a launcher s).1 = .ok x → P x

namespace Ensures

variable {α β : Type} {P : α → Prop} {Q : β → Prop}

theorem pure {x : α} (h : P x) : Ensures P (pure x : Action α) := by
  intro launcher s y hy
  obtain rfl : x = y := Except.ok.inj hy
  exact h

theorem throw (f : Failure) : Ensures P (throw f : Action α) := by
  intro launcher s x hx
  cases hx

/-- What is known of the first result is handed on to the second step. -/
theorem bind {a : Action α} {f : α → Action β} (ha : Ensures P a)
    (hf : ∀ x, P x → Ensures Q (f x)) : Ensures Q (a >>= f) := by
  intro launcher s y hy
  rw [run_bind] at hy
  have h := ha launcher s
  rcases hrun : a launcher s with ⟨_ | x, s'⟩ <;> rw [hrun] at h hy
  · cases hy
  · exact hf x (h x rfl) launcher s' y hy

/-- Nothing is known of any result. -/
theorem trivial (a : Action α) : Ensures (fun _ => True) a := fun _ _ _ _ => True.intro

/-- Only the last of two actions gives the result. -/
theorem last {a : Action α} {f : α → Action β} (hf : ∀ x, Ensures Q (f x)) : Ensures Q (a >>= f) :=
  (trivial a).bind fun x _ => hf x

/-- A result that needed no clearing up is the attempt's. -/
theorem orElseDo {a : Action α} {cleanUp : Action Unit} (ha : Ensures P a) :
    Ensures P (Action.orElseDo a cleanUp) := by
  intro launcher s x hx
  unfold Action.orElseDo at hx
  rw [run_tryCatch] at hx
  have h := ha launcher s
  rcases hrun : a launcher s with ⟨f | y, s'⟩ <;> rw [hrun] at h hx
  · simp only [run_bind] at hx
    rcases hclean : cleanUp launcher s' with ⟨_ | _, _⟩ <;> rw [hclean] at hx <;> cases hx
  · exact h x hx

theorem andThenDo {a : Action α} {cleanUp : Action Unit} (ha : Ensures P a) :
    Ensures P (Action.andThenDo a cleanUp) :=
  ha.orElseDo.bind fun _ hx => last fun _ => .pure hx

end Ensures

end Action

end JarLens
