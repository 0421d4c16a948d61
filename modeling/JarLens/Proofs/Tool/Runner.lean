import JarLens.Proofs.Dependency.Frame
import JarLens.Proofs.Tool.Isolation

/-!
# Runners

A runner stands for any way of running tools, with whatever effects and failures. It is plain if it
has nothing to do with the cache and goes by the machine and the stored results alone, as running a
tool does (`isPlain_runTool`). `Respects` says the latter of any action.
-/

namespace JarLens

open JarLens.Action

/-- On the machine and in the results that are stored two states agree. -/
structure State.Alike (s s' : State) : Prop where
  machine : s.machine = s'.machine
  results : s.cache.results = s'.cache.results

/-! ## What goes by the machine and the stored results -/

/-- States that agree on the machine and the stored results do so after the action, which gives the
same in both. -/
def Action.Respects {α : Type} (a : Action α) : Prop :=
  ∀ launcher s s', State.Alike s s' →
    (a launcher s).1 = (a launcher s').1 ∧ (a launcher s).2.Alike (a launcher s').2

namespace Action.Respects

variable {α β : Type}

theorem pure (x : α) : Respects (pure x : Action α) := fun _ _ _ h => ⟨rfl, h⟩

theorem throw (f : Failure) : Respects (throw f : Action α) := fun _ _ _ h => ⟨rfl, h⟩

theorem machine : Respects Action.machine := by
  intro launcher s s' h
  rw [run_machine, run_machine, h.machine]
  exact ⟨rfl, h⟩

theorem look (f : Machine → Except Failure α) : Respects (Action.look f) := by
  intro launcher s s' h
  rw [run_look, run_look, h.machine]
  exact ⟨rfl, h⟩

theorem modify {f : State → State} (hf : ∀ s s', State.Alike s s' → (f s).Alike (f s')) :
    Respects (modify f : Action Unit) := fun _ s s' h => ⟨rfl, hf s s' h⟩

theorem setFiles (files : Files) : Respects (Action.setFiles files) :=
  modify fun _ _ h => ⟨by rw [h.machine], h.results⟩

theorem log {level : LogLevel} {logger event : String} {fields : List (String × LogValue)} :
    Respects (Action.log level logger event fields) :=
  modify fun _ _ h => ⟨h.machine, h.results⟩

theorem logMessage {level : LogLevel} {logger : String} {message : Text} :
    Respects (Action.logMessage level logger message) :=
  modify fun _ _ h => ⟨h.machine, h.results⟩

/-- Both runs of the action, from states that agree. -/
theorem exists_runs {a : Action α} (ha : Respects a) {launcher : Launcher} {s s' : State}
    (h : s.Alike s') : ∃ x s₁ s₁', a launcher s = (x, s₁) ∧ a launcher s' = (x, s₁') ∧
      s₁.Alike s₁' := by
  obtain ⟨hresult, halike⟩ := ha launcher s s' h
  refine ⟨(a launcher s).1, (a launcher s).2, (a launcher s').2, rfl, ?_, halike⟩
  exact Prod.ext hresult.symm rfl

/-- Two steps that go by the machine and the results do so together. -/
theorem bind {a : Action α} {f : α → Action β} (ha : Respects a) (hf : ∀ x, Respects (f x)) :
    Respects (a >>= f) := by
  intro launcher s s' h
  obtain ⟨x, s₁, s₁', hrun, hrun', halike⟩ := ha.exists_runs h
  rw [run_bind, run_bind, hrun, hrun']
  cases x with
  | error e => exact ⟨rfl, halike⟩
  | ok x => exact hf x launcher s₁ s₁' halike

theorem map {a : Action α} (f : α → β) (ha : Respects a) : Respects (f <$> a) := by
  intro launcher s s' h
  obtain ⟨x, s₁, s₁', hrun, hrun', halike⟩ := ha.exists_runs h
  rw [run_map, run_map, hrun, hrun']
  cases x <;> exact ⟨rfl, halike⟩

/-- The failure is the same in both states, and so is what the handler does. -/
theorem tryCatch {a : Action α} {handle : Failure → Action α} (ha : Respects a)
    (hh : ∀ e, Respects (handle e)) : Respects (tryCatch a handle) := by
  intro launcher s s' h
  obtain ⟨x, s₁, s₁', hrun, hrun', halike⟩ := ha.exists_runs h
  rw [run_tryCatch, run_tryCatch, hrun, hrun']
  cases x with
  | error e => exact hh e launcher s₁ s₁' halike
  | ok x => exact ⟨rfl, halike⟩

theorem detectProject {path : Text} : Respects (detectProject path) := by
  refine (look _).bind fun found => ?_
  cases found.root <;> exact logMessage.bind fun _ => .pure _

/-- The scratch folder is chosen by the machine alone. -/
theorem withScratch {kind : String} {body : Place → Action α} (hbody : ∀ place, Respects (body place)) :
    Respects (withScratch kind body) := by
  have hclose : ∀ place, Respects (closeScratch place) := fun _ =>
    machine.bind fun _ => setFiles _
  refine (machine.bind fun _ => (setFiles _).bind fun _ => .pure _).bind fun place => ?_
  exact ((hbody place).tryCatch fun _ => (hclose place).bind fun _ => .throw _).bind fun _ =>
    (hclose place).bind fun _ => .pure _

end Action.Respects

/-! ## Runners -/

/-- A way of running tools: what is asked for may do anything to the state, and fail in any way. -/
abbrev Runner := ToolRequest → Action Outcome

/-- The runner leaves the cache alone, and goes by the machine and the stored results. -/
structure Runner.IsPlain (run : Runner) : Prop where
  keepsCache : ∀ r, Keeps State.cache (run r)
  respects : ∀ r, Respects (run r)

/-- Running a tool leaves the cache alone. -/
theorem keepsCache_runTool (r : ToolRequest) : Keeps State.cache (runTool r) :=
  keepsCache_toolStart.bind fun _ => Keeps.bind (fun _ _ => rfl) fun _ => keepsCache_outcome

/-- Running a tool is a plain runner. -/
theorem isPlain_runTool : Runner.IsPlain runTool := by
  refine ⟨keepsCache_runTool, fun r launcher s s' h => ?_⟩
  obtain ⟨x, m', tried, hruns⟩ := ToolRequest.Runs.total launcher s.machine r
  obtain ⟨s₁, hrun, hm, -⟩ := hruns.ends s rfl
  obtain ⟨s₁', hrun', hm', -⟩ := hruns.ends s' h.machine.symm
  have hcache := keepsCache_runTool r launcher s
  have hcache' := keepsCache_runTool r launcher s'
  rw [hrun] at hcache
  rw [hrun'] at hcache'
  rw [hrun, hrun']
  exact ⟨rfl, hm.trans hm'.symm, by rw [hcache, hcache']; exact h.results⟩

end JarLens
