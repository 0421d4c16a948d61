import JarLens.Proofs.Tool.Running

/-!
# What an action comes to

`Ends launcher m a x m' tried` says what an action comes to on a machine, whatever else the state
holds: its result, the machine that it leaves, and the tools that it tried to start. There is one
rule for each way of putting actions together. `ToolRequest.Runs` says what can come of running a
tool: it is refused, it does not start, or it ends in some way.
-/

namespace JarLens

namespace Action

/-- On the machine `m` the action ends with `x`, leaves the machine as `m'` and tries to start the
tools `tried`, whatever was logged, stored or started before. -/
def Ends {α : Type} (launcher : Launcher) (m : Machine) (a : Action α) (x : Except Failure α)
    (m' : Machine) (tried : List Launch) : Prop :=
  ∀ s : State, s.machine = m →
    ∃ s', a launcher s = (x, s') ∧ s'.machine = m' ∧ s'.launches = s.launches ++ tried

namespace Ends

variable {α β : Type} {launcher : Launcher} {m m₁ m₂ : Machine} {t₁ t₂ : List Launch}

theorem pure (x : α) : Ends launcher m (pure x) (.ok x) m [] := by
  rintro s rfl
  exact ⟨s, rfl, rfl, (List.append_nil _).symm⟩

theorem throw (f : Failure) : Ends launcher m (throw f : Action α) (.error f) m [] := by
  rintro s rfl
  exact ⟨s, rfl, rfl, (List.append_nil _).symm⟩

theorem machine : Ends launcher m Action.machine (.ok m) m [] := by
  rintro s rfl
  exact ⟨s, rfl, rfl, (List.append_nil _).symm⟩

theorem look {f : Machine → Except Failure α} {x : Except Failure α} (h : f m = x) :
    Ends launcher m (Action.look f) x m [] := by
  rintro s rfl
  exact ⟨s, by rw [run_look, h], rfl, (List.append_nil _).symm⟩

theorem log {level : LogLevel} {logger event : String} {fields : List (String × LogValue)} :
    Ends launcher m (Action.log level logger event fields) (.ok ()) m [] := by
  rintro s rfl
  exact ⟨_, rfl, rfl, (List.append_nil _).symm⟩

theorem logMessage {level : LogLevel} {logger : String} {message : Text} :
    Ends launcher m (Action.logMessage level logger message) (.ok ()) m [] := by
  rintro s rfl
  exact ⟨_, rfl, rfl, (List.append_nil _).symm⟩

/-- Setting the files is the only primitive step that changes the machine. -/
theorem setFiles (files : Files) :
    Ends launcher m (Action.setFiles files) (.ok ()) (m.withFiles files) [] := by
  rintro s rfl
  exact ⟨_, rfl, rfl, (List.append_nil _).symm⟩

/-- The second step goes on where the first one ended, and what both tried adds up. -/
theorem bind {a : Action α} {f : α → Action β} {x : α} {y : Except Failure β}
    (ha : Ends launcher m a (.ok x) m₁ t₁) (hf : Ends launcher m₁ (f x) y m₂ t₂) :
    Ends launcher m (a >>= f) y m₂ (t₁ ++ t₂) := by
  intro s hs
  obtain ⟨s₁, hrun₁, hm₁, ht₁⟩ := ha s hs
  obtain ⟨s₂, hrun₂, hm₂, ht₂⟩ := hf s₁ hm₁
  refine ⟨s₂, by rw [run_bind, hrun₁]; exact hrun₂, hm₂, ?_⟩
  rw [ht₂, ht₁, List.append_assoc]

theorem bind_error {a : Action α} {f : α → Action β} {e : Failure}
    (ha : Ends launcher m a (.error e) m₁ t₁) : Ends launcher m (a >>= f) (.error e) m₁ t₁ := by
  intro s hs
  obtain ⟨s₁, hrun, hm₁, ht₁⟩ := ha s hs
  exact ⟨s₁, by rw [run_bind, hrun], hm₁, ht₁⟩

/-- After something that starts no tool, what is left to do. -/
theorem after {a : Action α} {f : α → Action β} {x : α} {y : Except Failure β}
    (ha : Ends launcher m a (.ok x) m₁ []) (hf : Ends launcher m₁ (f x) y m₂ t₂) :
    Ends launcher m (a >>= f) y m₂ t₂ :=
  ha.bind hf

/-- Something that starts no tool, at the end. -/
theorem before {a : Action α} {f : α → Action β} {x : α} {y : Except Failure β}
    (ha : Ends launcher m a (.ok x) m₁ t₁) (hf : Ends launcher m₁ (f x) y m₂ []) :
    Ends launcher m (a >>= f) y m₂ t₁ :=
  List.append_nil t₁ ▸ ha.bind hf

/-- Two things that change nothing and start no tool, one after the other. -/
theorem looks {a : Action α} {f : α → Action β} {x : Except Failure α} {y : α → Except Failure β}
    (ha : Ends launcher m a x m []) (hf : ∀ v, Ends launcher m (f v) (y v) m []) :
    Ends launcher m (a >>= f) (x >>= y) m [] := by
  cases x with
  | ok v => exact ha.bind (hf v)
  | error e => exact ha.bind_error

theorem map {a : Action α} (f : α → β) {x : Except Failure α}
    (ha : Ends launcher m a x m₁ t₁) : Ends launcher m (f <$> a) (x.map f) m₁ t₁ := by
  intro s hs
  obtain ⟨s₁, hrun, hm₁, ht₁⟩ := ha s hs
  refine ⟨s₁, ?_, hm₁, ht₁⟩
  rw [run_map, hrun]
  cases x <;> rfl

theorem tryCatch_ok {a : Action α} {handle : Failure → Action α} {x : α}
    (ha : Ends launcher m a (.ok x) m₁ t₁) : Ends launcher m (tryCatch a handle) (.ok x) m₁ t₁ := by
  intro s hs
  obtain ⟨s₁, hrun, hm₁, ht₁⟩ := ha s hs
  exact ⟨s₁, by rw [run_tryCatch, hrun], hm₁, ht₁⟩

/-- A handler that starts nothing goes on where the attempt failed. -/
theorem tryCatch_error {a : Action α} {handle : Failure → Action α} {e : Failure}
    {y : Except Failure α} (ha : Ends launcher m a (.error e) m₁ t₁)
    (hh : Ends launcher m₁ (handle e) y m₂ []) :
    Ends launcher m (tryCatch a handle) y m₂ t₁ := by
  intro s hs
  obtain ⟨s₁, hrun, hm₁, ht₁⟩ := ha s hs
  obtain ⟨s₂, hrun₂, hm₂, ht₂⟩ := hh s₁ hm₁
  refine ⟨s₂, by rw [run_tryCatch, hrun]; exact hrun₂, hm₂, ?_⟩
  rw [ht₂, List.append_nil, ht₁]

/-- What is done at the end in any case does not change the result. -/
theorem andThenDo {a : Action α} {cleanUp : Action Unit} {x : Except Failure α}
    (ha : Ends launcher m a x m₁ t₁) (hc : Ends launcher m₁ cleanUp (.ok ()) m₂ []) :
    Ends launcher m (Action.andThenDo a cleanUp) x m₂ t₁ := by
  cases x with
  | ok x => exact ha.tryCatch_ok.before (hc.after (.pure x))
  | error e => exact (ha.tryCatch_error (hc.after (.throw e))).bind_error

/-- An action ends in one way only. -/
theorem unique {a : Action α} {x y : Except Failure α} (hx : Ends launcher m a x m₁ t₁)
    (hy : Ends launcher m a y m₂ t₂) : x = y ∧ m₁ = m₂ ∧ t₁ = t₂ := by
  obtain ⟨s₁, hrun₁, rfl, ht₁⟩ := hx { machine := m } rfl
  obtain ⟨s₂, hrun₂, rfl, ht₂⟩ := hy { machine := m } rfl
  rw [hrun₁] at hrun₂
  cases hrun₂
  exact ⟨rfl, rfl, ht₁.symm.trans ht₂⟩

/-- Since an action comes to one thing only, that is what it has to be compared with. -/
theorem exists_iff {a : Action α} {x y : Except Failure α} (h : Ends launcher m a x m₁ t₁) :
    (∃ m', Ends launcher m a y m' t₂) ↔ y = x ∧ t₂ = t₁ := by
  constructor
  · rintro ⟨m', hy⟩
    obtain ⟨rfl, -, rfl⟩ := hy.unique h
    exact ⟨rfl, rfl⟩
  · rintro ⟨rfl, rfl⟩
    exact ⟨m₁, h⟩

end Ends

end Action

open JarLens.Action

/-! ## Scratch folders -/

/-- The machine with a new scratch folder. -/
def Machine.withScratch (m : Machine) (kind : Text) : Machine :=
  m.withFiles (m.files.put (m.freshScratch kind) (.folder scratchMode))

/-- The machine without a scratch folder. -/
def Machine.withoutScratch (m : Machine) (place : Place) : Machine :=
  m.withFiles (m.files.eraseFolder place)

theorem ends_openScratch {launcher : Launcher} {m : Machine} {kind : String} :
    Ends launcher m (openScratch kind) (.ok (m.freshScratch kind.toList))
      (m.withScratch kind.toList) [] :=
  Ends.machine.after ((Ends.setFiles _).after (.pure _))

theorem ends_closeScratch {launcher : Launcher} {m : Machine} {place : Place} :
    Ends launcher m (closeScratch place) (.ok ()) (m.withoutScratch place) [] :=
  Ends.machine.after (.setFiles _)

/-- A body comes to the same in its scratch folder, which is cleared from what it left. -/
theorem ends_withScratch {α : Type} {launcher : Launcher} {m m' : Machine} {kind : String}
    {body : Place → Action α} {x : Except Failure α} {tried : List Launch}
    (h : Ends launcher (m.withScratch kind.toList) (body (m.freshScratch kind.toList)) x m' tried) :
    Ends launcher m (withScratch kind body) x (m'.withoutScratch (m.freshScratch kind.toList))
      tried :=
  ends_openScratch.after (h.andThenDo ends_closeScratch)

/-! ## Tools -/

/-- Detection comes to what the machine alone tells. -/
theorem ends_detectProject {launcher : Launcher} {m : Machine} {path : Text} :
    Ends launcher m (detectProject path) (m.detect path) m [] := by
  rw [← bind_pure (m.detect path)]
  refine (Ends.look rfl).looks fun found => ?_
  cases found.root <;> exact Ends.logMessage.after (.pure _)

namespace ToolRequest

/-- The project that a tool runs in, if it may run there. -/
def ready (r : ToolRequest) (m : Machine) : Except Failure Detection := do
  let project ← m.detect (← r.context m)
  guardKind r.command project
  pure project

/-- What can come of running a tool on a machine. -/
inductive Runs (launcher : Launcher) (m : Machine) (r : ToolRequest) :
    Except Failure Outcome → Machine → List Launch → Prop
  /-- It may not run, or its project is not known. -/
  | refused {f} (h : r.ready m = .error f) : Runs launcher m r (.error f) m []
  | notStarted {project fault} (h : r.ready m = .ok project)
      (hstart : launcher.start m r.launch = .error fault) :
      Runs launcher m r (.error (fault.toFailure r.command)) m [r.launch]
  /-- It ends with any exit code, output and change of the machine. -/
  | finished {project number site other finished site'} (h : r.ready m = .ok project)
      (hstart : launcher.start m r.launch = .ok (number, site))
      (hawait : launcher.await (m.withSite site) number [] = (other, finished, site')) :
      Runs launcher m r (.ok (finished.outcome project)) ((m.withSite site).withSite site')
        [r.launch]

variable {launcher : Launcher} {m m' : Machine} {r : ToolRequest} {x : Except Failure Outcome}
  {tried : List Launch}

theorem Runs.total (launcher : Launcher) (m : Machine) (r : ToolRequest) :
    ∃ x m' tried, r.Runs launcher m x m' tried := by
  cases hready : r.ready m with
  | error f => exact ⟨_, _, _, .refused hready⟩
  | ok project =>
    cases hstart : launcher.start m r.launch with
    | error fault => exact ⟨_, _, _, .notStarted hready hstart⟩
    | ok started =>
      obtain ⟨number, site⟩ := started
      exact ⟨_, _, _, .finished hready hstart rfl⟩

/-- Nothing else is started for a request than its own tool, and that only if it may run. -/
theorem Runs.mem_iff (h : r.Runs launcher m x m' tried) {l : Launch} :
    l ∈ tried ↔ l = r.launch ∧ ∃ project, r.ready m = .ok project := by
  cases h with
  | refused hready => simp [hready]
  | notStarted hready hstart => simp [hready]
  | finished hready hstart hawait => simp [hready]

theorem ends_enter : Ends launcher m r.enter (r.ready m) m [] :=
  (Ends.look rfl).looks fun _ => ends_detectProject.looks fun _ =>
    (Ends.look rfl).looks fun _ => .pure _

/-- What can come of starting a tool on a machine. -/
inductive Starts (launcher : Launcher) (m : Machine) (r : ToolRequest) :
    Except Failure RunningTool → Machine → List Launch → Prop
  /-- It may not run, or its project is not known. -/
  | refused {f} (h : r.ready m = .error f) : Starts launcher m r (.error f) m []
  | notStarted {project fault} (h : r.ready m = .ok project)
      (hstart : launcher.start m r.launch = .error fault) :
      Starts launcher m r (.error (fault.toFailure r.command)) m [r.launch]
  | started {project number site} (h : r.ready m = .ok project)
      (hstart : launcher.start m r.launch = .ok (number, site)) :
      Starts launcher m r (.ok ⟨r.command, project, number⟩) (m.withSite site) [r.launch]

theorem Starts.total (launcher : Launcher) (m : Machine) (r : ToolRequest) :
    ∃ x m' tried, r.Starts launcher m x m' tried := by
  cases hready : r.ready m with
  | error f => exact ⟨_, _, _, .refused hready⟩
  | ok project =>
    cases hstart : launcher.start m r.launch with
    | error fault => exact ⟨_, _, _, .notStarted hready hstart⟩
    | ok started => exact ⟨_, _, _, .started hready hstart⟩

theorem Starts.ends {x : Except Failure RunningTool} (h : r.Starts launcher m x m' tried) :
    Ends launcher m r.start x m' tried := by
  have henter := @ends_enter launcher m r
  cases h with
  | refused hready =>
    rw [hready] at henter
    exact henter.bind_error
  | @notStarted project fault hready hstart =>
    rw [hready] at henter
    have hnot : Ends launcher m (Action.start r.launch) (.ok (.error fault)) m [r.launch] := by
      rintro s rfl
      exact ⟨{ s with launches := s.launches ++ [r.launch] }, by simp only [Action.start, hstart],
        rfl, rfl⟩
    exact henter.after (Ends.log.after (hnot.before (.throw _)))
  | @started project number site hready hstart =>
    rw [hready] at henter
    have hstarted : Ends launcher m (Action.start r.launch) (.ok (.ok number)) (m.withSite site)
        [r.launch] := by
      rintro s rfl
      exact ⟨{ s with machine := s.machine.withSite site, launches := s.launches ++ [r.launch] },
        by simp only [Action.start, hstart], rfl, rfl⟩
    exact henter.after (Ends.log.after (hstarted.before (.pure _)))

/-- Running a tool comes to what `Runs` tells. -/
theorem Runs.ends (h : r.Runs launcher m x m' tried) : Ends launcher m (runTool r) x m' tried := by
  cases h with
  | refused hready => exact (Starts.refused hready).ends.bind_error
  | notStarted hready hstart => exact (Starts.notStarted hready hstart).ends.bind_error
  | @finished project number site other finished site' hready hstart hawait =>
    have hwaited : Ends launcher (m.withSite site) (Action.await number [])
        (.ok (number, finished)) ((m.withSite site).withSite site') [] := by
      rintro s hs
      refine ⟨{ s with machine := (m.withSite site).withSite site' }, ?_, rfl,
        (List.append_nil _).symm⟩
      simp only [Action.await, hs, hawait, List.not_mem_nil, if_false]
    exact (Starts.started hready hstart).ends.before (hwaited.after (Ends.log.after (.pure _)))

end ToolRequest

/-! ## What is known from the machine -/

/-- What comes of the action is known from the machine, whatever was logged, stored or started
before. -/
def Action.IsSettled {α : Type} (a : Action α) : Prop :=
  ∀ launcher m, ∃ x m' tried, Ends launcher m a x m' tried

namespace Action.IsSettled

variable {α β : Type} {a : Action α}

theorem pure (x : α) : IsSettled (pure x : Action α) := fun _ m => ⟨_, m, _, .pure x⟩

theorem throw (f : Failure) : IsSettled (throw f : Action α) := fun _ m => ⟨_, m, _, .throw f⟩

theorem machine : IsSettled Action.machine := fun _ m => ⟨_, m, _, .machine⟩

theorem look (f : Machine → Except Failure α) : IsSettled (Action.look f) :=
  fun _ m => ⟨_, m, _, .look rfl⟩

theorem setFiles (files : Files) : IsSettled (Action.setFiles files) :=
  fun _ _ => ⟨_, _, _, .setFiles files⟩

theorem log {level : LogLevel} {logger event : String} {fields : List (String × LogValue)} :
    IsSettled (Action.log level logger event fields) := fun _ m => ⟨_, m, _, .log⟩

/-- A step that is settled may depend on the result of one that is settled. -/
theorem bind {f : α → Action β} (ha : IsSettled a) (hf : ∀ x, IsSettled (f x)) :
    IsSettled (a >>= f) := by
  intro launcher m
  obtain ⟨e | x, m₁, t₁, hends⟩ := ha launcher m
  · exact ⟨_, _, _, hends.bind_error⟩
  · obtain ⟨y, m₂, t₂, hends'⟩ := hf x launcher m₁
    exact ⟨_, _, _, hends.bind hends'⟩

/-- A failure is told in other words. -/
theorem retold (ha : IsSettled a) (g : Failure → Failure) :
    IsSettled (tryCatch a fun e => MonadExcept.throw (g e)) := by
  intro launcher m
  obtain ⟨e | x, m₁, t₁, hends⟩ := ha launcher m
  · exact ⟨_, _, _, hends.tryCatch_error (.throw (g e))⟩
  · exact ⟨_, _, _, hends.tryCatch_ok⟩

/-- What is settled in every scratch folder is settled. -/
theorem withScratch {kind : String} {body : Place → Action α} (h : ∀ place, IsSettled (body place)) :
    IsSettled (withScratch kind body) := by
  intro launcher m
  obtain ⟨x, m', tried, hends⟩ := h (m.freshScratch kind.toList) launcher (m.withScratch kind.toList)
  exact ⟨_, _, _, ends_withScratch hends⟩

/-- What a run of a tool comes to depends on the machine and the launcher only. -/
theorem runTool (r : ToolRequest) : IsSettled (runTool r) := by
  intro launcher m
  obtain ⟨x, m', tried, hruns⟩ := ToolRequest.Runs.total launcher m r
  exact ⟨x, m', tried, hruns.ends⟩

end Action.IsSettled

end JarLens
