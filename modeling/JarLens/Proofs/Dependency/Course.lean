import JarLens.Proofs.Dependency.AtHome

/-!
# The course of a scan

`Course` follows one scan from step to step, among anything else that goes on, and keeps account of
the tools that the scan tries to start. What is known of the scan depends on its stage only
(`Stage.Known`): until its build is started it has started nothing, and from then on at most one
tool, at home. Every step preserves this (`known_step`, `known_conclude`), so it holds along any
course (`Course.known`).
-/

namespace JarLens.Dependency

open JarLens.Action

/-- One scan among anything else that goes on: the state and the stage that it has come to, and what
it tried to start, each with the machine as the step found it. The project is located on `m₀`, and
the markers in its root are the same where the build is started. -/
inductive Course (path : Text) (options : ScanOptions) (m₀ : Machine) :
    State → Stage → List (Machine × Launch) → Prop
  | ask {s} : Course path options m₀ s (.asked path options) []
  /-- Anything else goes on. -/
  | world {s s' stage tried} (before : Course path options m₀ s stage tried) :
      Course path options m₀ s' stage tried
  | step {s s' stage stage' tried more} (before : Course path options m₀ s stage tried)
      (isFree : Nat → Bool) (launcher : Launcher)
      (hasked : ∀ p o, stage = .asked p o → s.machine = m₀)
      (hclear : ∀ r lock, stage = .clear r lock →
        m₀.files.SameMarkers (r.workplace s.machine).files r.root)
      (h : stage.step isFree launcher s = (.ok stage', s'))
      (hmore : s'.launches = s.launches ++ more) :
      Course path options m₀ s' stage' (tried ++ more.map (s.machine, ·))
  /-- The tool of the build ends in any way. -/
  | conclude {s s' stage stage' tried more} (before : Course path options m₀ s stage tried)
      (finished : Finished) (launcher : Launcher)
      (h : stage.conclude finished launcher s = (.ok stage', s'))
      (hmore : s'.launches = s.launches ++ more) :
      Course path options m₀ s' stage' (tried ++ more.map (s.machine, ·))

/-- At most one tool was started, at home in the project of a path. -/
def StartedAtHome (m₀ : Machine) (path : Text) (tried : List (Machine × Launch)) : Prop :=
  tried = [] ∨ ∃ (r : ScanRequest) (m : Machine) (l : Launch), tried = [(m, l)] ∧
    r.IsLocated m₀ path ∧ r.IsHomeLaunch (r.workplace m) l

namespace Stage

/-- What is known of a scan by its stage. -/
def Known (m₀ : Machine) (path : Text) : Stage → List (Machine × Launch) → Prop
  | asked p _, tried => p = path ∧ tried = []
  | located r, tried | missed r _, tried | holding r _, tried | clear r _, tried =>
    r.IsLocated m₀ path ∧ tried = []
  | building _ _, tried | built _ _ _, tried => StartedAtHome m₀ path tried
  | done _ answer, tried =>
    (∀ f, answer = .error f → ¬f.IsMismatch) ∧ StartedAtHome m₀ path tried

section Steps

variable {m₀ : Machine} {path : Text} {stage stage' : Stage} {tried : List (Machine × Launch)}
  {more : List Launch} {launcher : Launcher} {s s' : State}

/-! ### Steps that start nothing -/

theorem isQuiet_orDone {r : Option ScanRequest} {body : Action Stage} (h : IsQuiet body) :
    IsQuiet (orDone r body) :=
  h.tryCatch fun _ _ => .pure _

theorem isQuiet_lockFor (r : ScanRequest) : IsQuiet (lockFor r) :=
  (isQuiet_claimLock r).bind fun _ => IsQuiet.get.bind fun _ => .pure _

/-- Only the step from `clear` starts a tool. -/
theorem isQuiet_step (isFree : Nat → Bool) (hclear : ∀ r lock, stage ≠ clear r lock) :
    IsQuiet (stage.step isFree) := by
  cases stage with
  | asked p o => exact isQuiet_orDone ((isQuiet_locateProject p o).map _)
  | located r => exact isQuiet_answerOr ((isQuiet_lockFor r).map _)
  | missed r lock => exact .pure _
  | holding r lock => exact isQuiet_answerOr (.pure _)
  | clear r lock => exact absurd rfl (hclear r lock)
  | building b lock => exact .pure _
  | built r lock result => exact (isQuiet_storeResult r result).map _
  | done r answer => exact .pure _

theorem isQuiet_conclude (finished : Finished) : IsQuiet (stage.conclude finished) := by
  cases stage with
  | building b lock => exact isQuiet_orDone ((isQuiet_finish b finished).map _)
  | _ => exact .pure _

/-- A quiet step adds nothing to what was started. -/
theorem more_eq_nil {a : Action Stage} (ha : IsQuiet a) (h : a launcher s = (.ok stage', s'))
    (hmore : s'.launches = s.launches ++ more) : more = [] := by
  have hlaunches := (ha launcher s).1
  rw [h, hmore] at hlaunches
  exact List.append_right_eq_self.1 hlaunches

/-! ### What steps preserve -/

theorem Known.answered {r : ScanRequest} {result : ScanResult} (h : StartedAtHome m₀ path tried) :
    Known m₀ path (answered r result) tried :=
  ⟨fun f hf => (by cases hf), h⟩

theorem run_orDone_of_ok {α : Type} {r : Option ScanRequest} {a : Action α} {next : α → Stage}
    {x : α} (h : a launcher s = (.ok x, s')) : orDone r (next <$> a) launcher s = (.ok (next x), s') := by
  rw [run_orDone, run_map, h]

theorem run_orDone_of_error {α : Type} {r : Option ScanRequest} {a : Action α} {next : α → Stage}
    {f : Failure} (h : a launcher s = (.error f, s')) :
    orDone r (next <$> a) launcher s = (.ok (done r (.error f)), s') := by
  rw [run_orDone, run_map, h]

/-- A failure that is no refusal may be the answer. -/
theorem known_orDone {α : Type} {r : Option ScanRequest} {a : Action α} {next : α → Stage}
    (h : orDone r (next <$> a) launcher s = (.ok stage', s'))
    (hfails : ∀ f, (a launcher s).1 = .error f → ¬f.IsMismatch)
    (hnext : ∀ x s₁, a launcher s = (.ok x, s₁) → Known m₀ path (next x) tried)
    (htried : StartedAtHome m₀ path tried) : Known m₀ path stage' tried := by
  rcases hrun : a launcher s with ⟨f | x, s₁⟩
  · cases (run_orDone_of_error hrun).symm.trans h
    rw [hrun] at hfails
    refine ⟨fun f' hf => ?_, htried⟩
    cases hf
    exact hfails f rfl
  · cases (run_orDone_of_ok hrun).symm.trans h
    exact hnext x s' hrun

/-- A step that the scan makes by itself preserves what is known by its stage. -/
theorem known_step (isFree : Nat → Bool) (hknown : Known m₀ path stage tried)
    (hasked : ∀ p o, stage = .asked p o → s.machine = m₀)
    (hclear : ∀ r lock, stage = .clear r lock →
      m₀.files.SameMarkers (r.workplace s.machine).files r.root)
    (h : stage.step isFree launcher s = (.ok stage', s'))
    (hmore : s'.launches = s.launches ++ more) :
    Known m₀ path stage' (tried ++ more.map (s.machine, ·)) := by
  -- Only the step from `clear` starts a tool, so everywhere else nothing is added to what was tried.
  have hquiet : (∀ r lock, stage ≠ clear r lock) → tried ++ more.map (s.machine, ·) = tried := by
    intro hne
    rw [more_eq_nil (isQuiet_step isFree hne) h hmore, List.map_nil, List.append_nil]
  cases stage with
  | asked p o =>
    obtain ⟨rfl, rfl⟩ := hknown
    rw [hquiet nofun]
    refine known_orDone h (isQuiet_locateProject p o launcher s).2 (fun r s₁ hrun => ?_) (.inl rfl)
    have hlocated := isLocated_of_locateProject hrun
    rw [hasked p o rfl] at hlocated
    exact ⟨hlocated, rfl⟩
  | located r =>
    obtain ⟨hlocated, rfl⟩ := hknown
    rw [hquiet nofun]
    rcases run_answerOr r (answered r) (missed r <$> lockFor r) launcher s with
      ⟨stored, s₁, -, -, hrun⟩ | ⟨-, hrun⟩
    · cases hrun.symm.trans h
      exact .answered (.inl rfl)
    · cases hrun.symm.trans h
      exact ⟨hlocated, rfl⟩
  | missed r lock =>
    rw [hquiet nofun]
    cases h
    split <;> exact hknown
  | holding r lock =>
    obtain ⟨hlocated, rfl⟩ := hknown
    rw [hquiet nofun]
    rcases run_answerOr r (answered r) (pure (clear r lock)) launcher s with
      ⟨stored, s₁, -, -, hrun⟩ | ⟨-, hrun⟩
    · cases hrun.symm.trans h
      exact .answered (.inl rfl)
    · cases hrun.symm.trans h
      exact ⟨hlocated, rfl⟩
  | clear r lock =>
    obtain ⟨hlocated, rfl⟩ := hknown
    obtain ⟨x, m', launched, hends, hstays⟩ :=
      @ends_startBuild r m₀ s.machine path launcher hlocated (hclear r lock rfl)
    obtain ⟨s₁, hrun, -, hlaunched⟩ := hends s rfl
    have hhome : StartedAtHome m₀ path (launched.map (s.machine, ·)) := by
      rcases hstays.home with rfl | ⟨l, rfl, hl⟩
      · exact .inl rfl
      · exact .inr ⟨r, s.machine, l, rfl, hlocated, hl⟩
    change orDone r ((building · lock) <$> startBuild r) launcher s = (.ok stage', s') at h
    have hs : s' = s₁ := by
      cases x with
      | error f => cases (run_orDone_of_error hrun).symm.trans h; rfl
      | ok b => cases (run_orDone_of_ok hrun).symm.trans h; rfl
    rw [hs, hlaunched] at hmore
    rw [← List.append_cancel_left hmore, List.nil_append]
    refine known_orDone h (fun f hf => ?_) (fun _ _ _ => hhome) hhome
    rw [hrun] at hf
    exact hstays.no_mismatch f hf
  | building b lock =>
    rw [hquiet nofun]
    cases h
    exact hknown
  | built r lock result =>
    rw [hquiet nofun]
    cases h
    exact .answered hknown
  | done r answer =>
    rw [hquiet nofun]
    cases h
    exact hknown

/-- The end of the tool preserves what is known by the stage. -/
theorem known_conclude (finished : Finished) (hknown : Known m₀ path stage tried)
    (h : stage.conclude finished launcher s = (.ok stage', s'))
    (hmore : s'.launches = s.launches ++ more) :
    Known m₀ path stage' (tried ++ more.map (s.machine, ·)) := by
  rw [more_eq_nil (isQuiet_conclude finished) h hmore, List.map_nil, List.append_nil]
  cases stage with
  | building b lock =>
    change orDone b.request (built b.request lock <$> b.finish finished) launcher s =
      (.ok stage', s') at h
    exact known_orDone h (isQuiet_finish b finished launcher s).2 (fun _ _ _ => hknown) hknown
  | _ =>
    cases h
    exact hknown

end Steps

end Stage

section Courses

variable {path : Text} {options : ScanOptions} {m₀ : Machine} {launcher : Launcher} {s s' : State}
  {stage stage' : Stage} {tried : List (Machine × Launch)} {r : ScanRequest}

/-- What is known by the stage holds along any course. -/
theorem Course.known (h : Course path options m₀ s stage tried) : stage.Known m₀ path tried := by
  induction h with
  | ask => exact ⟨rfl, rfl⟩
  | world _ ih => exact ih
  | step _ isFree launcher hasked hclear h hmore ih =>
    exact Stage.known_step isFree ih hasked hclear h hmore
  | conclude _ finished launcher h hmore ih => exact Stage.known_conclude finished ih h hmore

/-- No scan is refused for the kind of its project, and what it starts is at home. -/
theorem Course.staysHome (h : Course path options m₀ s stage tried) :
    StartedAtHome m₀ path tried ∧ ∀ r f, stage = .done r (.error f) → ¬f.IsMismatch := by
  have hknown := h.known
  cases stage with
  | asked | located | missed | holding | clear => exact ⟨.inl hknown.2, fun _ _ hf => by cases hf⟩
  | building | built => exact ⟨hknown, fun _ _ hf => by cases hf⟩
  | done r answer =>
    refine ⟨hknown.2, fun r' f hf => ?_⟩
    cases hf
    exact hknown.1 f rfl

/-! ## A scan at one go -/

/-- A step that starts nothing, with all locks free. -/
theorem Course.quietStep (before : Course path options m₀ s stage tried) (launcher : Launcher)
    (hasked : ∀ p o, stage = .asked p o → s.machine = m₀)
    (hclear : ∀ r lock, stage ≠ .clear r lock)
    (h : stage.step (fun _ => true) launcher s = (.ok stage', s')) :
    Course path options m₀ s' stage' tried ∧ s'.launches = s.launches := by
  have hlaunches := (Stage.isQuiet_step (fun _ => true) hclear launcher s).1
  rw [h] at hlaunches
  have hcourse := before.step (fun _ => true) launcher hasked
    (fun r lock hr => absurd hr (hclear r lock)) h (hlaunches.trans (List.append_nil _).symm)
  rw [List.map_nil, List.append_nil] at hcourse
  exact ⟨hcourse, hlaunches⟩

theorem Course.quietConclude (before : Course path options m₀ s stage tried) (finished : Finished)
    (h : stage.conclude finished launcher s = (.ok stage', s')) :
    Course path options m₀ s' stage' tried ∧ s'.launches = s.launches := by
  have hends : IsQuiet (stage.conclude finished) := Stage.isQuiet_conclude finished
  have hlaunches := (hends launcher s).1
  rw [h] at hlaunches
  have hcourse := before.conclude finished launcher h (hlaunches.trans (List.append_nil _).symm)
  rw [List.map_nil, List.append_nil] at hcourse
  exact ⟨hcourse, hlaunches⟩

/-- What a scan does that is clear to build. -/
def buildAndStore (r : ScanRequest) : Action ScanResult := do
  let build ← startBuild r
  let (_, finished) ← Action.await build.tool.number []
  storeResult r (← build.finish finished)

/-- The second half of a scan at one go is made of the steps from `clear` on. -/
theorem course_of_buildAndStore {x : Except Failure ScanResult} {lock : Nat}
    (before : Course path options m₀ s (.clear r lock) [])
    (hsame : m₀.files.SameMarkers (r.workplace s.machine).files r.root)
    (h : buildAndStore r launcher s = (x, s')) :
    ∃ launched, Course path options m₀ s' (.done (some r) x) (launched.map (s.machine, ·)) ∧
      s'.launches = s.launches ++ launched := by
  obtain ⟨hlocated, -⟩ := before.known
  obtain ⟨y, m', launched, hends, -⟩ :=
    @ends_startBuild r m₀ s.machine path launcher hlocated hsame
  obtain ⟨s₁, hstart, -, hlaunched⟩ := hends s rfl
  have hclear : ∀ r' lock', Stage.clear r lock = .clear r' lock' →
      m₀.files.SameMarkers (r'.workplace s.machine).files r'.root := by
    rintro r' lock' ⟨⟩
    exact hsame
  refine ⟨launched, ?_⟩
  rw [buildAndStore, run_bind, hstart] at h
  cases y with
  | error f =>
    cases h
    exact ⟨before.step (fun _ => true) launcher nofun hclear (Stage.run_orDone_of_error hstart)
      hlaunched, hlaunched⟩
  | ok b =>
    have hbuilding := before.step (fun _ => true) launcher nofun hclear
      (Stage.run_orDone_of_ok hstart) hlaunched
    obtain rfl : b.request = r := request_of_startBuild r launcher s b (by rw [hstart])
    -- While the tool runs, anything else may go on.
    have hwait : ∃ number finished s₂, Action.await b.tool.number [] launcher s₁ =
        (.ok (number, finished), s₂) ∧ s₂.launches = s₁.launches := ⟨_, _, _, rfl, rfl⟩
    obtain ⟨number, finished, s₂, hwait, hwaited⟩ := hwait
    have hwaiting : Course path options m₀ s₂ (.building b lock) (launched.map (s.machine, ·)) :=
      hbuilding.world
    rw [← hwaited] at hlaunched
    dsimp only at h
    rw [run_bind, hwait] at h
    dsimp only at h
    rw [run_bind] at h
    rcases hfinish : b.finish finished launcher s₂ with ⟨f | result, s₃⟩ <;> rw [hfinish] at h
    · cases h
      obtain ⟨hdone, hquiet⟩ := hwaiting.quietConclude finished (Stage.run_orDone_of_error hfinish)
      exact ⟨hdone, hquiet.trans hlaunched⟩
    · obtain ⟨hbuilt, hquiet⟩ := hwaiting.quietConclude finished (Stage.run_orDone_of_ok hfinish)
      cases h
      obtain ⟨hdone, hquiet'⟩ := hbuilt.quietStep launcher nofun nofun rfl
      exact ⟨hdone, (hquiet'.trans hquiet).trans hlaunched⟩

/-- What a scan does that knows its project. -/
def answerOrBuild (r : ScanRequest) : Action ScanResult :=
  answerOr r id do
    claimLock r
    answerOr r id (buildAndStore r)

/-- What a scan at one go does with a located project is made of the steps from `located` on. -/
theorem course_of_answerOrBuild {x : Except Failure ScanResult}
    (before : Course path options m₀ s (.located r) [])
    (hsame : m₀.files.SameMarkers (r.workplace s.machine).files r.root)
    (h : answerOrBuild r launcher s = (x, s')) :
    ∃ launched, Course path options m₀ s' (.done (some r) x) (launched.map (s.machine, ·)) ∧
      s'.launches = s.launches ++ launched := by
  unfold answerOrBuild at h
  cases hget : s.cache.get? r.key with
  | some stored =>
    rw [Stage.run_answerOr_of_some hget] at h
    cases h
    obtain ⟨hdone, hquiet⟩ :=
      before.quietStep launcher nofun nofun (Stage.run_answerOr_of_some hget)
    exact ⟨[], hdone, hquiet.trans (List.append_nil _).symm⟩
  | none =>
    obtain ⟨s₁, hclaim, hmachine, hlaunches⟩ : ∃ s₁, claimLock r launcher s = (.ok (), s₁) ∧
        s₁.machine = s.machine ∧ s₁.launches = s.launches := ⟨_, rfl, rfl, rfl⟩
    rw [Stage.run_answerOr_of_none hget, run_bind, hclaim] at h
    dsimp only at h
    have hmiss : (Stage.located r).step (fun _ => true) launcher s =
        (.ok (.missed r (s₁.cache.lockOf r.key)), s₁) := by
      show answerOr r (Stage.answered r) (Stage.missed r <$> lockFor r) launcher s = _
      rw [Stage.run_answerOr_of_none hget, run_map, lockFor, run_bind, hclaim]
      rfl
    obtain ⟨hmissed, -⟩ := before.quietStep launcher nofun nofun hmiss
    obtain ⟨hholding, -⟩ := hmissed.quietStep launcher nofun nofun rfl
    cases hget₁ : s₁.cache.get? r.key with
    | some stored =>
      rw [Stage.run_answerOr_of_some hget₁] at h
      cases h
      obtain ⟨hdone, hquiet⟩ :=
        hholding.quietStep launcher nofun nofun (Stage.run_answerOr_of_some hget₁)
      exact ⟨[], hdone, (hquiet.trans hlaunches).trans (List.append_nil _).symm⟩
    | none =>
      rw [Stage.run_answerOr_of_none hget₁] at h
      obtain ⟨hclear, -⟩ :=
        hholding.quietStep launcher nofun nofun (Stage.run_answerOr_of_none hget₁)
      rw [← hmachine] at hsame ⊢
      rw [← hlaunches]
      exact course_of_buildAndStore hclear hsame h

/-- A scan at one go is made of steps of a scan. -/
theorem course_of_scan {x : Except Failure ScanResult}
    (hsame : ∀ r : ScanRequest, r.IsLocated s.machine path → r.options = options →
      s.machine.files.SameMarkers (r.workplace s.machine).files r.root)
    (h : scan path options launcher s = (x, s')) :
    ∃ r launched, Course path options s.machine s' (.done r x) (launched.map (s.machine, ·)) ∧
      s'.launches = s.launches ++ launched := by
  have hasked : Course path options s.machine s (.asked path options) [] := .ask
  have hmachine : ∀ p o, Stage.asked path options = .asked p o → s.machine = s.machine :=
    fun _ _ _ => rfl
  -- The markers are compared to those of the machine asked on: locating leaves it as it is.
  have hkeeps := (keeps_locateProject : Keeps State.machine (locateProject path options)) launcher s
  change (locateProject path options >>= answerOrBuild) launcher s = (x, s') at h
  rw [run_bind] at h
  rcases hlocate : locateProject path options launcher s with ⟨f | r, s₁⟩ <;>
    rw [hlocate] at h hkeeps
  · cases h
    obtain ⟨hdone, hquiet⟩ :=
      hasked.quietStep launcher hmachine nofun (Stage.run_orDone_of_error hlocate)
    exact ⟨none, [], hdone, hquiet.trans (List.append_nil _).symm⟩
  · obtain ⟨hlocated, hquiet⟩ :=
      hasked.quietStep launcher hmachine nofun (Stage.run_orDone_of_ok hlocate)
    have hmarkers := hsame r (isLocated_of_locateProject hlocate)
      (isFor_of_locateProject (by rw [hlocate])).1
    dsimp only at h hkeeps
    rw [← hkeeps] at hmarkers hlocated ⊢
    obtain ⟨launched, hdone, hlaunched⟩ := course_of_answerOrBuild hlocated hmarkers h
    exact ⟨some r, launched, hdone, by rw [hlaunched, hquiet]⟩

end Courses

end JarLens.Dependency
