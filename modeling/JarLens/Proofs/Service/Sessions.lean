import JarLens.Proofs.Dependency.Course
import JarLens.CommandLine.Run

/-!
# Sessions

A session is a list of operations, each under a launcher of its own, between which anything may
happen to the machine. Every operation starts only tools that it asks for itself and that the guard
lets pass on the machine as it is then (`startsOnly_perform`). So it makes no difference to a
session what the launchers would do for any other start (`play_congr`): none is ever asked for.
-/

namespace JarLens

open JarLens.Action

/-! ## Reading and scanning -/

/-- A launch is what comes of one of some requests that the guard lets pass. -/
def MadeOf (asks : ToolRequest → Prop) (m : Machine) (l : Launch) : Prop :=
  ∃ r, asks r ∧ r.May m l

section Tools

variable {asks : ToolRequest → Prop} {r : ToolRequest}

theorem startsOnly_start (h : asks r) : StartsOnly (MadeOf asks) r.start :=
  (startsOnly_toolStart r).mono fun _ _ hl => ⟨r, h, hl⟩

theorem startsOnly_run (h : asks r) : StartsOnly (MadeOf asks) (runTool r) :=
  (startsOnly_runTool r).mono fun _ _ hl => ⟨r, h, hl⟩

end Tools

namespace Source

variable {may : Machine → Launch → Prop} {asks : ToolRequest → Prop}

theorem startsOnly_orNoTool {α : Type} {a : Action α} (ha : StartsOnly may a) :
    StartsOnly may (orNoTool a) := by
  refine (ha.map _).tryCatch fun failure => ?_
  split
  · exact .pure _
  · exact .throw _

theorem startsOnly_collectDecompiled (output entry className : Text) (o : Outcome) :
    StartsOnly may (collectDecompiled output entry className o) := by
  unfold collectDecompiled
  split
  · exact StartsOnly.log.bind fun _ => .pure _
  · refine (StartsOnly.look _).bind fun text => ?_
    split
    · exact .pure _
    · exact StartsOnly.log.bind fun _ => .pure _

/-- The decompiler is started for the archive only. -/
theorem startsOnly_decompile {archive : Text}
    (h : ∀ r : ToolRequest, r.project = some archive → asks r) (entry className : Text) :
    StartsOnly (MadeOf asks) (decompile archive entry className) := by
  have hlocate : StartsOnly (MadeOf asks) (locateDecompiler decompilerFile) :=
    (StartsOnly.look _).bind fun _ => StartsOnly.logMessage.bind fun _ => .pure _
  refine (startsOnly_orNoTool hlocate).bind fun found => ?_
  split
  · exact .pure _
  · refine .withScratch fun output => StartsOnly.machine.bind fun m => ?_
    refine (startsOnly_orNoTool (startsOnly_run (h _ rfl))).bind fun ran => ?_
    split
    · exact .pure _
    · exact startsOnly_collectDecompiled _ _ _ _

theorem startsOnly_signature {archive : Text}
    (h : ∀ r : ToolRequest, r.project = some archive → asks r) (className : Text) :
    StartsOnly (MadeOf asks) (signature archive className) := by
  refine StartsOnly.machine.bind fun m => ?_
  refine (startsOnly_orNoTool (startsOnly_run (h _ rfl))).bind fun ran => ?_
  split <;> exact .pure _

theorem startsOnly_resolved (r : ClassRequest) (reading : Reading) :
    StartsOnly may (resolved r reading) :=
  StartsOnly.log.bind fun _ => .pure _

theorem startsOnly_attachedSource (r : ClassRequest) : StartsOnly may (attachedSource r) := by
  have htext : ∀ sources entry, StartsOnly may (attachedText sources entry) := by
    refine fun sources entry => (StartsOnly.look _).tryCatch fun failure => ?_
    split
    · exact StartsOnly.log.bind fun _ => .pure _
    · exact .throw _
  unfold attachedSource
  split
  · exact .pure _
  · refine (StartsOnly.look _).bind fun found => ?_
    split
    · exact .pure _
    · exact (htext _ _).bind fun _ => .pure _

/-- The tiers start tools for the archive only. -/
theorem startsOnly_readClass (r : ClassRequest)
    (h : ∀ t : ToolRequest, t.project = some r.archive → asks t) :
    StartsOnly (MadeOf asks) (readClass r) := by
  refine (startsOnly_attachedSource r).bind fun attached => ?_
  split
  · exact startsOnly_resolved _ _
  refine (startsOnly_decompile h _ _).bind fun decompiled => ?_
  split
  · exact startsOnly_resolved _ _
  refine (startsOnly_signature h _).bind fun signatures => ?_
  split
  · exact startsOnly_resolved _ _
  · exact StartsOnly.log.bind fun _ => .throw _

/-- Reading an entry starts tools only for the archive that its path names. -/
theorem startsOnly_readEntry {path : Text}
    (h : ∀ (m : Machine) place (r : ToolRequest), m.archivePlace path = .ok place →
      r.project = some place.toText → asks r) (entry : Text) :
    StartsOnly (MadeOf asks) (readEntry path entry) := by
  -- The place is the one of the machine that is looked at here, so `bind` alone would lose it.
  refine StartsOnly.look_bind fun m place hplace => ?_
  unfold readAt
  split
  · exact .throw _
  split
  · refine (StartsOnly.look _).bind fun text => ?_
    split
    · exact .throw _
    · exact .pure _
  refine (StartsOnly.look _).bind fun found => ?_
  split
  · exact .throw _
  · exact startsOnly_readClass _ fun r hr => h m place r hplace hr

end Source

namespace Dependency

/-- The request is meant for the folder that it names. -/
def AsksAtRoot (r : ToolRequest) : Prop :=
  ∃ root, r.project = some root ∧ r.folder = some root

section Scans

variable {may : Machine → Launch → Prop}

/-- Detection starts nothing. -/
theorem startsOnly_locateProject (path : Text) (options : ScanOptions) :
    StartsOnly may (locateProject path options) := by
  refine (StartsOnly.look _).bind fun place => (StartsOnly.detectProject _).bind fun found => ?_
  cases found.root with
  | none => exact .throw _
  | some root => exact .pure _

theorem startsOnly_answerOr {α : Type} {r : ScanRequest} {found : ScanResult → α}
    {missed : Action α} (h : StartsOnly may missed) : StartsOnly may (answerOr r found missed) := by
  refine StartsOnly.get.bind fun s => ?_
  split
  · exact (StartsOnly.log.bind fun _ => .pure _).map found
  · exact h

theorem startsOnly_claimLock (r : ScanRequest) : StartsOnly may (claimLock r) := .modify _

theorem startsOnly_storeResult (r : ScanRequest) (built : ScanResult) :
    StartsOnly may (storeResult r built) := by
  refine StartsOnly.bind (.modify _) fun _ => ?_
  exact StartsOnly.log.bind fun _ => .pure _

theorem startsOnly_finish (b : Build) (finished : Finished) :
    StartsOnly may (b.finish finished) := by
  have hcheck : ∀ label o, StartsOnly may (checkExit label o) := by
    intro label o
    unfold checkExit
    split
    · exact .pure ()
    · exact StartsOnly.log.bind fun _ => .throw _
  have hcollect : ∀ o, StartsOnly may (b.collect o) := by
    intro o
    unfold Build.collect
    cases b.request.kind with
    | maven => exact (hcheck _ _).bind fun _ => (StartsOnly.look _).bind fun _ => .pure _
    | gradle | native => exact (hcheck _ _).bind fun _ => .pure _
  exact ((StartsOnly.log.bind fun _ => .pure _).bind hcollect).andThenDo (.closeScratch _)

/-- A build starts tools at the root of its project only. -/
theorem startsOnly_startBuild (r : ScanRequest) :
    StartsOnly (MadeOf AsksAtRoot) (startBuild r) := by
  have htool : ∀ tool hint arguments,
      StartsOnly (MadeOf AsksAtRoot) (startTool r.root tool hint arguments) := by
    intro tool hint arguments
    rw [startTool_eq]
    exact (startsOnly_start ⟨r.root, rfl, rfl⟩).tryCatch fun _ => .throw _
  have hwrite : ∀ path, StartsOnly (MadeOf AsksAtRoot) (writeScript path r.options) := by
    refine fun path => StartsOnly.machine.bind fun m => ?_
    split
    · exact .setFiles _
    · exact .throw _
  have hstart : ∀ scratch, StartsOnly (MadeOf AsksAtRoot) (startIn r scratch) := by
    intro scratch
    unfold startIn
    cases r.kind with
    | maven => exact htool _ _ _
    | gradle | native =>
      exact (hwrite _).bind fun _ => (StartsOnly.look _).bind fun _ => htool _ _ _
  refine StartsOnly.log.bind fun _ => ?_
  rw [start_eq]
  exact (StartsOnly.openScratch _).bind fun scratch =>
    ((hstart scratch).orElseDo (.closeScratch _)).bind fun _ => .pure _

theorem startsOnly_scan (path : Text) (options : ScanOptions) :
    StartsOnly (MadeOf AsksAtRoot) (scan path options) := by
  have hbuild : ∀ r, StartsOnly (MadeOf AsksAtRoot) (buildAndStore r) := fun r =>
    (startsOnly_startBuild r).bind fun b => (StartsOnly.await _ _).bind fun _ =>
      (startsOnly_finish _ _).bind fun _ => startsOnly_storeResult r _
  exact (startsOnly_locateProject path options).bind fun r =>
    startsOnly_answerOr ((startsOnly_claimLock r).bind fun _ => startsOnly_answerOr (hbuild r))

/-! ### Scans at the same time -/

theorem startsOnly_orDone {r : Option ScanRequest} {body : Action Stage}
    (h : StartsOnly may body) : StartsOnly may (Stage.orDone r body) :=
  h.tryCatch fun _ => .pure _

theorem startsOnly_lockFor (r : ScanRequest) : StartsOnly may (lockFor r) :=
  (startsOnly_claimLock r).bind fun _ => StartsOnly.get.bind fun _ => .pure _

theorem startsOnly_step (isFree : Nat → Bool) (stage : Stage) :
    StartsOnly (MadeOf AsksAtRoot) (stage.step isFree) := by
  cases stage with
  | asked path options => exact startsOnly_orDone ((startsOnly_locateProject path options).map _)
  | located r => exact startsOnly_answerOr ((startsOnly_lockFor r).map _)
  | missed r lock => exact .pure _
  | holding r lock => exact startsOnly_answerOr (.pure _)
  | clear r lock => exact startsOnly_orDone ((startsOnly_startBuild r).map _)
  | building b lock => exact .pure _
  | built r lock result => exact (startsOnly_storeResult r result).map _
  | done r answer => exact .pure _

theorem startsOnly_advance (isFree : Nat → Bool) (stage : Stage) :
    StartsOnly (MadeOf AsksAtRoot) (stage.advance isFree) := by
  refine (startsOnly_step isFree stage).bind fun next => ?_
  split
  · exact startsOnly_step isFree _
  · exact .pure _

theorem startsOnly_settle (number : Nat) (finished : Finished) (stage : Stage) :
    StartsOnly (MadeOf AsksAtRoot) (stage.settle number finished) := by
  have hconclude : StartsOnly (MadeOf AsksAtRoot) (stage.conclude finished) := by
    cases stage with
    | building b lock => exact startsOnly_orDone ((startsOnly_finish b finished).map _)
    | _ => exact .pure _
  unfold Stage.settle
  split
  · refine hconclude.bind fun next => ?_
    split
    · exact startsOnly_step _ _
    · exact .pure _
  · exact .pure _

theorem startsOnly_stepAll (before after : List Stage) :
    StartsOnly (MadeOf AsksAtRoot) (stepAll before after) := by
  induction after generalizing before with
  | nil => exact .pure _
  | cons stage after ih => exact (startsOnly_advance _ stage).bind fun _ => ih _

/-- By induction over the rounds, scans at the same time start tools at the roots of their projects
only. -/
theorem startsOnly_runAll (rounds : Nat) (stages : List Stage) :
    StartsOnly (MadeOf AsksAtRoot) (runAll rounds stages) := by
  induction rounds generalizing stages with
  | zero => exact .pure _
  | succ rounds ih =>
    rw [runAll]
    split
    · exact (startsOnly_stepAll [] stages).bind ih
    split
    · exact .pure _
    · refine (StartsOnly.await _ _).bind fun ended => ?_
      exact (StartsOnly.mapM (startsOnly_settle ended.1 ended.2) stages).bind ih

theorem startsOnly_scanAll (asked : List (Text × ScanOptions)) :
    StartsOnly (MadeOf AsksAtRoot) (scanAll asked) :=
  (startsOnly_runAll _ _).bind fun _ => .pure _

end Scans

end Dependency

/-! ## Sessions -/

namespace Service

/-- What the program can be asked for. -/
inductive Operation where
  | list (path folder : Text)
  | read (path entry : Text)
  | scan (path : Text) (options : Dependency.ScanOptions)
  -- at the same time
  | scanAll (asked : List (Text × Dependency.ScanOptions))
  | run (r : ToolRequest)

namespace Operation

/-- Does what is asked for. What else comes of it than a failure plays no part here. -/
def perform : Operation → Action Unit
  | list path folder => (fun _ => ()) <$> Action.look (·.list CommandLine.listedRows path folder)
  | read path entry => (fun _ => ()) <$> Source.readEntry path entry
  | scan path options => (fun _ => ()) <$> Dependency.scan path options
  | scanAll asked => (fun _ => ()) <$> Dependency.scanAll asked
  | run r => (fun _ => ()) <$> runTool r

/-- The requests for tools that an operation can make. -/
inductive Asks : Operation → ToolRequest → Prop
  /-- What reads an entry is meant for the place of the archive. -/
  | read {path entry r m place} (hplace : Machine.archivePlace m path = .ok place)
      (h : r.project = some place.toText) : Asks (.read path entry) r
  | scan {path options r} (h : Dependency.AsksAtRoot r) : Asks (.scan path options) r
  | scanAll {asked r} (h : Dependency.AsksAtRoot r) : Asks (.scanAll asked) r
  | run {r} : Asks (.run r) r

/-- A launch is what comes of a request that the operation makes and that the guard lets pass. -/
def May (o : Operation) : Machine → Launch → Prop :=
  MadeOf o.Asks

/-- An operation starts only what it may. -/
theorem startsOnly_perform (o : Operation) : StartsOnly o.May o.perform := by
  cases o with
  | list path folder => exact (StartsOnly.look _).map _
  | read path entry =>
    exact (Source.startsOnly_readEntry (fun _ _ _ hplace h => .read hplace h) entry).map _
  | scan path options =>
    have hscan := Dependency.startsOnly_scan path options
    exact (hscan.mono fun _ _ ⟨r, hr, hl⟩ => ⟨r, .scan hr, hl⟩).map _
  | scanAll asked =>
    have hscan := Dependency.startsOnly_scanAll asked
    exact (hscan.mono fun _ _ ⟨r, hr, hl⟩ => ⟨r, .scanAll hr, hl⟩).map _
  | run r => exact (startsOnly_run .run).map _

end Operation

structure Turn where
  /-- What happened to the machine since the turn before. -/
  world : Machine → Machine
  launcher : Launcher
  operation : Operation

/-- What comes of each operation, and the state in the end. A failure does not end the session. -/
def play : List Turn → State → List (Except Failure Unit) × State
  | [], s => ([], s)
  | t :: turns, s =>
    let (x, s') := t.operation.perform t.launcher { s with machine := t.world s.machine }
    let (xs, s'') := play turns s'
    (x :: xs, s'')

/-- The turns are the same, but for what the launchers do with starts that are not let pass. -/
structure Turn.Agree (t t' : Turn) : Prop where
  world : t.world = t'.world
  operation : t.operation = t'.operation
  launcher : t.launcher.Agree t.operation.May t'.launcher

/-- An operation cannot tell launchers apart that agree on what it may start. -/
theorem perform_congr {t t' : Turn} (h : t.Agree t') (s : State) :
    t.operation.perform t.launcher { s with machine := t.world s.machine } =
      t'.operation.perform t'.launcher { s with machine := t'.world s.machine } := by
  rw [← h.world, ← h.operation]
  exact t.operation.startsOnly_perform t.launcher t'.launcher _ h.launcher

/-- By induction over the turns, a session cannot tell such launchers apart either. -/
theorem play_congr {turns turns' : List Turn} (h : List.Forall₂ Turn.Agree turns turns')
    (s : State) : play turns s = play turns' s := by
  induction h generalizing s with
  | nil => rfl
  | cons hturn _ ih =>
    -- The first turn comes to the same state, and the others go on from there.
    simp only [play, perform_congr hturn, ih]

/-! ## Build tools stay at home -/

/-- A build command is started in a project of its kind and refused in any other; where the project
cannot be told, the cause of that is what comes of it, and nothing is started either. In a session
nothing else is started than what the guard lets pass. A scan during which the markers in the root
of its project stay the same is never refused, and starts at most one tool, which is the project's
own build tool, in the root. -/
theorem builds_stay_home :
    (∀ (r : ToolRequest) (launcher : Launcher) (m : Machine) (kind : ProjectKind),
      BelongsTo r.command kind → r.IsGuarded launcher m kind) ∧
    (∀ (turns turns' : List Turn) (s : State), List.Forall₂ Turn.Agree turns turns' →
      play turns s = play turns' s) ∧
    (∀ path options m₀ s stage tried, Dependency.Course path options m₀ s stage tried →
      Dependency.StartedAtHome m₀ path tried ∧
        ∀ r f, stage = .done r (.error f) → ¬f.IsMismatch) ∧
    (∀ path options launcher s x s',
      (∀ r : Dependency.ScanRequest, r.IsLocated s.machine path → r.options = options →
        s.machine.files.SameMarkers (r.workplace s.machine).files r.root) →
      Dependency.scan path options launcher s = (x, s') →
      (∀ f, x = .error f → ¬f.IsMismatch) ∧ ∃ launched, s'.launches = s.launches ++ launched ∧
        Dependency.StartedAtHome s.machine path (launched.map (s.machine, ·))) := by
  refine ⟨fun r launcher m kind => ToolRequest.isGuarded launcher,
    fun turns turns' s h => play_congr h s, ?_, ?_⟩
  · intro path options m₀ s stage tried h
    exact h.staysHome
  · intro path options launcher s x s' hsame h
    obtain ⟨r, launched, hcourse, hlaunched⟩ := Dependency.course_of_scan hsame h
    obtain ⟨hhome, hfails⟩ := hcourse.staysHome
    exact ⟨fun f hf => hfails r f (hf ▸ rfl), launched, hlaunched, hhome⟩

/-- What is asked for to run Maven in the project of a path. -/
def mavenIn (path : Text) : ToolRequest :=
  { command := "mvn".toList, arguments := [], project := some path }

theorem belongsTo_mvn : BelongsTo "mvn".toList .maven :=
  required?_eq_some_iff.1 (by decide +kernel)

/-- A launcher that starts all tools, as long as `/p` is no Maven project. -/
def strayLauncher : Launcher where
  start m _ :=
    match m.detect "/p".toList with
    | .ok ⟨.maven, _, _⟩ => .error .missing
    | _ => .ok (0, m.toSite)
  await m first _ := (first, ⟨0, .empty, .empty⟩, m.toSite)

/-- It is never asked to do so for Maven. -/
theorem agree_strayLauncher :
    Launcher.Agree (Operation.run (mavenIn "/p".toList)).May strayLauncher default where
  start m l := by
    rintro ⟨r, hr, -, hpasses⟩
    cases hr
    obtain ⟨path, ⟨kind, root, markers⟩, hpath, hfound, hkind⟩ := hpasses .maven belongsTo_mvn
    obtain rfl := hpath.unique (.project rfl (by decide))
    cases hkind
    show (match m.detect "/p".toList with
      | .ok ⟨.maven, _, _⟩ => .error .missing
      | _ => .ok (0, m.toSite)) = Except.error LaunchFault.missing
    rw [hfound]
  await := rfl

open Dependency in
/-- The markers of a Maven project stay the same when its build is started. -/
theorem sameMarkers_projectMachine {r : ScanRequest}
    (h : r.IsLocated projectMachine "/p".toList) :
    projectMachine.files.SameMarkers (r.workplace projectMachine).files r.root := by
  obtain ⟨place, found, hplace, hdetect, hroot, hkind⟩ := h
  have hplace' : projectMachine.place "/p".toList = .ok ["p".toList] := by decide +kernel
  have hdetect' : projectMachine.detect (Place.toText ["p".toList]) =
      .ok ⟨.maven, some "/p".toList, ["pom.xml".toList]⟩ := by
    decide +kernel
  cases hplace.symm.trans hplace'
  cases hdetect.symm.trans hdetect'
  have hfolder : r.root = Place.toText ["p".toList] := (Option.some.inj hroot).symm
  have hwork : r.workplace projectMachine = projectMachine.withScratch "mvn".toList := by
    unfold ScanRequest.workplace ScanRequest.scratchKind
    rw [← hkind]
  have hname : IsPlaceName "p".toList := ⟨⟨by decide, by decide, by decide⟩, by decide⟩
  rw [hwork]
  refine ⟨["p".toList], hfolder, ?_, by decide +kernel⟩
  exact Files.isReal_nil.concat hname (by decide +kernel)

open Dependency in
/-- Maven is refused in a Gradle project, and no launcher is asked for it. A scan of a Maven project
starts Maven there. -/
theorem builds_stay_home_twoProjects :
    Ends strayLauncher (markedMachine 0o755 0o644) (runTool (mavenIn "/p".toList))
      (.error (.kindMismatch "mvn".toList .maven .gradle (some "/p".toList)))
      (markedMachine 0o755 0o644) [] ∧
    play [⟨id, strayLauncher, .run (mavenIn "/p".toList)⟩]
        { machine := markedMachine 0o755 0o644 } =
      play [⟨id, default, .run (mavenIn "/p".toList)⟩] { machine := markedMachine 0o755 0o644 } ∧
    ∃ x s' launched, scan "/p".toList {} failingLauncher { machine := projectMachine } = (x, s') ∧
      (∀ f, x = .error f → ¬f.IsMismatch) ∧ s'.launches = launched ∧
      launched.map (·.command) = ["mvn".toList] ∧
      StartedAtHome projectMachine "/p".toList (launched.map (projectMachine, ·)) := by
  obtain ⟨hguarded, hsession, hcourses, hscans⟩ := builds_stay_home
  refine ⟨?_, ?_, ?_⟩
  · have hpath : (mavenIn "/p".toList).MeantFor (markedMachine 0o755 0o644) "/p".toList :=
      .project rfl (by decide)
    have hfound : (markedMachine 0o755 0o644).detect "/p".toList =
        .ok ⟨.gradle, some "/p".toList, ["build.gradle".toList]⟩ := by
      decide +kernel
    exact (hguarded _ strayLauncher _ .maven belongsTo_mvn).foreign _ _ hpath hfound (by decide)
  · exact hsession _ _ _ (.cons ⟨rfl, rfl, agree_strayLauncher⟩ .nil)
  · rcases hrun : scan "/p".toList {} failingLauncher { machine := projectMachine } with ⟨x, s'⟩
    have hcommands :
        (scan "/p".toList {} failingLauncher { machine := projectMachine }).2.launches.map
          (·.command) = ["mvn".toList] := by
      decide +kernel
    rw [hrun] at hcommands
    have hsame : ∀ r : ScanRequest, r.IsLocated projectMachine "/p".toList → r.options = {} →
        projectMachine.files.SameMarkers (r.workplace projectMachine).files r.root :=
      fun r h _ => sameMarkers_projectMachine h
    obtain ⟨r, launched, hcourse, hlaunched⟩ := course_of_scan hsame hrun
    obtain ⟨hhome, -⟩ := hcourses _ _ _ _ _ _ hcourse
    obtain ⟨hfails, -⟩ := hscans _ _ _ _ _ _ hsame hrun
    rw [List.nil_append] at hlaunched
    exact ⟨x, s', launched, rfl, hfails, hlaunched, hlaunched ▸ hcommands, hhome⟩

/-- A project path in the home folder of an unknown user belongs to no project, and what comes of
Maven there is no refusal of the command. -/
theorem runTool_unknownHome :
    BelongsTo (mavenIn "~nosuchuser_zz".toList).command .maven ∧
    (∀ path project, (mavenIn "~nosuchuser_zz".toList).MeantFor projectMachine path →
      projectMachine.detect path ≠ .ok project) ∧
    (∀ launcher, Ends launcher projectMachine (runTool (mavenIn "~nosuchuser_zz".toList))
      (.error (.badPath .unknownHome)) projectMachine []) ∧
    ¬(Failure.badPath .unknownHome).IsMismatch := by
  have hpath : (mavenIn "~nosuchuser_zz".toList).MeantFor projectMachine "~nosuchuser_zz".toList :=
    .project rfl (by decide)
  have hunknown :
      projectMachine.detect "~nosuchuser_zz".toList = .error (.badPath .unknownHome) := by
    decide +kernel
  refine ⟨belongsTo_mvn, fun path project h hfound => ?_, fun launcher => ?_, id⟩
  · rw [h.unique hpath, hunknown] at hfound
    cases hfound
  · exact (ToolRequest.isGuarded launcher belongsTo_mvn).unknown _ (.noDetection hpath hunknown)

end Service

end JarLens
