import JarLens.Dependency.Scan
import JarLens.Proofs.Tool.Running

/-!
# What a scan does to the cache

Everything that a scan does on the way to a result leaves the cache alone: detection, the tool, the
scratch folder, the listing. Only `claimLock` and `storeResult` change it. Beside that stands what
is known of the parts of a scan that end well: a located request asks about the resolved path with
the caller's options, and a build gives a fresh result for its own request.
-/

namespace JarLens

open JarLens.Action

/-! ## Actions that leave the cache alone -/

section Cache

theorem keepsCache_setFiles {files : Files} : Keeps State.cache (Action.setFiles files) :=
  .modify fun _ => rfl

/-- Starting a tool leaves the cache alone, whether or not the launcher finds the tool. -/
theorem keepsCache_start {l : Launch} : Keeps State.cache (Action.start l) := by
  intro launcher s
  unfold Action.start
  cases launcher.start s.machine l <;> rfl

theorem keepsCache_closeScratch {place : Place} : Keeps State.cache (closeScratch place) :=
  Keeps.machine.bind fun _ => keepsCache_setFiles

/-- A scratch folder changes the files and nothing else of the state. -/
theorem keepsCache_openScratch {kind : String} : Keeps State.cache (openScratch kind) :=
  Keeps.machine.bind fun _ => keepsCache_setFiles.bind fun _ => .pure _

theorem keepsCache_enter {r : ToolRequest} : Keeps State.cache r.enter :=
  (Keeps.look _).bind fun _ => Keeps.detectProject.bind fun _ =>
    (Keeps.look _).bind fun _ => .pure _

/-- The guard, the log and the launch of a tool leave the cache alone. -/
theorem keepsCache_toolStart {r : ToolRequest} : Keeps State.cache r.start := by
  refine keepsCache_enter.bind fun project => Keeps.log.bind fun _ =>
    keepsCache_start.bind fun started => ?_
  cases started with
  | error fault => exact .throw _
  | ok number => exact .pure _

theorem keepsCache_outcome {tool : RunningTool} {finished : Finished} :
    Keeps State.cache (tool.outcome finished) :=
  Keeps.log.bind fun _ => .pure _

end Cache

namespace Dependency

/-- Telling a missing tool with a hint changes the failure, not the state. -/
theorem keepsCache_startTool {root tool hint : Text} {arguments : List Text} :
    Keeps State.cache (startTool root tool hint arguments) := by
  refine keepsCache_toolStart.tryCatch fun failure => ?_
  cases failure <;> exact .throw _

theorem keeps_checkExit {γ : Type} {view : State → γ} [HidesLog view] {label : Text} {o : Outcome} :
    Keeps view (checkExit label o) := by
  unfold checkExit
  split
  · exact .pure _
  · exact Keeps.log.bind fun _ => .throw _

theorem keepsCache_writeScript {path : Text} {options : ScanOptions} :
    Keeps State.cache (writeScript path options) := by
  refine Keeps.machine.bind fun m => ?_
  split
  · exact keepsCache_setFiles
  · exact .throw _

theorem keepsCache_startGradle {r : ScanRequest} {scratch : Place} :
    Keeps State.cache (startGradle r scratch) :=
  keepsCache_writeScript.bind fun _ => (Keeps.look _).bind fun _ => keepsCache_startTool

/-- Whatever comes of starting a build, the cache is what it was. -/
theorem keepsCache_requestStart {r : ScanRequest} : Keeps State.cache r.start := by
  unfold ScanRequest.start
  cases r.kind with
  | maven =>
    exact keepsCache_openScratch.bind fun _ =>
      (keepsCache_startTool.orElseDo keepsCache_closeScratch).bind fun _ => .pure _
  | gradle | native =>
    exact keepsCache_openScratch.bind fun _ =>
      (keepsCache_startGradle.orElseDo keepsCache_closeScratch).bind fun _ => .pure _

theorem keepsCache_collect {b : Build} {o : Outcome} : Keeps State.cache (b.collect o) := by
  unfold Build.collect
  cases b.request.kind with
  | maven => exact keeps_checkExit.bind fun _ => (Keeps.look _).bind fun _ => .pure _
  | gradle | native => exact keeps_checkExit.bind fun _ => .pure _

/-- A finished build has stored nothing yet. -/
theorem keepsCache_finish {b : Build} {finished : Finished} :
    Keeps State.cache (b.finish finished) :=
  (keepsCache_outcome.bind fun _ => keepsCache_collect).andThenDo
    keepsCache_closeScratch

/-- Finding the project changes no more of the state than the log. -/
theorem keeps_locateProject {γ : Type} {view : State → γ} [HidesLog view] {path : Text}
    {options : ScanOptions} : Keeps view (locateProject path options) := by
  refine (Keeps.look _).bind fun place => Keeps.detectProject.bind fun found => ?_
  cases found.root with
  | none => exact .throw _
  | some root => exact .pure _

/-- A build that is started, or that fails to start, stores nothing. -/
theorem keepsCache_startBuild {r : ScanRequest} : Keeps State.cache (startBuild r) :=
  Keeps.log.bind fun _ => keepsCache_requestStart

/-! ## What is known of requests and results -/

/-- The request is what comes of asking about a path on a machine: the resolved path and the
options as they were given. -/
def ScanRequest.IsFor (r : ScanRequest) (m : Machine) (path : Text) (options : ScanOptions) :
    Prop :=
  r.options = options ∧ ∃ place, m.place path = .ok place ∧ r.path = place.toText

/-- The result is one that a build gives to its own request. -/
structure ScanRequest.Builds (r : ScanRequest) (result : ScanResult) : Prop where
  projectPath_eq : result.projectPath = r.path
  projectRoot_eq : result.projectRoot = r.root
  kind_eq : result.kind = r.kind
  cached_eq : result.cached = false

/-- A located request asks about the resolved path with the caller's own options. -/
theorem isFor_of_locateProject {path : Text} {options : ScanOptions} {launcher : Launcher}
    {s : State} {r : ScanRequest} (h : (locateProject path options launcher s).1 = .ok r) :
    r.IsFor s.machine path options := by
  unfold locateProject at h
  rw [run_bind, run_look] at h
  cases hplace : s.machine.place path with
  | error trouble => rw [hplace] at h; cases h
  | ok place =>
    have hfound : (Except.ok place).mapError Failure.badPath = .ok place := rfl
    rw [hplace, hfound] at h
    simp only [run_bind] at h
    rcases hrun : detectProject place.toText launcher s with ⟨_ | found, s'⟩ <;> rw [hrun] at h
    · cases h
    · cases hroot : found.root with
      | none => simp only [hroot] at h; cases h
      | some root =>
        simp only [hroot] at h
        cases h
        exact ⟨rfl, place, hplace, rfl⟩

/-- A build that was started is one for the request that it was started for. -/
theorem request_of_startBuild (r : ScanRequest) :
    Ensures (fun b : Build => b.request = r) (startBuild r) := by
  refine .last fun _ => ?_
  unfold ScanRequest.start
  cases r.kind <;> exact .last fun _ => .last fun _ => .pure rfl

theorem builds_result (r : ScanRequest) (o : Outcome) (dependencies : List Record) :
    r.Builds (r.result o dependencies) :=
  ⟨rfl, rfl, rfl, rfl⟩

/-- A build that ends well gives a fresh result for its own request. -/
theorem builds_of_finish (b : Build) (finished : Finished) :
    Ensures b.request.Builds (b.finish finished) := by
  refine Ensures.andThenDo (.last fun o => ?_)
  unfold Build.collect
  cases b.request.kind with
  | maven => exact .last fun _ => .last fun _ => .pure (builds_result ..)
  | gradle | native => exact .last fun _ => .pure (builds_result ..)

end Dependency

end JarLens
