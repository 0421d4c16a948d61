import JarLens.Proofs.Dependency.SameBuild

/-!
# Queries come last

A scan with a query is the scan without one, of whose answer those records are kept that mention the
query (`scanBy_eq_map`). So queries change nothing but what each caller is shown: in two runs of
scans that differ in their queries only, the same is built, stored and logged, and the same scans
fail (`visitAll_agree`).
-/

namespace JarLens.Dependency

open JarLens.Action

/-! ## Scans without queries -/

/-- The options without the query. -/
def ScanOptions.unfiltered (options : ScanOptions) : ScanOptions :=
  { options with query := none }

/-- The request without the query. -/
def ScanRequest.unfiltered (r : ScanRequest) : ScanRequest :=
  { r with options := r.options.unfiltered }

/-- The result with the records only that mention a query. -/
def ScanResult.filtered (query : Option Text) (result : ScanResult) : ScanResult :=
  { result with dependencies := matching query result.dependencies }

theorem matching_none (records : List Record) : matching none records = records := rfl

section

variable {run : Runner} {r : ScanRequest}

/-- The query is applied to the answer last, after everything else. -/
theorem answer_eq (stored : ScanResult) :
    r.answer stored = (r.unfiltered.answer stored).filtered r.options.query := by
  have hall : matching r.unfiltered.options.query stored.dependencies = stored.dependencies :=
    matching_none _
  rw [ScanRequest.answer, ScanRequest.answer, ScanResult.filtered, hall]
  rfl

theorem freshAnswer_eq (built : ScanResult) :
    r.freshAnswer built = (r.unfiltered.freshAnswer built).filtered r.options.query := by
  have hall : matching r.unfiltered.options.query built.dependencies = built.dependencies :=
    matching_none _
  rw [ScanRequest.freshAnswer, ScanRequest.freshAnswer, ScanResult.filtered, hall]

theorem answerFromCache_eq_map (stored : ScanResult) :
    answerFromCache r stored =
      (·.filtered r.options.query) <$> answerFromCache r.unfiltered stored := by
  rw [answerFromCache, answerFromCache, answer_eq, map_bind]
  rfl

/-- The whole result is stored, and filtered for the caller only. -/
theorem storeResult_eq_map (built : ScanResult) :
    storeResult r built = (·.filtered r.options.query) <$> storeResult r.unfiltered built := by
  rw [storeResult, storeResult, freshAnswer_eq]
  simp only [map_bind, map_pure]
  rfl

/-- Whether a result is stored does not depend on the query, which is no part of the key. -/
theorem answerOr_eq_map {missed missed' : Action ScanResult}
    (h : missed = (·.filtered r.options.query) <$> missed') :
    answerOr r id missed = (·.filtered r.options.query) <$> answerOr r.unfiltered id missed' := by
  have hkey : r.unfiltered.key = r.key := rfl
  unfold answerOr
  rw [map_bind, hkey]
  congr 1
  funext s
  cases s.cache.get? r.key with
  | none => exact h
  | some stored =>
    dsimp only
    rw [id_map, id_map, answerFromCache_eq_map]

/-- What a scan does with a located request. -/
def resolveBy (run : Runner) (r : ScanRequest) : Action ScanResult :=
  answerOr r id do
    claimLock r
    answerOr r id do
      logScan "scanner.resolving" r []
      storeResult r (← withScratch r.scratchKind (buildIn run r))

theorem scanBy_eq (run : Runner) (path : Text) (options : ScanOptions) :
    scanBy run path options = locateProject path options >>= resolveBy run := rfl

theorem resolveBy_eq_map (run : Runner) (r : ScanRequest) :
    resolveBy run r = (·.filtered r.options.query) <$> resolveBy run r.unfiltered := by
  have hbuild : buildIn run r.unfiltered = buildIn run r := rfl
  unfold resolveBy
  refine answerOr_eq_map ?_
  rw [map_bind]
  congr 1
  funext _
  refine answerOr_eq_map ?_
  rw [map_bind]
  congr 1
  funext _
  rw [map_bind, hbuild]
  simp only [← storeResult_eq_map]
  rfl

/-- A scan with a query is the scan without it, and then the records that mention it. -/
theorem scanBy_eq_map (run : Runner) (path : Text) (options : ScanOptions) :
    scanBy run path options =
      (·.filtered options.query) <$> scanBy run path options.unfiltered := by
  rw [scanBy_eq, scanBy_eq]
  unfold locateProject
  simp only [bind_assoc, map_bind]
  congr 1
  funext place
  congr 1
  funext found
  cases found.root with
  | none => rfl
  | some root => exact resolveBy_eq_map run _

/-! ## What is shown of a stored result -/

/-- A stored result as one caller is shown it. -/
def ScanResult.shown (stored : ScanResult) (path : Text) (cached : Bool) (query : Option Text) :
    ScanResult :=
  { stored with projectPath := path, cached, dependencies := matching query stored.dependencies }

/-- Every result of the action is shown of what is stored for a key in the end. -/
def ShowsStored (key : CacheKey) (query : Option Text) (a : Action ScanResult) : Prop :=
  ∀ launcher s x s', a launcher s = (.ok x, s') →
    ∃ stored path cached, s'.cache.get? key = some stored ∧ x = stored.shown path cached query

/-- Only the last of two actions gives the result. -/
theorem ShowsStored.last {α : Type} {key : CacheKey} {query : Option Text} {a : Action α}
    {f : α → Action ScanResult} (hf : ∀ y, ShowsStored key query (f y)) :
    ShowsStored key query (a >>= f) := by
  intro launcher s x s' h
  rw [run_bind] at h
  rcases hrun : a launcher s with ⟨e | y, s₁⟩ <;> rw [hrun] at h
  · cases h
  · exact hf y launcher s₁ x s' h

theorem showsStored_answerOr {missed : Action ScanResult}
    (hmissed : ShowsStored r.key r.options.query missed) :
    ShowsStored r.key r.options.query (answerOr r id missed) := by
  intro launcher s x s' h
  cases hget : s.cache.get? r.key with
  | none => exact hmissed launcher s x s' ((answerOr_of_none hget).symm.trans h)
  | some stored =>
    rw [answerOr, run_bind, run_get] at h
    simp only [hget, id_map] at h
    cases h
    exact ⟨stored, r.path, true, hget, rfl⟩

/-- A caller who built is shown the result as it was stored, filtered. -/
theorem showsStored_storeResult (built : ScanResult) :
    ShowsStored r.key r.options.query (storeResult r built) := by
  intro launcher s x s' h
  cases h
  exact ⟨built, built.projectPath, built.cached, (Cache.get?_put ..).trans (if_pos rfl), rfl⟩

theorem showsStored_resolveBy : ShowsStored r.key r.options.query (resolveBy run r) :=
  showsStored_answerOr <| .last fun _ => showsStored_answerOr <| .last fun _ => .last
    showsStored_storeResult

/-- What a scan answers is shown of what is stored after it. -/
theorem exists_stored_of_scanBy {launcher : Launcher} {s s' : State} {path : Text}
    {options : ScanOptions} {x : ScanResult}
    (h : scanBy run path options launcher s = (.ok x, s')) :
    ∃ root stored path' cached, s'.cache.get? (options.key root) = some stored ∧
      x = stored.shown path' cached options.query := by
  rw [scanBy_eq, run_bind] at h
  rcases hlocate : locateProject path options launcher s with ⟨e | r, s₁⟩ <;> rw [hlocate] at h
  · cases h
  · obtain ⟨rfl, -⟩ := isFor_of_locateProject (congrArg Prod.fst hlocate)
    exact ⟨r.root, showsStored_resolveBy launcher s₁ x s' h⟩

end

/-! ## Runs of scans -/

/-- A scan that is asked for, on the machine as it is by then. -/
structure Visit where
  /-- What has become of the machine since the scan before. -/
  world : Machine → Machine
  /-- How tools behave by then. -/
  launcher : Launcher
  path : Text
  options : ScanOptions

/-- The visit without its query. -/
def Visit.unfiltered (v : Visit) : Visit :=
  { v with options := v.options.unfiltered }

/-- What came of a scan. -/
structure Visited where
  options : ScanOptions
  answer : Except Failure ScanResult
  after : State

/-- The scan of a visit. -/
def Visit.scan (run : Runner) (s : State) (v : Visit) : Visited :=
  let (answer, after) := scanBy run v.path v.options v.launcher
    { s with machine := v.world s.machine }
  { options := v.options, answer, after }

/-- Scans one after the other. -/
def visitAll (run : Runner) : State → List Visit → List Visited
  | _, [] => []
  | s, v :: visits => v.scan run s :: visitAll run (v.scan run s).after visits

/-- The scans left everything the same and failed alike, or both showed the records of one stored
result that mention their own query. -/
structure Visited.Agree (a a' : Visited) : Prop where
  after : a.after = a'.after
  answer : (∃ failure, a.answer = .error failure ∧ a'.answer = .error failure) ∨
    ∃ root stored path cached,
      a.after.cache.get? (a.options.key root) = some stored ∧
      a'.after.cache.get? (a'.options.key root) = some stored ∧
      a.answer = .ok (stored.shown path cached a.options.query) ∧
      a'.answer = .ok (stored.shown path cached a'.options.query)

theorem scan_eq {run : Runner} {s t : State} {v : Visit} {answer : Except Failure ScanResult}
    (h : scanBy run v.path v.options.unfiltered v.launcher
      { s with machine := v.world s.machine } = (answer, t)) :
    v.scan run s =
      { options := v.options, answer := answer.map (·.filtered v.options.query), after := t } := by
  rw [Visit.scan, scanBy_eq_map, run_map, h]
  cases answer <;> rfl

theorem scan_agree (run : Runner) (s : State) {v v' : Visit} (h : v.unfiltered = v'.unfiltered) :
    (v.scan run s).Agree (v'.scan run s) := by
  obtain ⟨hworld, hlauncher, hpath, hoptions⟩ := Visit.mk.inj h
  rcases hrun : scanBy run v.path v.options.unfiltered v.launcher
    { s with machine := v.world s.machine } with ⟨answer, t⟩
  have hrun' := hrun
  rw [hworld, hlauncher, hpath, hoptions] at hrun'
  rw [scan_eq hrun, scan_eq hrun']
  refine ⟨rfl, ?_⟩
  cases answer with
  | error failure => exact .inl ⟨failure, rfl, rfl⟩
  | ok x =>
    obtain ⟨root, stored, path, cached, hstored, rfl⟩ := exists_stored_of_scanBy hrun
    have hstored' : t.cache.get? (v'.options.unfiltered.key root) = some stored := hoptions ▸ hstored
    exact .inr ⟨root, stored, path, cached, hstored, hstored', rfl, rfl⟩

/-- In two runs of scans that differ in their queries only, with the same ways of the machine and of
tools between and during scans, each two scans leave the same state: what was stored, started and
logged and the machine. They fail alike, or both show records of one stored result, each those that
mention its own query. -/
theorem visitAll_agree (run : Runner) (s : State) {visits visits' : List Visit}
    (h : visits.map Visit.unfiltered = visits'.map Visit.unfiltered) :
    scanBy runTool = scan ∧
      List.Forall₂ Visited.Agree (visitAll run s visits) (visitAll run s visits') := by
  refine ⟨scanBy_runTool, ?_⟩
  induction visits generalizing s visits' with
  | nil =>
    obtain rfl : visits' = [] := List.map_eq_nil_iff.1 h.symm
    exact .nil
  | cons v visits ih =>
    cases visits' with
    | nil => cases h
    | cons v' visits' =>
      obtain ⟨hv, hvisits⟩ := List.cons.inj h
      have hagree := scan_agree run s hv
      refine .cons hagree ?_
      rw [hagree.after]
      exact ih _ hvisits

/-- Two scans of one project, of which only the second has a query. -/
def missThenHit : List Visit :=
  [⟨id, printingLauncher, "/g".toList, {}⟩,
    ⟨id, printingLauncher, "/g".toList, { query := some ['b'] }⟩]

/-- The same scans, of which only the first has a query. -/
def missThenHit' : List Visit :=
  [⟨id, printingLauncher, "/g".toList, { query := some ['x'] }⟩,
    ⟨id, printingLauncher, "/g".toList, {}⟩]

/-- A scan that builds and one that finds its result, each with its own query. -/
theorem visitAll_agree_missThenHit :
    (visitAll runTool { machine := gradleMachine } missThenHit).map
      (fun a => a.answer.toOption.map (·.cached)) = [some false, some true] ∧
    List.Forall₂ Visited.Agree (visitAll runTool { machine := gradleMachine } missThenHit)
      (visitAll runTool { machine := gradleMachine } missThenHit') := by
  have hsame : missThenHit.map Visit.unfiltered = missThenHit'.map Visit.unfiltered := rfl
  exact ⟨by decide +kernel, (visitAll_agree runTool { machine := gradleMachine } hsame).2⟩

end JarLens.Dependency
