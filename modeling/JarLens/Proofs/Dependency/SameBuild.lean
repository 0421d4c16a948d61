import JarLens.Proofs.Dependency.Keys
import JarLens.Proofs.Dependency.Traces
import JarLens.Proofs.Project.Roots

/-!
# One key, one build

Requests with one key need the same build: the same tool is run with the same arguments and the same
script, and what it leaves is read in the same way (`sameBuild_of_key`). So a result that is stored
for one of them is what the other one would have built. `key_decides_build` puts this together with
what keys tell apart and with what a cache keeps by key.
-/

namespace JarLens.Dependency

open JarLens.Action

/-! ## Located requests -/

theorem run_detectProject (launcher : Launcher) (s : State) (path : Text) :
    ∃ lines, detectProject path launcher s = (s.machine.detect path, { s with log := lines }) := by
  rw [detectProject, run_bind, run_look]
  cases s.machine.detect path with
  | error failure => exact ⟨s.log, rfl⟩
  | ok found =>
    dsimp only
    cases found.root with
    | none => exact ⟨_, rfl⟩
    | some root => exact ⟨_, rfl⟩

section

variable {launcher : Launcher} {s s₁ s' s₁' : State} {path path' : Text}
  {options options' : ScanOptions} {r r' : ScanRequest}

/-- The project of a located request is detected from the path of a place. -/
theorem exists_of_locateProject (h : locateProject path options launcher s = (.ok r, s₁)) :
    ∃ place found lines, s.machine.place path = .ok place ∧
      s.machine.detect place.toText = .ok found ∧ found.root = some r.root ∧
      found.kind = r.kind ∧ s₁ = { s with log := lines } := by
  unfold locateProject at h
  rw [run_bind, run_look] at h
  cases hplace : s.machine.place path with
  | error trouble => rw [hplace] at h; cases h
  | ok place =>
    have hfound : (Except.ok place).mapError Failure.badPath = .ok place := rfl
    obtain ⟨lines, hrun⟩ := run_detectProject launcher s place.toText
    rw [hplace, hfound] at h
    simp only [run_bind, hrun] at h
    cases hdetect : s.machine.detect place.toText with
    | error failure => rw [hdetect] at h; cases h
    | ok found =>
      rw [hdetect] at h
      cases hroot : found.root with
      | none => simp only [hroot] at h; cases h
      | some root =>
        simp only [hroot] at h
        cases h
        exact ⟨place, found, lines, rfl, hdetect, hroot, rfl, rfl⟩

/-- Requests with one root that are located on one machine are of one kind. -/
theorem kind_eq_of_root (hs : s.machine = s'.machine)
    (h : locateProject path options launcher s = (.ok r, s₁))
    (h' : locateProject path' options' launcher s' = (.ok r', s₁')) (hroot : r.root = r'.root) :
    r.kind = r'.kind := by
  obtain ⟨place, found, lines, -, hdetect, hfound, hkind, -⟩ := exists_of_locateProject h
  obtain ⟨place', found', lines', -, hdetect', hfound', hkind', -⟩ := exists_of_locateProject h'
  rw [← hroot] at hfound'
  rw [← hs] at hdetect'
  rw [← hkind, ← hkind', detect_eq_of_root hdetect hdetect' hfound hfound']

end

/-! ## What a build reads of its request -/

/-- The result as it is for who asked about another path. -/
def ScanResult.askedAt (result : ScanResult) (path : Text) : ScanResult :=
  { result with projectPath := path }

/-- Two requests need the same build. -/
structure SameBuild (r r' : ScanRequest) : Prop where
  script : initScript r.options.configurations r.options.excludeTransitive =
    initScript r'.options.configurations r'.options.excludeTransitive
  folder : r.scratchKind = r'.scratchKind
  run : ∀ run : Runner, runBuild run r = runBuild run r'
  collect : ∀ scratch o, r'.collect scratch o = (·.askedAt r'.path) <$> r.collect scratch o
  /-- The answer from a stored result is the answer from the other result, but for being marked. -/
  answer : ∀ result, r'.answer result =
    { r'.freshAnswer (result.askedAt r'.path) with cached := true }

/-- The script's list is known from the normalized names. -/
theorem groovyList_congr {names names' : List (Option Text)}
    (h : normalizeNames names = normalizeNames names') : groovyList names = groovyList names' := by
  rw [groovyList, groovyList, h]

section

variable {r r' : ScanRequest}

/-- Requests of one key are built with one script. -/
theorem initScript_congr (h : r.key = r'.key) :
    initScript r.options.configurations r.options.excludeTransitive =
      initScript r'.options.configurations r'.options.excludeTransitive := by
  have hexclude : r.options.excludeTransitive = r'.options.excludeTransitive :=
    congrArg CacheKey.excludeTransitive h
  have hnames : normalizeNames r.options.configurations =
      normalizeNames r'.options.configurations := congrArg CacheKey.configurations h
  rw [initScript, initScript, groovyList_congr hnames, hexclude]

theorem runBuild_congr (h : r.key = r'.key) (hkind : r.kind = r'.kind) (run : Runner) :
    runBuild run r = runBuild run r' := by
  have hroot : r.root = r'.root := congrArg CacheKey.root h
  have hexclude : r.options.excludeTransitive = r'.options.excludeTransitive :=
    congrArg CacheKey.excludeTransitive h
  have hwrite : ∀ path, writeScript path r.options = writeScript path r'.options := by
    intro path
    unfold writeScript
    rw [initScript_congr h]
  funext scratch
  unfold runBuild
  rw [hkind, hroot, hexclude]
  simp only [hwrite]

/-- They read the same records from what the tool listed, each with its own path. -/
theorem collect_congr (h : r.key = r'.key) (hkind : r.kind = r'.kind) (scratch : Place)
    (o : Outcome) : r'.collect scratch o = (·.askedAt r'.path) <$> r.collect scratch o := by
  have hroot : r.root = r'.root := congrArg CacheKey.root h
  have htail : r.options.includeLogTail = r'.options.includeLogTail :=
    congrArg CacheKey.includeLogTail h
  have hresult : ∀ dependencies,
      r'.result o dependencies = (r.result o dependencies).askedAt r'.path := by
    intro dependencies
    rw [ScanRequest.result, ScanRequest.result, ScanResult.askedAt, hroot, hkind, htail]
  unfold ScanRequest.collect
  rw [hkind]
  cases r'.kind <;> simp only [map_bind, map_pure, hresult]

/-- What a build needs of its request is in the key, but for the kind of the project. -/
theorem sameBuild_of_key (h : r.key = r'.key) (hkind : r.kind = r'.kind) : SameBuild r r' where
  script := initScript_congr h
  folder := by rw [ScanRequest.scratchKind, ScanRequest.scratchKind, hkind]
  run := runBuild_congr h hkind
  collect := collect_congr h hkind
  answer := fun _ => rfl

end

/-! ## Scans that build -/

theorem isSettled_collect (r : ScanRequest) (scratch : Place) (o : Outcome) :
    IsSettled (r.collect scratch o) := by
  have hcheck : ∀ label, IsSettled (checkExit label o) := by
    intro label
    unfold checkExit
    split
    · exact .pure _
    · exact IsSettled.log.bind fun _ => .throw _
  unfold ScanRequest.collect
  cases r.kind with
  | maven => exact (hcheck _).bind fun _ => (IsSettled.look _).bind fun _ => .pure _
  | gradle | native => exact (hcheck _).bind fun _ => .pure _

theorem isSettled_buildIn (r : ScanRequest) (scratch : Place) :
    IsSettled (buildIn runTool r scratch) := by
  refine IsSettled.bind ?_ fun o => isSettled_collect r scratch o
  have hhinted : ∀ root tool hint arguments,
      IsSettled (runHinted runTool root tool hint arguments) := fun _ _ _ _ =>
    (IsSettled.runTool _).retold _
  have hwrite : ∀ path, IsSettled (writeScript path r.options) := by
    intro path
    refine IsSettled.machine.bind fun m => ?_
    split
    · exact .setFiles _
    · exact .throw _
  unfold runBuild
  cases r.kind with
  | maven => exact hhinted _ _ _ _
  | gradle | native =>
    exact (hwrite _).bind fun _ => (IsSettled.look _).bind fun _ => hhinted _ _ _ _

/-- The builds of such requests differ in the path that was asked about and in nothing else. -/
theorem buildIn_congr {r r' : ScanRequest} (h : SameBuild r r') (run : Runner) (scratch : Place) :
    buildIn run r' scratch = (·.askedAt r'.path) <$> buildIn run r scratch := by
  have hcollect : r'.collect scratch = fun o => (·.askedAt r'.path) <$> r.collect scratch o :=
    funext (h.collect scratch)
  rw [buildIn, buildIn, ← h.run, hcollect, map_bind]

/-- From the state `s` a scan made a build that came to `built`: it answered from the result and
stored it as it was before the query, or it failed as the build did. -/
structure BuiltBy (r : ScanRequest) (s : State) (built : Except Failure ScanResult) (m' : Machine)
    (tried : List Launch) (answer : Except Failure ScanResult) (s' : State) : Prop where
  answer_eq : answer = built.map r.freshAnswer
  machine : s'.machine = m'
  launches : s'.launches = s.launches ++ tried
  stored : s'.cache.get? r.key = built.toOption

theorem answerOr_of_none {α : Type} {r : ScanRequest} {found : ScanResult → α} {missed : Action α}
    {launcher : Launcher} {s : State} (h : s.cache.get? r.key = none) :
    answerOr r found missed launcher s = missed launcher s := by
  rw [answerOr, run_bind, run_get]
  simp only [h]

/-- A scan that finds nothing stored builds with its key locked. -/
theorem exists_scan_of_none {launcher : Launcher} {s s₁ : State} {path : Text}
    {options : ScanOptions} {r : ScanRequest}
    (h : locateProject path options launcher s = (.ok r, s₁)) (hget : s.cache.get? r.key = none) :
    ∃ lines, scan path options launcher s =
      (withScratch r.scratchKind (buildIn runTool r) >>= storeResult r) launcher
        { s with cache := s.cache.withLock r.key, log := lines } := by
  obtain ⟨-, -, lines, -, -, -, -, rfl⟩ := exists_of_locateProject h
  have hfirst : { s with log := lines }.cache.get? r.key = none := hget
  have hsecond : { s with cache := s.cache.withLock r.key, log := lines }.cache.get? r.key = none :=
    (Cache.get?_withLock ..).trans hget
  obtain ⟨lines', hlog⟩ : ∃ lines', logScan "scanner.resolving" r [] launcher
      { s with cache := s.cache.withLock r.key, log := lines } =
        (.ok (), { s with cache := s.cache.withLock r.key, log := lines' }) := ⟨_, rfl⟩
  refine ⟨lines', ?_⟩
  rw [← scanBy_runTool, scanBy, run_bind, h]
  dsimp only
  rw [answerOr_of_none hfirst, run_bind, claimLock, run_modify]
  dsimp only
  rw [answerOr_of_none hsecond, run_bind, hlog]

/-- A scan that finds nothing stored answers from its build, and stores what comes of it. -/
theorem builtBy_scan {launcher : Launcher} {s s₁ : State} {path : Text} {options : ScanOptions}
    {r : ScanRequest} {built : Except Failure ScanResult} {m' : Machine} {tried : List Launch}
    (h : locateProject path options launcher s = (.ok r, s₁)) (hget : s.cache.get? r.key = none)
    (hbuild : Ends launcher s.machine (withScratch r.scratchKind (buildIn runTool r)) built m'
      tried) :
    BuiltBy r s built m' tried (scan path options launcher s).1
      (scan path options launcher s).2 := by
  obtain ⟨lines, hscan⟩ := exists_scan_of_none h hget
  obtain ⟨s₂, hrun, hmachine, hlaunches⟩ :=
    hbuild { s with cache := s.cache.withLock r.key, log := lines } rfl
  have hcache : s₂.cache = s.cache.withLock r.key := by
    have hkeeps : Keeps State.cache (withScratch r.scratchKind (buildIn runTool r)) :=
      keepsCache_withScratch (keepsCache_buildIn isPlain_runTool r)
    have hview := hkeeps launcher { s with cache := s.cache.withLock r.key, log := lines }
    rw [hrun] at hview
    exact hview
  rw [hscan, run_bind, hrun]
  cases built with
  | error failure =>
    refine ⟨rfl, hmachine, hlaunches, ?_⟩
    show s₂.cache.get? r.key = none
    rw [hcache, Cache.get?_withLock, hget]
  | ok result => exact ⟨rfl, hmachine, hlaunches, (Cache.get?_put ..).trans (if_pos rfl)⟩

/-- Cache keys tell requests apart by what they ask for but the query, and each key has one slot for
its result and one lock, whatever was asked of the cache before. Requests with one key that are
located on one machine need the same build; if neither finds a result, both builds come to the same
and leave the same machine, and what is stored for one differs from what is stored for the other in
the path asked about only. -/
theorem key_decides_build :
    scanBy runTool = scan ∧
    (∀ (options options' : ScanOptions) (root root' : Text),
      options.key root = options'.key root' ↔
        root = root' ∧ options.excludeTransitive = options'.excludeTransitive ∧
          options.includeLogTail = options'.includeLogTail ∧
          ∀ name, Asks options.configurations name ↔ Asks options'.configurations name) ∧
    (∀ (history : List Cache.Operation) (key : CacheKey),
      (Cache.after history).keys.Nodup ∧
        (Cache.after history).get? key = history.reverse.findSome? (·.stores? key)) ∧
    (∀ (history between : List Cache.Operation) (key key' : CacheKey),
      ∃ i j, (Cache.after (history ++ [.lock key])).lock? key = some i ∧
        (Cache.after (history ++ [.lock key] ++ between ++ [.lock key'])).lock? key' = some j ∧
        (i = j ↔ key = key')) ∧
    ∀ (launcher : Launcher) (s s' s₁ s₁' : State) (path path' : Text)
      (options options' : ScanOptions) (r r' : ScanRequest), s.machine = s'.machine →
      locateProject path options launcher s = (.ok r, s₁) →
      locateProject path' options' launcher s' = (.ok r', s₁') → r.key = r'.key →
      SameBuild r r' ∧ (s.cache.get? r.key = none → s'.cache.get? r'.key = none →
        ∃ built m' tried,
          BuiltBy r s built m' tried (scan path options launcher s).1
            (scan path options launcher s).2 ∧
          BuiltBy r' s' (built.map (·.askedAt r'.path)) m' tried
            (scan path' options' launcher s').1 (scan path' options' launcher s').2) := by
  refine ⟨scanBy_runTool, fun _ _ _ _ => ScanOptions.key_eq_iff,
    fun history key => ⟨Cache.nodup_keys_after history, Cache.get?_after history key⟩,
    Cache.lock?_after, ?_⟩
  intro launcher s s' s₁ s₁' path path' options options' r r' hs h h' hkey
  have hroot : r.root = r'.root := congrArg CacheKey.root hkey
  have hsame : SameBuild r r' := sameBuild_of_key hkey (kind_eq_of_root hs h h' hroot)
  refine ⟨hsame, fun hget hget' => ?_⟩
  obtain ⟨built, m₁, tried, hbuild⟩ :=
    isSettled_buildIn r (s.machine.freshScratch r.scratchKind.toList) launcher
      (s.machine.withScratch r.scratchKind.toList)
  have hbuild' := hbuild.map (·.askedAt r'.path)
  rw [← buildIn_congr hsame runTool] at hbuild'
  refine ⟨built, _, tried, builtBy_scan h hget (ends_withScratch hbuild), ?_⟩
  refine builtBy_scan h' hget' ?_
  rw [← hs, ← hsame.folder]
  exact ends_withScratch hbuild'

/-! ## Two spellings of one request -/

/-- A machine with a project that Gradle builds. -/
def gradleMachine : Machine :=
  { files :=
      { names := .node 0 [("tmp".toList, .node 1 []),
          ("g".toList, .node 2 [("build.gradle".toList, .node 3 [])])]
        items := #[⟨.folder 0o755, 0⟩, ⟨.folder 0o755, 0⟩, ⟨.folder 0o755, 0⟩, ⟨.file .empty 0o644, 0⟩] }
    environment := {}, folder := some [], scratch := ["tmp".toList], programFolders := []
    homes := [] }

/-- A launcher whose tools print one line of a listing and succeed. -/
def printingLauncher : Launcher :=
  { start := fun m _ => .ok (0, m.toSite)
    await := fun m first _ =>
      (first, ⟨0, Text.encodeUtf8 (gradleMarker ++ "a|b-1.jar|/r/b-1.jar\n".toList), .empty⟩,
        m.toSite) }

def spacedNames : ScanOptions :=
  { configurations := [some " b ".toList, none, some ['a']] }

def repeatedNames : ScanOptions :=
  { configurations := [some ['a'], some ['b'], some ['a']], query := some ['x'] }

/-- Blanks around names and repeated names make no difference. -/
theorem normalizeNames_spacedNames :
    normalizeNames spacedNames.configurations = normalizeNames repeatedNames.configurations := by
  have hspaced : (spacedNames.configurations.filterMap (·.map Text.strip)).filter (!·.isEmpty) =
      [['b'], ['a']] := by decide
  have hrepeated : (repeatedNames.configurations.filterMap (·.map Text.strip)).filter (!·.isEmpty) =
      [['a'], ['b'], ['a']] := by decide
  rw [normalizeNames, normalizeNames, hspaced, hrepeated]
  refine sortTexts_distinct_congr fun t => ?_
  simp only [List.mem_cons, List.not_mem_nil, or_false]
  tauto

/-- Two spellings of the same Gradle configurations, asked about from two places. -/
theorem key_decides_build_gradle :
    ∃ r r' built m' tried, r.path ≠ r'.path ∧ SameBuild r r' ∧ built.isOk = true ∧
      BuiltBy r { machine := gradleMachine } built m' tried
        (scan "/g".toList spacedNames printingLauncher { machine := gradleMachine }).1
        (scan "/g".toList spacedNames printingLauncher { machine := gradleMachine }).2 ∧
      BuiltBy r' { machine := gradleMachine } (built.map (·.askedAt r'.path)) m' tried
        (scan "/g/build.gradle".toList repeatedNames printingLauncher { machine := gradleMachine }).1
        (scan "/g/build.gradle".toList repeatedNames printingLauncher
          { machine := gradleMachine }).2 := by
  obtain ⟨-, -, -, -, hbuilds⟩ := key_decides_build
  have hplaces : (locateProject "/g".toList spacedNames printingLauncher
      { machine := gradleMachine }).1.toOption.map (fun r => (r.path, r.root)) =
        some ("/g".toList, "/g".toList) := by decide +kernel
  have hplaces' : (locateProject "/g/build.gradle".toList repeatedNames printingLauncher
      { machine := gradleMachine }).1.toOption.map (fun r => (r.path, r.root)) =
        some ("/g/build.gradle".toList, "/g".toList) := by decide +kernel
  have hok : (scan "/g".toList spacedNames printingLauncher { machine := gradleMachine }).1.isOk =
      true := by decide +kernel
  rcases h : locateProject "/g".toList spacedNames printingLauncher
    { machine := gradleMachine } with ⟨e | r, s₁⟩ <;> rw [h] at hplaces
  · cases hplaces
  rcases h' : locateProject "/g/build.gradle".toList repeatedNames printingLauncher
    { machine := gradleMachine } with ⟨e | r', s₁'⟩ <;> rw [h'] at hplaces'
  · cases hplaces'
  obtain ⟨hpath, hroot⟩ := Prod.mk.inj (Option.some.inj hplaces)
  obtain ⟨hpath', hroot'⟩ := Prod.mk.inj (Option.some.inj hplaces')
  have hkey : r.key = r'.key := by
    obtain ⟨hoptions, -⟩ := isFor_of_locateProject (congrArg Prod.fst h)
    obtain ⟨hoptions', -⟩ := isFor_of_locateProject (congrArg Prod.fst h')
    rw [ScanRequest.key, ScanRequest.key, hoptions, hoptions', hroot, hroot', ScanOptions.key,
      ScanOptions.key, normalizeNames_spacedNames]
    rfl
  obtain ⟨hsame, hscans⟩ := hbuilds _ _ _ _ _ _ _ _ _ r r' rfl h h' hkey
  obtain ⟨built, m', tried, hbuilt, hbuilt'⟩ := hscans rfl rfl
  refine ⟨r, r', built, m', tried, ?_, hsame, ?_, hbuilt, hbuilt'⟩
  · rw [hpath, hpath']
    decide
  · rw [hbuilt.answer_eq] at hok
    cases built with
    | error failure => cases hok
    | ok result => rfl

end JarLens.Dependency
