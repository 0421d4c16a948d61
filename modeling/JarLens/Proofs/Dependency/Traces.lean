import JarLens.Proofs.Dependency.ByRunner

/-!
# Calls leave no trace

Scans and decompiler calls work in a scratch folder of their own. Whatever a tool does in the folder
that it is given, and however it or what is done with its work fails: after the call everything on
the machine lies where it lay before, and the scratch folders are the same
(`calls_leave_no_trace`). A scan that fails changes no stored result, so that later scans go on as if
it had not been.
-/

namespace JarLens

open JarLens.Action

/-! ## What tools are given -/

/-- The request gives a tool the folder at a place to work in. -/
inductive ToolRequest.IsGiven (place : Place) : ToolRequest → Prop
  | decompiler {command decompiler archive className project} :
      IsGiven place
        { command
          arguments := Source.decompilerArguments decompiler archive place.toText className
          project }
  | maven {root tool excludeTransitive} :
      IsGiven place (Dependency.buildRequest root tool
        (Dependency.mavenArguments (Dependency.listingPath place) excludeTransitive))
  | gradle {root tool} :
      IsGiven place (Dependency.buildRequest root tool
        (Dependency.gradleArguments (place ++ [Dependency.scriptName]).toText))

/-- Tools that are given the next scratch folder of a machine change nothing but in there, and leave
what can be removed, whether or not running them fails. -/
def Runner.StaysIn (run : Runner) (launcher : Launcher) (m : Machine) (kind : Text) : Prop :=
  ∀ r, r.IsGiven (m.freshScratch kind) →
    Leads launcher (m.IsReady kind) (m.IsClean kind) (m.IsClean kind) (run r)

/-! ## What is left -/

/-- A folder in the scratch area with a name that scratch folders have. -/
structure Files.IsScratchFolder (files : Files) (area : Place) (place : Place) : Prop where
  name : ∃ name, place = area ++ ["jar-viewer-".toList ++ name]
  folder : ∃ mode, files.get? place = some (.folder mode)

/-- Everything lies where it lay before, and the scratch folders are the same. -/
structure Machine.IsUnchanged (m m' : Machine) : Prop where
  files : ∀ place, m'.files.get? place = m.files.get? place
  scratch : ∀ place, m'.files.IsScratchFolder m.scratch place ↔
    m.files.IsScratchFolder m.scratch place

/-- Where everything that lies somewhere still lies there, the same scratch folders are there. -/
theorem Machine.isUnchanged_of_get? {m m' : Machine}
    (h : ∀ place, m'.files.get? place = m.files.get? place) : m.IsUnchanged m' := by
  refine ⟨h, fun place => ⟨?_, ?_⟩⟩
  · rintro ⟨hname, mode, hfolder⟩
    exact ⟨hname, mode, h place ▸ hfolder⟩
  · rintro ⟨hname, mode, hfolder⟩
    exact ⟨hname, mode, (h place).trans hfolder⟩

theorem Machine.isUnchanged_of_eq {m m' : Machine} (h : m' = m) : m.IsUnchanged m' :=
  h ▸ isUnchanged_of_get? fun _ => rfl

/-- What is done in a scratch folder and stays there changes nothing. -/
theorem leads_withScratch {α : Type} {kind : String} {body : Place → Action α} {launcher : Launcher}
    {m : Machine} (harea : m.HasScratchArea)
    (hbody : Leads launcher (m.IsBare kind.toList) (m.IsClean kind.toList) (m.IsClean kind.toList)
      (body (m.freshScratch kind.toList))) :
    Leads launcher (· = m) m.IsUnchanged m.IsUnchanged (withScratch kind body) := by
  rintro s rfl
  have hsame := Machine.isUnchanged_of_get? (get?_withScratch harea hbody)
  rcases hrun : withScratch kind body launcher s with ⟨_ | x, s'⟩ <;> rw [hrun] at hsame <;>
    exact hsame

/-- What does not touch the machine leaves it unchanged, if it fails as well. -/
theorem leads_of_keeps_machine {α : Type} {launcher : Launcher} {m : Machine} {a : Action α}
    (h : Keeps State.machine a) : Leads launcher (· = m) (· = m) m.IsUnchanged a :=
  (Leads.of_keeps h).mono (fun _ => id) (fun _ => id) fun _ => Machine.isUnchanged_of_eq

/-! ## The decompiler -/

theorem keeps_orNoTool {α γ : Type} {view : State → γ} {a : Action α} (h : Keeps view a) :
    Keeps view (Source.orNoTool a) := by
  refine (h.map Except.ok).tryCatch fun failure => ?_
  split
  · exact .pure _
  · exact .throw _

/-- A missing tool that is taken for no result ends where the failure would have ended. -/
theorem leads_orNoTool {α : Type} {launcher : Launcher} {P Q : Machine → Prop} {a : Action α}
    (h : Leads launcher P Q Q a) : Leads launcher P Q Q (Source.orNoTool a) := by
  refine (h.map Except.ok).tryCatch fun failure => ?_
  split
  · exact .pure _
  · exact .throw _

namespace Source

theorem keepsMachine_locateDecompiler {fileName : Text} :
    Keeps State.machine (locateDecompiler fileName) :=
  (Keeps.look _).bind fun _ => Keeps.logMessage.bind fun _ => .pure _

theorem keepsMachine_collectDecompiled {output entry className : Text} {o : Outcome} :
    Keeps State.machine (collectDecompiled output entry className o) := by
  unfold collectDecompiled
  split
  · exact Keeps.log.bind fun _ => .pure _
  · refine (Keeps.look _).bind fun text => ?_
    split
    · exact .pure _
    · exact Keeps.log.bind fun _ => .pure _

variable {run : Runner} {launcher : Launcher} {m : Machine}

/-- From a bare scratch folder a decompiler run leads to one that can be cleared, whatever comes of
it. -/
theorem leads_decompileInBy (harea : m.HasScratchArea) (hstays : run.StaysIn launcher m "cfr".toList)
    (decompiler archive entry className : Text) :
    Leads launcher (m.IsBare "cfr".toList) (m.IsClean "cfr".toList) (m.IsClean "cfr".toList)
      (decompileInBy run decompiler archive entry className (m.freshScratch "cfr".toList)) := by
  have hready : ∀ m', m.IsBare "cfr".toList m' → m.IsReady "cfr".toList m' :=
    fun _ h => h.isReady harea
  refine Leads.mono ?_ hready (fun _ => id) (fun _ => id)
  refine ((Leads.of_keeps .machine).mono (fun _ => id) (fun _ => id)
    fun _ h => h.toIsClean).bind fun m₁ => ?_
  refine (leads_orNoTool (hstays _ .decompiler)).bind fun result => ?_
  cases result with
  | error failure => exact .pure _
  | ok outcome => exact .of_keeps keepsMachine_collectDecompiled

/-- A decompiler run leaves the machine unchanged, whatever comes of it. -/
theorem leads_decompileBy (harea : m.HasScratchArea) (hstays : run.StaysIn launcher m "cfr".toList)
    (archive entry className : Text) :
    Leads launcher (· = m) m.IsUnchanged m.IsUnchanged
      (decompileBy run archive entry className) := by
  refine (leads_of_keeps_machine (keeps_orNoTool keepsMachine_locateDecompiler)).bind
    fun result => ?_
  cases result with
  | error failure =>
    exact (Leads.pure _).mono (fun _ => id) (fun _ => Machine.isUnchanged_of_eq) (fun _ => id)
  | ok decompiler =>
    exact leads_withScratch harea (leads_decompileInBy harea hstays decompiler archive entry className)

end Source

/-! ## Scans -/

namespace Dependency

theorem keepsMachine_claimLock {r : ScanRequest} : Keeps State.machine (claimLock r) :=
  .modify fun _ => rfl

theorem keepsMachine_answerFromCache {r : ScanRequest} {stored : ScanResult} :
    Keeps State.machine (answerFromCache r stored) :=
  Keeps.log.bind fun _ => .pure _

theorem keepsMachine_storeResult {r : ScanRequest} {built : ScanResult} :
    Keeps State.machine (storeResult r built) :=
  Keeps.bind (.modify fun _ => rfl) fun _ => Keeps.log.bind fun _ => .pure _

theorem keeps_collect {γ : Type} {view : State → γ} [HidesLog view] {r : ScanRequest}
    {scratch : Place} {o : Outcome} : Keeps view (r.collect scratch o) := by
  unfold ScanRequest.collect
  cases r.kind with
  | maven => exact keeps_checkExit.bind fun _ => (Keeps.look _).bind fun _ => .pure _
  | gradle | native => exact keeps_checkExit.bind fun _ => .pure _

section

variable {run : Runner} {launcher : Launcher} {m : Machine}

/-- The listing script is all that is in the scratch folder afterwards; if it cannot be written, the
folder is as it was. -/
theorem leads_writeScript (harea : m.HasScratchArea) {kind : Text} (hkind : '/' ∉ kind)
    (options : ScanOptions) :
    Leads launcher (m.IsBare kind) (m.IsReady kind) (m.IsClean kind)
      (writeScript (m.freshScratch kind ++ [scriptName]).toText options) := by
  have hscript : IsPlaceName scriptName := ⟨⟨by decide, by decide, by decide⟩, by decide⟩
  intro s hs
  unfold writeScript
  rw [run_bind, run_machine]
  dsimp only
  cases hwrite : s.machine.files.write [] (m.freshScratch kind ++ [scriptName]).toText
      (Text.encodeUtf8 (initScript options.configurations options.excludeTransitive)) with
  | ok files =>
    rw [hs.write_eq harea hkind hscript hwrite]
    exact hs.put harea scriptName rfl
  | error fault => exact (hs.isReady harea).toIsClean

/-- The hint for a missing tool does not change what the run leaves. -/
theorem leads_runHinted {kind root tool hint : Text} {arguments : List Text}
    (hstays : run.StaysIn launcher m kind)
    (hgiven : (buildRequest root tool arguments).IsGiven (m.freshScratch kind)) :
    Leads launcher (m.IsReady kind) (m.IsClean kind) (m.IsClean kind)
      (runHinted run root tool hint arguments) :=
  (hstays _ hgiven).tryCatch fun _ => .throw _

/-- From a bare scratch folder a build leads to one that can be cleared, whatever comes of it. -/
theorem leads_buildIn (harea : m.HasScratchArea) (r : ScanRequest)
    (hstays : run.StaysIn launcher m r.scratchKind.toList) :
    Leads launcher (m.IsBare r.scratchKind.toList) (m.IsClean r.scratchKind.toList)
      (m.IsClean r.scratchKind.toList)
      (buildIn run r (m.freshScratch r.scratchKind.toList)) := by
  refine Leads.bind ?_ fun o => .of_keeps keeps_collect
  have hready : ∀ kind m', m.IsBare kind m' → m.IsReady kind m' := fun _ _ h => h.isReady harea
  unfold runBuild
  cases hr : r.kind with
  | maven =>
    rw [show r.scratchKind = "mvn" by rw [ScanRequest.scratchKind, hr]] at hstays ⊢
    exact (leads_runHinted hstays .maven).mono (hready _) (fun _ => id) (fun _ => id)
  | gradle | native =>
    rw [show r.scratchKind = "gradle" by rw [ScanRequest.scratchKind, hr]] at hstays ⊢
    refine (leads_writeScript harea (by decide) r.options).bind fun _ => ?_
    refine ((Leads.of_keeps (.look _)).mono (fun _ => id) (fun _ => id)
      fun _ h => h.toIsClean).bind fun command => ?_
    exact leads_runHinted hstays .gradle

theorem leads_answerOr {α : Type} {r : ScanRequest} {found : ScanResult → α} {missed : Action α}
    (h : Leads launcher (· = m) m.IsUnchanged m.IsUnchanged missed) :
    Leads launcher (· = m) m.IsUnchanged m.IsUnchanged (answerOr r found missed) := by
  refine (leads_of_keeps_machine .get).bind fun s => ?_
  split
  · exact (leads_of_keeps_machine (keepsMachine_answerFromCache.map found)).mono (fun _ => id)
      (fun _ => Machine.isUnchanged_of_eq) (fun _ => id)
  · exact h

/-- A scan leaves the machine unchanged, whatever comes of it. -/
theorem leads_scanBy (harea : m.HasScratchArea)
    (hstays : ∀ kind ∈ ["mvn", "gradle"], run.StaysIn launcher m kind.toList) (path : Text)
    (options : ScanOptions) :
    Leads launcher (· = m) m.IsUnchanged m.IsUnchanged (scanBy run path options) := by
  refine (leads_of_keeps_machine keeps_locateProject).bind fun r => ?_
  have hkind : r.scratchKind ∈ ["mvn", "gradle"] := by
    unfold ScanRequest.scratchKind
    cases r.kind <;> simp
  refine leads_answerOr ((leads_of_keeps_machine keepsMachine_claimLock).bind fun _ =>
    leads_answerOr ((leads_of_keeps_machine Keeps.log).bind fun _ => ?_))
  exact (leads_withScratch harea (leads_buildIn harea r (hstays _ hkind))).bind fun _ =>
    .of_keeps keepsMachine_storeResult

end

/-! ## The stored results -/

/-- If the action fails, the stored results are as before. -/
def KeepsOnFailure {α : Type} (a : Action α) : Prop :=
  ∀ launcher s e s', a launcher s = (.error e, s') → s'.cache.results = s.cache.results

section

variable {α β : Type}

theorem keepsOnFailure_of_succeeds {a : Action α} (h : Succeeds a) : KeepsOnFailure a := by
  intro launcher s e s' hrun
  obtain ⟨x, s₁, hok⟩ := h launcher s
  rw [hrun] at hok
  cases hok

/-- A failure after something that leaves the stored results alone. -/
theorem keepsOnFailure_bind {a : Action α} {f : α → Action β}
    (ha : Keeps (fun s => s.cache.results) a) (hf : ∀ x, KeepsOnFailure (f x)) :
    KeepsOnFailure (a >>= f) := by
  intro launcher s e s' h
  have hresults := ha launcher s
  rw [run_bind] at h
  rcases hrun : a launcher s with ⟨e₁ | x, s₁⟩ <;> rw [hrun] at h hresults
  · cases h
    exact hresults
  · exact (hf x launcher s₁ e s' h).trans hresults

theorem keeps_results {a : Action α} (h : Keeps State.cache a) :
    Keeps (fun s => s.cache.results) a :=
  fun launcher s => congrArg Cache.results (h launcher s)

theorem keepsOnFailure_answerOr {r : ScanRequest} {found : ScanResult → α} {missed : Action α}
    (h : KeepsOnFailure missed) : KeepsOnFailure (answerOr r found missed) := by
  refine keepsOnFailure_bind .get fun s => ?_
  split
  · exact keepsOnFailure_of_succeeds fun _ _ => ⟨_, _, rfl⟩
  · exact h

theorem keepsCache_withScratch {kind : String} {body : Place → Action α}
    (h : ∀ place, Keeps State.cache (body place)) : Keeps State.cache (withScratch kind body) :=
  keepsCache_openScratch.bind fun place => (h place).andThenDo keepsCache_closeScratch

theorem keepsCache_buildIn {run : Runner} (hrun : run.IsPlain) (r : ScanRequest) (scratch : Place) :
    Keeps State.cache (buildIn run r scratch) := by
  refine Keeps.bind ?_ fun _ => keeps_collect
  have hhinted : ∀ root tool hint arguments,
      Keeps State.cache (runHinted run root tool hint arguments) := fun _ _ _ _ =>
    (hrun.keepsCache _).tryCatch fun _ => .throw _
  unfold runBuild
  cases r.kind with
  | maven => exact hhinted _ _ _ _
  | gradle | native =>
    exact keepsCache_writeScript.bind fun _ => (Keeps.look _).bind fun _ => hhinted _ _ _ _

/-- A scan that fails has stored nothing. -/
theorem keepsOnFailure_scanBy {run : Runner} (hrun : run.IsPlain) (path : Text)
    (options : ScanOptions) : KeepsOnFailure (scanBy run path options) := by
  -- The result is stored last, and nothing fails after that.
  refine keepsOnFailure_bind (keeps_results keeps_locateProject) fun r =>
    keepsOnFailure_answerOr (keepsOnFailure_bind (.modify fun s => ?_) fun _ =>
      keepsOnFailure_answerOr (keepsOnFailure_bind (keeps_results .log) fun _ =>
        keepsOnFailure_bind (keeps_results (keepsCache_withScratch (keepsCache_buildIn hrun r)))
          fun _ => keepsOnFailure_of_succeeds fun _ _ => ⟨_, _, rfl⟩))
  unfold Cache.withLock
  split <;> rfl

end

/-! ## Later scans -/

section

theorem respects_checkExit {label : Text} {o : Outcome} : Respects (checkExit label o) := by
  unfold checkExit
  split
  · exact .pure _
  · exact Respects.log.bind fun _ => .throw _

theorem respects_collect {r : ScanRequest} {scratch : Place} {o : Outcome} :
    Respects (r.collect scratch o) := by
  unfold ScanRequest.collect
  cases r.kind with
  | maven => exact respects_checkExit.bind fun _ => (Respects.look _).bind fun _ => .pure _
  | gradle | native => exact respects_checkExit.bind fun _ => .pure _

theorem respects_writeScript {path : Text} {options : ScanOptions} :
    Respects (writeScript path options) := by
  refine Respects.machine.bind fun m => ?_
  split
  · exact .setFiles _
  · exact .throw _

theorem respects_buildIn {run : Runner} (hrun : run.IsPlain) (r : ScanRequest) (scratch : Place) :
    Respects (buildIn run r scratch) := by
  refine Respects.bind ?_ fun _ => respects_collect
  have hhinted : ∀ root tool hint arguments,
      Respects (runHinted run root tool hint arguments) := fun _ _ _ _ =>
    (hrun.respects _).tryCatch fun _ => .throw _
  unfold runBuild
  cases r.kind with
  | maven => exact hhinted _ _ _ _
  | gradle | native =>
    exact respects_writeScript.bind fun _ => (Respects.look _).bind fun _ => hhinted _ _ _ _

/-- Which project is found depends on the machine alone. -/
theorem respects_locateProject {path : Text} {options : ScanOptions} :
    Respects (locateProject path options) := by
  refine (Respects.look _).bind fun place => Respects.detectProject.bind fun found => ?_
  cases found.root with
  | none => exact .throw _
  | some root => exact .pure _

/-- Whether something is stored is the same in both states. -/
theorem respects_answerOr {α : Type} {r : ScanRequest} {found : ScanResult → α} {missed : Action α}
    (h : Respects missed) : Respects (answerOr r found missed) := by
  intro launcher s s' halike
  have hget : s.cache.get? r.key = s'.cache.get? r.key := by
    rw [Cache.get?, halike.results]
    rfl
  have hfound : ∀ stored, Respects (found <$> answerFromCache r stored) := fun _ =>
    (Respects.log.bind fun _ => .pure _).map found
  unfold answerOr
  rw [run_bind, run_bind, run_get, run_get]
  dsimp only
  rw [hget]
  cases s'.cache.get? r.key with
  | some stored => exact hfound stored launcher s s' halike
  | none => exact h launcher s s' halike

theorem respects_storeResult {r : ScanRequest} {built : ScanResult} :
    Respects (storeResult r built) := by
  refine Respects.bind (.modify fun s s' h => ⟨h.machine, ?_⟩) fun _ => Respects.log.bind fun _ =>
    .pure _
  show (s.cache.put r.key built).results = (s'.cache.put r.key built).results
  rw [Cache.put, Cache.put, Cache.get?, Cache.get?, h.results]

/-- A scan goes by the machine and the stored results alone. -/
theorem respects_scanBy {run : Runner} (hrun : run.IsPlain) (path : Text) (options : ScanOptions) :
    Respects (scanBy run path options) := by
  have hclaim : ∀ r, Respects (claimLock r) := fun r =>
    .modify fun s s' h => ⟨h.machine, by
      show (s.cache.withLock r.key).results = (s'.cache.withLock r.key).results
      unfold Cache.withLock
      split <;> split <;> exact h.results⟩
  exact respects_locateProject.bind fun r => respects_answerOr <| (hclaim r).bind fun _ =>
    respects_answerOr <| Respects.log.bind fun _ =>
      (Respects.withScratch fun place => respects_buildIn hrun r place).bind fun _ =>
        respects_storeResult

end

end Dependency

/-! ## No trace -/

open Dependency Source

/-- Decompiler calls and scans leave the machine as it was, and a scan that fails leaves the stored
results as they were, so that later scans give and do the same as with the cache from before. This
holds of any plain way of running tools that stays in the scratch folder, and hence of any tools. -/
theorem calls_leave_no_trace {run : Runner} (hrun : run.IsPlain) (launcher : Launcher) (s : State) :
    (decompileBy runTool = decompile ∧ scanBy runTool = scan ∧ Runner.IsPlain runTool) ∧
    (s.machine.HasScratchArea → run.StaysIn launcher s.machine "cfr".toList →
      ∀ archive entry className,
        s.machine.IsUnchanged (decompileBy run archive entry className launcher s).2.machine) ∧
    (s.machine.HasScratchArea →
      (∀ kind ∈ ["mvn", "gradle"], run.StaysIn launcher s.machine kind.toList) →
      ∀ path options, s.machine.IsUnchanged (scanBy run path options launcher s).2.machine) ∧
    ∀ path options failure s', scanBy run path options launcher s = (.error failure, s') →
      s'.cache.results = s.cache.results ∧
      ∀ path' options',
        (scanBy run path' options' launcher s').1 =
          (scanBy run path' options' launcher { s' with cache := s.cache }).1 ∧
        (scanBy run path' options' launcher s').2.Alike
          (scanBy run path' options' launcher { s' with cache := s.cache }).2 := by
  refine ⟨⟨decompileBy_runTool, scanBy_runTool, isPlain_runTool⟩, ?_, ?_, ?_⟩
  · intro harea hstays archive entry className
    exact (leads_decompileBy harea hstays archive entry className).machine_of rfl
  · intro harea hstays path options
    exact (leads_scanBy harea hstays path options).machine_of rfl
  · intro path options failure s' h
    have hresults := keepsOnFailure_scanBy hrun path options launcher s failure s' h
    exact ⟨hresults, fun path' options' =>
      respects_scanBy hrun path' options' launcher s' _ ⟨rfl, hresults⟩⟩

/-! ## A build that fails -/

/-- Tools stay in a scratch folder if what comes of running them does. -/
theorem staysIn_runTool {launcher : Launcher} {m : Machine} {kind : Text}
    (h : ∀ (r : ToolRequest) m₁ x m₂ tried, r.IsGiven (m.freshScratch kind) → m.IsReady kind m₁ →
      r.Runs launcher m₁ x m₂ tried → m.IsClean kind m₂) :
    Runner.StaysIn runTool launcher m kind := by
  intro r hgiven s hready
  obtain ⟨x, m', tried, hruns⟩ := ToolRequest.Runs.total launcher s.machine r
  have hclean := h r s.machine x m' tried hgiven hready hruns
  obtain ⟨s', hrun, rfl, -⟩ := hruns.ends s rfl
  rw [hrun]
  cases x <;> exact hclean

/-- A machine with a project that Maven builds. -/
def projectMachine : Machine :=
  { files :=
      { names := .node 0 [("tmp".toList, .node 1 []),
          ("p".toList, .node 2 [("pom.xml".toList, .node 3 [])])]
        items := #[⟨.folder 0o755, 0⟩, ⟨.folder 0o755, 0⟩, ⟨.folder 0o755, 0⟩, ⟨.file .empty 0o644, 0⟩] }
    environment := {}, folder := some [], scratch := ["tmp".toList], programFolders := []
    homes := [] }

/-- A launcher whose tools all end with exit code 1. -/
def failingLauncher : Launcher :=
  { start := fun m _ => .ok (0, m.toSite)
    await := fun m first _ => (first, ⟨1, .empty, .empty⟩, m.toSite) }

theorem hasScratchArea_projectMachine : projectMachine.HasScratchArea where
  names := by
    intro name hname
    rw [List.mem_singleton.1 hname]
    exact ⟨⟨by decide, by decide, by decide⟩, by decide⟩
  noLink := fun place _ => Files.get?_ne_link (by decide) place
  known := Files.isKnown_of_forall (by decide)
  changeable := by decide

theorem staysIn_failingLauncher (kind : Text) :
    Runner.StaysIn runTool failingLauncher projectMachine kind := by
  refine staysIn_runTool fun r m₁ x m₂ tried hgiven hready hruns => ?_
  have hfiles : m₂.files = m₁.files := by
    cases hruns with
    | refused h => rfl
    | notStarted h hstart => rfl
    | finished h hstart hawait =>
      cases hstart
      cases hawait
      rfl
  exact ⟨hfiles ▸ hready.same, hfiles ▸ hready.clears⟩

theorem calls_leave_no_trace_failingBuild :
    (scan "/p".toList {} failingLauncher { machine := projectMachine }).1 =
      .error (.buildFailed "mvn dependency:list".toList (some 1) []) ∧
    projectMachine.IsUnchanged
      (scan "/p".toList {} failingLauncher { machine := projectMachine }).2.machine ∧
    (scan "/p".toList {} failingLauncher { machine := projectMachine }).2.cache.results = [] := by
  have hfails : (scan "/p".toList {} failingLauncher { machine := projectMachine }).1 =
      .error (.buildFailed "mvn dependency:list".toList (some 1) []) := by
    decide +kernel
  obtain ⟨-, -, hunchanged, hfailure⟩ := calls_leave_no_trace isPlain_runTool
    failingLauncher { machine := projectMachine }
  have hmachine := hunchanged hasScratchArea_projectMachine
    (fun kind _ => staysIn_failingLauncher kind.toList) "/p".toList {}
  rw [← scanBy_runTool] at hfails ⊢
  rcases hrun : scanBy runTool "/p".toList {} failingLauncher { machine := projectMachine } with
    ⟨x, s'⟩
  rw [hrun] at hfails hmachine
  obtain rfl : x = _ := hfails
  exact ⟨rfl, hmachine, (hfailure "/p".toList {} _ s' hrun).1⟩

end JarLens
