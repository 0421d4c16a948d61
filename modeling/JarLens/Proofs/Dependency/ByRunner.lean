import JarLens.Proofs.Tool.Runner

/-!
# Scans and decompiler calls with any runner

`decompileBy` and `scanBy` are the calls that work in a scratch folder, with the way of running tools
as a parameter. With `runTool` they are `decompile` and `scan` (`decompileBy_runTool`,
`scanBy_runTool`): a scan starts its tool, waits for it and collects the outcome in three steps, so
that scans can wait for each other, and done at one go these steps are work in one scratch folder.
-/

namespace JarLens

open JarLens.Action

/-! ## The decompiler -/

namespace Source

/-- Lets the decompiler write the class of an entry below a folder, and takes the text from
there. -/
def decompileInBy (run : Runner) (decompiler archive entry className : Text) (output : Place) :
    Action Decompiled := do
  let m ← Action.machine
  match ← orNoTool (run (decompilerRequest m decompiler archive output.toText className)) with
  | .error failure => pure (.notRun failure)
  | .ok outcome => collectDecompiled output.toText entry className outcome

/-- Decompiles the class of an entry. -/
def decompileBy (run : Runner) (archive entry className : Text) : Action Decompiled := do
  match ← orNoTool (locateDecompiler decompilerFile) with
  | .error failure => pure (.notRun failure)
  | .ok decompiler => withScratch "cfr" (decompileInBy run decompiler archive entry className)

theorem decompileBy_runTool : decompileBy runTool = decompile := rfl

end Source

/-! ## Scans -/

namespace Dependency

/-- What the failure of a tool means to who asked for it: a missing tool is told with a hint. -/
def hinted (tool hint : Text) : Failure → Failure
  | .toolMissing _ _ => .toolMissing tool hint
  | failure => failure

/-- What is asked of a build tool in the root of a project. -/
def buildRequest (root tool : Text) (arguments : List Text) : ToolRequest :=
  { command := tool, arguments, folder := some root, project := some root }

/-- Runs a build tool in the root of a project. -/
def runHinted (run : Runner) (root tool hint : Text) (arguments : List Text) : Action Outcome :=
  tryCatch (run (buildRequest root tool arguments)) fun failure => throw (hinted tool hint failure)

/-- The result that the outcome of a build gives. -/
def ScanRequest.collect (r : ScanRequest) (scratch : Place) (o : Outcome) : Action ScanResult :=
  match r.kind with
  | .maven => do
    checkExit "mvn dependency:list".toList o
    pure (r.result o (recordsOfMaven (← readListing (listingPath scratch))))
  | _ => do
    checkExit ("gradle ".toList ++ listingTask) o
    pure (r.result o (recordsOfGradle o.stdout))

/-- Runs the project's build tool with a scratch folder. -/
def runBuild (run : Runner) (r : ScanRequest) (scratch : Place) : Action Outcome :=
  match r.kind with
  | .maven =>
    runHinted run r.root "mvn".toList "Maven executable (mvn) was not found on PATH.".toList
      (mavenArguments (listingPath scratch) r.options.excludeTransitive)
  | _ => do
    let script := (scratch ++ [scriptName]).toText
    writeScript script r.options
    let command ← Action.look fun m => (gradleCommand m r.root).mapError Failure.badPath
    runHinted run r.root command "Gradle executable (gradle/gradlew) was not found on PATH.".toList
      (gradleArguments script)

/-- The kind of scratch folder that a build works in. -/
def ScanRequest.scratchKind (r : ScanRequest) : String :=
  match r.kind with
  | .maven => "mvn"
  | _ => "gradle"

/-- Builds the result of a scan in a scratch folder. -/
def buildIn (run : Runner) (r : ScanRequest) (scratch : Place) : Action ScanResult := do
  r.collect scratch (← runBuild run r scratch)

/-- Scans the project that owns the place a path names. -/
def scanBy (run : Runner) (path : Text) (options : ScanOptions) : Action ScanResult := do
  let request ← locateProject path options
  answerOr request id do
    claimLock request
    answerOr request id do
      logScan "scanner.resolving" request []
      storeResult request (← withScratch request.scratchKind (buildIn run request))

/-! ## At one go -/

section

variable {α β : Type} {a : Action α} {f : α → Action β}

/-- What is done in any case after two steps is done if the first one fails, and else after the
second one. -/
theorem andThenDo_bind {cleanUp : Action Unit} :
    andThenDo (a >>= f) cleanUp = orElseDo a cleanUp >>= fun x => andThenDo (f x) cleanUp := by
  funext launcher s
  unfold andThenDo orElseDo
  simp only [run_bind, run_tryCatch]
  rcases a launcher s with ⟨e | x, s₁⟩
  · dsimp only
    rcases cleanUp launcher s₁ with ⟨_ | _, s₂⟩ <;> rfl
  · rfl

/-- The action gives a result in every state. -/
def Succeeds (a : Action α) : Prop :=
  ∀ launcher s, ∃ x s', a launcher s = (.ok x, s')

theorem orElseDo_of_succeeds {cleanUp : Action Unit} (h : Succeeds a) : orElseDo a cleanUp = a := by
  funext launcher s
  obtain ⟨x, s', hrun⟩ := h launcher s
  rw [orElseDo, run_tryCatch, hrun]

/-- Failures are told in other words whether or not a step follows that cannot fail. -/
theorem tryCatch_bind_of_succeeds (g : Failure → Failure) (hf : ∀ x, Succeeds (f x)) :
    (tryCatch (a >>= f) fun e => throw (g e)) = (tryCatch a fun e => throw (g e)) >>= f := by
  funext launcher s
  simp only [run_bind, run_tryCatch]
  rcases a launcher s with ⟨e | x, s₁⟩
  · rfl
  · obtain ⟨y, s₂, hrun⟩ := hf x launcher s₁
    simp only [hrun]

end

theorem succeeds_await (first : Nat) (others : List Nat) : Succeeds (Action.await first others) :=
  fun _ _ => ⟨_, _, rfl⟩

/-- Waits for a tool, and takes its outcome. -/
def waitFor (tool : RunningTool) : Action Outcome := do
  let (_, finished) ← Action.await tool.number []
  tool.outcome finished

theorem startTool_eq (root tool hint : Text) (arguments : List Text) :
    startTool root tool hint arguments =
      tryCatch (buildRequest root tool arguments).start fun e => throw (hinted tool hint e) := by
  unfold startTool
  congr 1
  funext failure
  cases failure <;> rfl

/-- Running a tool is starting it and waiting for it. -/
theorem runHinted_runTool (root tool hint : Text) (arguments : List Text) :
    runHinted runTool root tool hint arguments =
      startTool root tool hint arguments >>= waitFor := by
  have hsucceeds : ∀ tool, Succeeds (waitFor tool) := fun _ _ _ => ⟨_, _, rfl⟩
  rw [startTool_eq]
  exact tryCatch_bind_of_succeeds (hinted tool hint) hsucceeds

/-- Starts the project's build tool with a scratch folder. -/
def startIn (r : ScanRequest) (scratch : Place) : Action RunningTool :=
  match r.kind with
  | .maven => startMaven r scratch
  | _ => startGradle r scratch

theorem runBuild_runTool (r : ScanRequest) (scratch : Place) :
    runBuild runTool r scratch = startIn r scratch >>= waitFor := by
  unfold runBuild startIn
  cases r.kind with
  | maven => exact runHinted_runTool ..
  | gradle | native =>
    simp only [runHinted_runTool, startGradle, bind_assoc]

/-- A build starts with its scratch folder, which is cleared if the tool cannot be started. -/
theorem start_eq (r : ScanRequest) :
    r.start = openScratch r.scratchKind >>= fun scratch =>
      orElseDo (startIn r scratch) (closeScratch scratch) >>= fun tool =>
        pure { request := r, scratch, tool } := by
  unfold ScanRequest.start ScanRequest.scratchKind startIn
  cases r.kind <;> rfl

/-- A build that is started, waited for and finished is work in one scratch folder. -/
theorem build_eq (r : ScanRequest) :
    (r.start >>= fun build => Action.await build.tool.number [] >>= fun p => build.finish p.2) =
      withScratch r.scratchKind (buildIn runTool r) := by
  have hwait : ∀ scratch tool,
      (Action.await tool.number [] >>= fun p =>
        Build.finish { request := r, scratch, tool } p.2) =
      andThenDo (waitFor tool >>= r.collect scratch) (closeScratch scratch) := by
    intro scratch tool
    show _ = andThenDo ((Action.await tool.number [] >>= fun p => tool.outcome p.2) >>=
      r.collect scratch) (closeScratch scratch)
    rw [bind_assoc, andThenDo_bind, orElseDo_of_succeeds (succeeds_await _ _)]
    rfl
  have hbuild : ∀ scratch, andThenDo (buildIn runTool r scratch) (closeScratch scratch) =
      orElseDo (startIn r scratch) (closeScratch scratch) >>= fun tool =>
        andThenDo (waitFor tool >>= r.collect scratch) (closeScratch scratch) := by
    intro scratch
    rw [buildIn, runBuild_runTool, bind_assoc, andThenDo_bind]
  -- The scratch folder is removed once: after a failed start, or at the end.
  rw [start_eq, withScratch]
  simp only [bind_assoc, pure_bind, hwait, hbuild]

/-- With the runner of this library, scanning by a runner is scanning. -/
theorem scanBy_runTool : scanBy runTool = scan := by
  have hbuild : ∀ r, (logScan "scanner.resolving" r [] >>= fun _ =>
      withScratch r.scratchKind (buildIn runTool r) >>= storeResult r) =
      startBuild r >>= fun build => Action.await build.tool.number [] >>= fun p =>
        build.finish p.2 >>= storeResult r := by
    intro r
    rw [← build_eq, startBuild]
    simp only [bind_assoc]
  funext path options
  unfold scanBy scan
  simp only [hbuild]

end Dependency

end JarLens
