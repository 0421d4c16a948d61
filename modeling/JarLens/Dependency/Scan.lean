import JarLens.Dependency.Cache
import JarLens.Dependency.InitScript
import JarLens.Dependency.MavenListing
import JarLens.Source.Decompiler

/-!
# Scanning projects

A scan finds the project that owns a path, lets its build tool resolve the dependencies, and reads
what the tool listed. Results are kept by key; the query is applied to what is given to each caller
and plays no part before.
-/

namespace JarLens.Dependency

/-- A project to be scanned. -/
structure ScanRequest where
  /-- The place that the caller asked about. -/
  path : Text
  root : Text
  kind : ProjectKind
  options : ScanOptions

/-- The key that the request's result is kept under. -/
def ScanRequest.key (r : ScanRequest) : CacheKey :=
  r.options.key r.root

/-- The number of lines told of a build that failed. -/
def errorTailLines : Int := 20

/-- The number of lines in a log tail. -/
def logTailLines : Int := 10

/-- The arguments with which Maven lists the resolved dependencies in a file. -/
def mavenArguments (listing : Text) (excludeTransitive : Bool) : List Text :=
  ["dependency:list".toList, "-DoutputAbsoluteArtifactFilename=true".toList,
    "-DincludeScope=runtime".toList, "-DappendOutput=false".toList,
    "-DoutputFile=".toList ++ listing, "-B".toList] ++
    if excludeTransitive then ["-DexcludeTransitive=true".toList] else []

/-- The arguments with which Gradle runs the listing task of a script. -/
def gradleArguments (script : Text) : List Text :=
  ["--init-script".toList, script, listingTask, "-q".toList]

/-- Starts a build tool in the root of a project. A missing tool is told with a hint. -/
def startTool (root tool hint : Text) (arguments : List Text) : Action RunningTool :=
  tryCatch
    (ToolRequest.start { command := tool, arguments, folder := some root, project := some root })
    fun failure =>
      match failure with
      | .toolMissing _ _ => throw (.toolMissing tool hint)
      | _ => throw failure

/-- Refuses an outcome that is no success. -/
def checkExit (label : Text) (o : Outcome) : Action Unit :=
  if o.ok then pure ()
  else do
    Action.log .warning "jar_viewer.engine" "scanner.build_tool_failed"
      [("command", .text label), ("exit_code", (o.exitCode.map LogValue.number).getD .none)]
    throw (.buildFailed label o.exitCode (o.tail errorTailLines))

/-- The result of a build, with the tail of its outcome if the options ask for it. -/
def ScanRequest.result (r : ScanRequest) (o : Outcome) (dependencies : List Record) : ScanResult :=
  { projectPath := r.path, projectRoot := r.root, kind := r.kind, dependencies, cached := false
    logTail := if r.options.includeLogTail then some (o.tail logTailLines) else none }

/-- What a fault means for who reads or writes a file. -/
def troubleOf (path : Text) : PathFault → PathTrouble
  | .tooLong => .tooLong path
  | .linkLoop => .manyLinks path
  | .isFolder => .isFolder path
  | .denied => .denied path
  | _ => .notFolder path

/-- The text of the listing that Maven left, empty when it left none. -/
def readListing (path : Text) : Action Text :=
  Action.look fun m =>
    match m.readFile path with
    | .ok bytes => .ok (Source.withLineFeeds (Text.decodeUtf8 bytes))
    | .error .missing => .ok []
    | .error fault => .error (.badPath (troubleOf path fault))

/-- Where Maven lists the dependencies in a scratch folder. -/
def listingPath (scratch : Place) : Text :=
  (scratch ++ ["dependencies.txt".toList]).toText

/-- The command that runs Gradle in a project: the project's own wrapper if it can be run. -/
def gradleCommand (m : Machine) (root : Text) : Except PathTrouble Text :=
  let wrapper := (PathName.ofText root ++ PathName.ofText "gradlew".toList).toText
  match m.find wrapper with
  | .ok (.file _ mode) => .ok (if isExecutable mode then wrapper else "gradle".toList)
  | .error .tooLong => .error (.tooLong wrapper)
  | .error .denied => .error (.denied wrapper)
  | _ => .ok "gradle".toList

/-- Writes the listing script at an absolute path. -/
def writeScript (path : Text) (options : ScanOptions) : Action Unit := do
  let m ← Action.machine
  match m.files.write [] path
      (Text.encodeUtf8 (initScript options.configurations options.excludeTransitive)) with
  | .ok files => Action.setFiles files
  | .error fault => throw (.badPath (troubleOf path fault))

/-- Starts Maven, which is to list the dependencies. -/
def startMaven (r : ScanRequest) (scratch : Place) : Action RunningTool :=
  startTool r.root "mvn".toList "Maven executable (mvn) was not found on PATH.".toList
    (mavenArguments (listingPath scratch) r.options.excludeTransitive)

/-- Starts Gradle, which is to list the dependencies. -/
def startGradle (r : ScanRequest) (scratch : Place) : Action RunningTool := do
  let script := (scratch ++ [scriptName]).toText
  writeScript script r.options
  let command ← Action.look fun m => (gradleCommand m r.root).mapError Failure.badPath
  startTool r.root command "Gradle executable (gradle/gradlew) was not found on PATH.".toList
    (gradleArguments script)

/-- A build that was started. -/
structure Build where
  request : ScanRequest
  scratch : Place
  tool : RunningTool

/-- Starts the project's build tool, with a scratch folder of its own. -/
def ScanRequest.start (r : ScanRequest) : Action Build := do
  let (kind, startIn) := match r.kind with
    | .maven => ("mvn", startMaven r)
    | _ => ("gradle", startGradle r)
  let scratch ← openScratch kind
  let tool ← Action.orElseDo (startIn scratch) (closeScratch scratch)
  pure { request := r, scratch, tool }

/-- The result that the outcome of a build gives. -/
def Build.collect (b : Build) (o : Outcome) : Action ScanResult :=
  match b.request.kind with
  | .maven => do
    checkExit "mvn dependency:list".toList o
    pure (b.request.result o (recordsOfMaven (← readListing (listingPath b.scratch))))
  | _ => do
    checkExit ("gradle ".toList ++ listingTask) o
    pure (b.request.result o (recordsOfGradle o.stdout))

/-- Takes the result of a build whose tool is finished, and clears up after it. -/
def Build.finish (b : Build) (finished : Finished) : Action ScanResult :=
  Action.andThenDo (do b.collect (← b.tool.outcome finished)) (closeScratch b.scratch)

/-- Finds the project to scan. -/
def locateProject (path : Text) (options : ScanOptions) : Action ScanRequest := do
  let place ← Action.look fun m => (m.place path).mapError Failure.badPath
  let found ← detectProject place.toText
  match found.root with
  | none => throw (.noProject place.toText)
  | some root => pure { path := place.toText, root, kind := found.kind, options }

/-- What a caller gets of a stored result. -/
def ScanRequest.answer (r : ScanRequest) (stored : ScanResult) : ScanResult :=
  { stored with
    projectPath := r.path, cached := true,
    dependencies := matching r.options.query stored.dependencies }

/-- What a caller gets of the result of its own build. -/
def ScanRequest.freshAnswer (r : ScanRequest) (built : ScanResult) : ScanResult :=
  { built with dependencies := matching r.options.query built.dependencies }

/-- Logs an event of a scan. -/
def logScan (event : String) (r : ScanRequest) (more : List (String × LogValue)) : Action Unit :=
  Action.log .info "jar_viewer.engine" event
    ([("root", .text r.root), ("kind", .text r.kind.label)] ++ more)

/-- Answers from a stored result. -/
def answerFromCache (r : ScanRequest) (stored : ScanResult) : Action ScanResult := do
  logScan "scanner.cache_hit" r []
  pure (r.answer stored)

/-- Starts the build that a request needs. -/
def startBuild (r : ScanRequest) : Action Build := do
  logScan "scanner.resolving" r []
  r.start

/-- Stores the result of a build and answers from it. -/
def storeResult (r : ScanRequest) (built : ScanResult) : Action ScanResult := do
  modify fun s => { s with cache := s.cache.put r.key built }
  logScan "scanner.resolved" r [("count", .number built.dependencies.length)]
  pure (r.freshAnswer built)

/-- Looks a request up in the cache, and answers from there or does something else. -/
def answerOr {α : Type} (r : ScanRequest) (found : ScanResult → α) (missed : Action α) :
    Action α := do
  match (← get).cache.get? r.key with
  | some stored => found <$> answerFromCache r stored
  | none => missed

/-- Makes sure that the key of a request has a lock. -/
def claimLock (r : ScanRequest) : Action Unit :=
  modify fun s => { s with cache := s.cache.withLock r.key }

/-- Scans the project that owns the place a path names. A result that is stored already is used;
else the key's lock is taken, and the cache is looked at once more before the build. -/
def scan (path : Text) (options : ScanOptions) : Action ScanResult := do
  let request ← locateProject path options
  answerOr request id do
    claimLock request
    answerOr request id do
      let build ← startBuild request
      let (_, finished) ← Action.await build.tool.number []
      storeResult request (← build.finish finished)

end JarLens.Dependency
