import JarLens.Entry.ClassFile
import JarLens.Entry.ClassFilter
import JarLens.Tool.Run
import JarLens.Tool.Scratch

/-!
# The decompiler

The decompiler is an archive of its own that a `java` command runs. It writes the source text of one
class below a scratch folder, at the path of the class's entry with another suffix.
-/

namespace JarLens.Source

/-- The file name of the decompiler. -/
def decompilerFile : Text :=
  "cfr-0.152.jar".toList

/-- The paths where a decompiler by a file name is looked for: the one set in the environment, then
the `lib` folders of the program and of the folder it works in. -/
def decompilerCandidates (fileName : Text) (m : Machine) : Except PathTrouble (List Text) := do
  let override ← match m.environment.decompilerOverride? with
    | some path => do pure [(← m.expandHome (PathName.ofText path)).toText]
    | none => pure []
  let here ← match m.folder with
    | some here => pure here
    | none => throw .folderGone
  let libraries := (m.programFolders ++ [here]).map fun folder =>
    (PathName.ofText folder.toText ++ PathName.ofText "lib".toList ++
      PathName.ofText fileName).toText
  pure (override ++ libraries)

/-- The first of some paths that leads to a file. -/
def firstFile? (m : Machine) : List Text → Except PathTrouble (Option Text)
  | [] => .ok none
  | path :: paths => do
    if ← m.isFile path then pure (some path) else firstFile? m paths

/-- What to do about a missing decompiler. -/
def decompilerHint : Text :=
  "Place it in ./lib or set JAR_VIEWER_CFR_JAR.".toList

/-- The path of the decompiler, of which a file name is known. -/
def findDecompiler (fileName : Text) (m : Machine) : Except Failure Text :=
  match do firstFile? m (← decompilerCandidates fileName m) with
  | .ok (some path) => .ok path
  | .ok none => .error (.toolMissing fileName decompilerHint)
  | .error trouble => .error (.badPath trouble)

/-- Finds the decompiler, and logs where it lies. -/
def locateDecompiler (fileName : Text) : Action Text := do
  let path ← Action.look (findDecompiler fileName)
  Action.logMessage .debug "jar_viewer.tools.locator" ("Using decompiler jar: ".toList ++ path)
  pure path

/-- Whether the failure only means that a tool could not be started. -/
def meansNoTool : Failure → Bool
  | .toolMissing _ _ => true
  | .toolNotExecutable _ => true
  | _ => false

/-- Does something that needs a tool, and takes a tool that could not be started for an answer. -/
def orNoTool {α : Type} (action : Action α) : Action (Except Failure α) :=
  tryCatch (Except.ok <$> action) fun failure =>
    if meansNoTool failure then pure (.error failure) else throw failure

/-- What came of decompiling a class: its source text, or none and what the tool said. -/
structure Decompiled where
  text : Option Text
  exitCode : Option Int
  stderr : Text
  deriving DecidableEq

/-- The first text that is not empty. -/
def firstNonEmpty (a b : Text) : Text :=
  if a = [] then b else a

/-- The text of a file as a reader of lines sees it: every break with a carriage return is a line
feed. -/
def withLineFeeds (t : Text) : Text :=
  Text.replaceChar '\r' '\n' (Text.unifyBreaks t)

/-- The text of a file that a path leads to, none when it leads to no file. -/
def textIfFile (path : Text) (m : Machine) : Except Failure (Option Text) :=
  match m.isFile path with
  | .error trouble => .error (.badPath trouble)
  | .ok false => .ok none
  | .ok true =>
    match m.readFile path with
    | .ok bytes => .ok (some (withLineFeeds (Text.decodeUtf8 bytes)))
    | .error .denied => .error (.badPath (.denied path))
    | .error _ => .ok none

/-- The arguments with which the decompiler writes one class of an archive below a folder. -/
def decompilerArguments (decompiler archive output className : Text) : List Text :=
  ["-jar".toList, decompiler, archive, "--outputdir".toList, output, "--jarfilter".toList,
    Entry.classFilter className, "--silent".toList, "true".toList]

/-- Where below the output folder the decompiler leaves the source text of an entry. -/
def decompiledPath (output entry : Text) : Text :=
  (PathName.ofText output ++ PathName.ofText (Entry.javaEntry entry)).toText

/-- What the decompiler is asked for one class of an archive, on a machine. -/
def decompilerRequest (m : Machine) (decompiler archive output className : Text) : ToolRequest :=
  { command := m.environment.java
    arguments := decompilerArguments decompiler archive output className
    project := some archive }

/-- What a decompiler says of its run. -/
def saidBy (o : Outcome) : Text :=
  firstNonEmpty o.stderr o.stdout

/-- What is told of a decompiler that left no source text. -/
def noOutputMessage (entry : Text) : Text :=
  "CFR did not produce output for ".toList ++ entry

/-- Takes the source text from where a finished decompiler left it. -/
def collectDecompiled (output entry className : Text) (o : Outcome) : Action Decompiled := do
  if !o.ok then
    Action.log .info "jar_viewer.source" "cfr.failed"
      [("class_name", .text className),
        ("exit_code", (o.exitCode.map LogValue.number).getD .none)]
    pure { text := none, exitCode := o.exitCode, stderr := saidBy o }
  else
    match ← Action.look (textIfFile (decompiledPath output entry)) with
    | some (c :: text) =>
      pure { text := some (c :: text), exitCode := o.exitCode, stderr := saidBy o }
    | _ =>
      Action.log .info "jar_viewer.source" "cfr.no_output" [("class_name", .text className)]
      pure { text := none, exitCode := o.exitCode,
             stderr := firstNonEmpty (saidBy o) (noOutputMessage entry) }

/-- What came of decompiling where the decompiler is missing or could not be started. -/
def Decompiled.notRun (failure : Failure) : Decompiled :=
  { text := none, exitCode := none, stderr := failure.message }

/-- Lets the decompiler write the class of an entry below a folder, and takes the text from there. -/
def decompileIn (decompiler archive entry className : Text) (output : Place) :
    Action Decompiled := do
  let m ← Action.machine
  match ← orNoTool (runTool (decompilerRequest m decompiler archive output.toText className)) with
  | .error failure => pure (.notRun failure)
  | .ok outcome => collectDecompiled output.toText entry className outcome

/-- Decompiles the class of an entry. A decompiler that is missing or cannot be started is told in
the answer. -/
def decompile (archive entry className : Text) : Action Decompiled := do
  match ← orNoTool (locateDecompiler decompilerFile) with
  | .error failure => pure (.notRun failure)
  | .ok decompiler => withScratch "cfr" (decompileIn decompiler archive entry className)

end JarLens.Source
