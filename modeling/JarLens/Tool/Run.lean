import JarLens.Project.Detection
import JarLens.Text.Utf8
import JarLens.Tool.Action
import JarLens.Tool.Outcome

/-!
# Running tools

Before a tool is started the project around it is detected, and a build command is kept from running
in a project of another kind.
-/

namespace JarLens

/-- Detects the project that owns the place a path names, and logs what was found. -/
def detectProject (path : Text) : Action Detection := do
  let found ← Action.look (·.detect path)
  let logger := "jar_viewer.build.detector"
  match found.root with
  | some root =>
    Action.logMessage .debug logger ("Detected ".toList ++ found.kind.label ++
      " project at ".toList ++ root ++ " (found ".toList ++ Text.quotedList found.markers ++ [')'])
  | none => Action.logMessage .debug logger ("No build markers at or above ".toList ++ path)
  pure found

/-- A tool as a caller asks for it. -/
structure ToolRequest where
  command : Text
  arguments : List Text
  /-- The folder to run in. -/
  folder : Option Text := none
  /-- A path in the project that the tool is meant for. -/
  project : Option Text := none

/-- The path whose project the tool runs in: the one it is meant for, else its folder, else the
folder that the program works in. Empty paths do not count. -/
def ToolRequest.context (r : ToolRequest) (m : Machine) : Except Failure Text :=
  match (r.project.filter (· != [])) <|> (r.folder.filter (· != [])) <|>
      m.folder.map Place.toText with
  | some path => .ok path
  | none => .error (.badPath .folderGone)

/-- The failure that a launch fault means for the caller. -/
def LaunchFault.toFailure (command : Text) : LaunchFault → Failure
  | .missing => .toolMissing command []
  | .notExecutable => .toolNotExecutable command
  | .trouble cause => .badPath cause

/-- Refuses a command that belongs to another kind of project. -/
def guardKind (command : Text) (project : Detection) : Except Failure Unit :=
  match ProjectKind.required? command with
  | none => .ok ()
  | some required =>
    if project.kind = required then .ok ()
    else .error (.kindMismatch command required project.kind project.root)

/-- A tool that was started. -/
structure RunningTool where
  command : Text
  /-- The project that it runs in. -/
  project : Detection
  number : Nat

/-- What is started for a request. -/
def ToolRequest.launch (r : ToolRequest) : Launch :=
  ⟨r.command, r.arguments, r.folder⟩

/-- Detects the project that a tool runs in, and refuses one that it may not run in. -/
def ToolRequest.enter (r : ToolRequest) : Action Detection := do
  let project ← detectProject (← Action.look r.context)
  Action.look fun _ => guardKind r.command project
  pure project

/-- Starts a tool. -/
def ToolRequest.start (r : ToolRequest) : Action RunningTool := do
  let project ← r.enter
  Action.log .debug "jar_viewer.tools" "tool.spawn"
    [("command", .text r.command), ("args", .texts r.arguments),
      ("cwd", (r.folder.map LogValue.text).getD .none)]
  match ← Action.start r.launch with
  | .error fault => throw (fault.toFailure r.command)
  | .ok number => pure { command := r.command, project, number }

/-- What a finished tool leaves, as the outcome of a run in a project. -/
def Finished.outcome (finished : Finished) (project : Detection) : Outcome :=
  { exitCode := some finished.exitCode, stdout := Text.decodeUtf8 finished.stdout
    stderr := Text.decodeUtf8 finished.stderr, project }

/-- The outcome of a tool that is finished. -/
def RunningTool.outcome (tool : RunningTool) (finished : Finished) : Action Outcome := do
  Action.log .debug "jar_viewer.tools" "tool.exited"
    [("command", .text tool.command), ("exit_code", .number finished.exitCode)]
  pure (finished.outcome tool.project)

/-- Runs a tool until it is finished. -/
def runTool (r : ToolRequest) : Action Outcome := do
  let tool ← r.start
  let (_, finished) ← Action.await tool.number []
  tool.outcome finished

end JarLens
