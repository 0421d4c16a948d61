import JarLens.CommandLine.CompletionScript
import JarLens.Dependency.Scan
import JarLens.Report.LogFormat
import JarLens.Report.Payload
import JarLens.Source.Reading
import JarLens.Text.Style

/-!
# Running a command line

`run` takes a command line to what the program prints and the code it ends with. Failures that the
program reports are printed; any other ends it and is given as its cause.
-/

namespace JarLens.CommandLine

/-- Why the program ends without a report. -/
inductive Escape where
  | failure (cause : Failure)
  /-- The threshold set for log lines is no level. -/
  | unknownLevel (name : Text)
  | completion (cause : CompletionFault)
  /-- A program that was to tell its version does not start. -/
  | launch (fault : LaunchFault)
  /-- What a program told of its version is no text. -/
  | undecodable (fault : Text.Utf8Fault)
  deriving DecidableEq

/-- What running a command line gives. -/
structure Ending where
  exitCode : Nat
  stdout : Text
  stderr : Text
  escape : Option Escape

/-- The number of rows that a listing shows. -/
def listedRows : Int := 100

/-- What a command prints. -/
structure Printed where
  stdout : Text := []
  stderr : Text := []

/-- The lines for one row of a listing. -/
def rowLine (r : Row) : Text :=
  if r.isFolder then "  ".toList ++ r.name ++ "/\n".toList
  else "  ".toList ++ r.name ++ "  (".toList ++ Text.ofNat r.size ++ " bytes)\n".toList

/-- A listing for a reader. -/
def listingText (archive : Text) (l : Listing) : Text :=
  archive ++ ':' :: l.folder ++ '\n' :: l.rows.flatMap rowLine ++
    if l.truncated then
      "  ... ".toList ++ Text.ofInt ((l.total : Int) - l.rows.length) ++ " more\n".toList
    else []

/-- Lists a folder of an archive. -/
def runList (asJson : Bool) (path folder : Text) : Action Printed := do
  let (archive, listing) ← Action.look (·.list listedRows path folder)
  pure { stdout :=
    if asJson then (listing.toJson archive).spread 0 ++ ['\n'] else listingText archive listing }

/-- Shows an entry. -/
def runRead (path entry : Text) : Action Printed := do
  let reading ← Source.readEntry path entry
  pure { stdout := reading.content ++ ['\n']
         stderr := '[' :: reading.provenance.label ++ "] ".toList ++ reading.entryPath ++ ['\n'] }

/-- The lines for one dependency. -/
def recordLines (r : Dependency.Record) : Text :=
  let classifier := match r.classifier with
    | some (c :: t) => ':' :: c :: t
    | _ => []
  "  ".toList ++ r.coordinates ++ ':' :: r.version ++ classifier ++ " [".toList ++ r.scope ++
    "]\n    ".toList ++ r.path ++ ['\n']

/-- The result of a scan for a reader. -/
def scanText (r : Dependency.ScanResult) : Text :=
  r.kind.label ++ " project at ".toList ++ r.projectRoot ++ ": ".toList ++
    Text.ofNat r.dependencies.length ++ " dependencies\n\n".toList ++
    r.dependencies.flatMap recordLines ++
    match r.logTail with
    | some (c :: t) => '\n' :: c :: t ++ ['\n']
    | _ => []

/-- Resolves dependencies. -/
def runScan (asJson : Bool) (path : Text) (options : Dependency.ScanOptions) : Action Printed := do
  let result ← Dependency.scan path options
  pure { stdout := if asJson then result.toJson.spread 0 ++ ['\n'] else scanText result }

/-- What a command does with its arguments. -/
def perform (name : Text) (a : Arguments) (bound : List (Option Text)) : Action Printed :=
  let argument := fun (i : Nat) (fallback : Text) => ((bound[i]?.getD none).getD fallback)
  match String.ofList name with
  | "list" => runList (a.has "json") (argument 0 []) (argument 1 [])
  | "read" => runRead (argument 0 []) (argument 1 [])
  | "scan" =>
    runScan (a.has "json") (argument 0 ['.'])
      { excludeTransitive := a.has "exclude-transitive"
        configurations := (a.values "configuration").map some
        includeLogTail := a.has "log-tail"
        query := (a.values "query").getLast? }
  | _ => pure {}

/-- The style of log lines, as the environment sets it. -/
def logStyle (e : Environment) (verbose : Bool) : Except Escape LogStyle :=
  let name := if verbose then "DEBUG".toList else e.logLevel
  match thresholdRank? name with
  | some threshold => .ok { threshold, asJson := e.logFormat = "json".toList }
  | none => .error (.unknownLevel name)

/-- The ending of a command line with a usage fault. -/
def faultEnding (usage path : Text) (fault : UsageFault) : Ending :=
  { exitCode := 2, stdout := [], stderr := Text.withoutCodes (faultPage usage path fault)
    escape := none }

/-- The ending of a command line that asks for help. -/
def helpEnding (page : Text) : Ending :=
  { exitCode := 0, stdout := page, stderr := [], escape := none }

/-- The ending of the program for a cause that it does not report. -/
def escapeEnding (printed : Text) (cause : Escape) : Ending :=
  { exitCode := 1, stdout := [], stderr := printed, escape := some cause }

/-- The ending of a command that was performed. -/
def endingOf (style : LogStyle) (time : Text) (result : Except Failure Printed) (s : State) :
    Ending :=
  let logged := style.write time s.log
  match result with
  | .ok printed =>
    { exitCode := 0, stdout := Text.withoutCodes printed.stdout
      stderr := logged ++ Text.withoutCodes printed.stderr, escape := none }
  | .error failure =>
    if failure.isReported then
      { exitCode := 1, stdout := []
        stderr := logged ++ Text.withoutCodes ("Error: ".toList ++ failure.message ++ ['\n'])
        escape := none }
    else if failure.isEarlyEnd then
      { exitCode := 1, stdout := [], stderr := logged ++ "\nAborted!\n".toList, escape := none }
    else escapeEnding logged (.failure failure)

/-- Whether what lies at a path can be read. None if nothing lies there. -/
def readable? (m : Machine) (path : Text) : Option Bool :=
  (m.find path).toOption.map Node.isReadable

/-- Whether one of the paths among the arguments of a command holds a NUL character. -/
def hasNulPath (c : CommandSpec) (positional : List Text) : Bool :=
  (c.arguments.zip positional).any fun (a, t) => a.isPath && t.contains '\x00'

/-- Runs a command with its part of the command line. -/
def runCommand (launcher : Launcher) (time : Text) (style : LogStyle) (c : CommandSpec)
    (line : List Text) (m : Machine) : Ending × Machine :=
  match sortArguments c.allOptions true line with
  | .error fault => (faultEnding c.usage c.path fault, m)
  | .ok a =>
    if a.has "help" then (helpEnding c.page, m)
    else if hasNulPath c a.positional then (escapeEnding [] (.failure (.badPath .nul)), m)
    else match bindArguments (readable? m) c.arguments a.positional with
      | .error fault => (faultEnding c.usage c.path fault, m)
      | .ok bound =>
        let (result, s) := perform c.name a bound launcher { machine := m }
        (endingOf style time result s, s.machine)

/-- The ending of a command line whose command there is not. If it looks like an option, it is taken
for one first. -/
def unknownEnding (name : Text) (rest : List Text) : Ending :=
  match sortArguments programOptions false (name :: rest) with
  | .error fault => faultEnding programUsage programName fault
  | .ok a =>
    if a.has "help" then helpEnding programPage
    else
      faultEnding programUsage programName
        (.unknownCommand name (similarNames name (commandSpecs.map (·.name))))

/-- The ending of a request by a shell that was served. -/
def servedEnding (stdout stderr : Text) : Ending :=
  { exitCode := 0, stdout, stderr, escape := none }

/-- Prints the script for a shell. For `bash` its version is asked for first. -/
def printScript (launcher : Launcher) (shell : CompletionShell) (m : Machine) : Ending × Machine :=
  let served := fun (complaint : Option Text) =>
    servedEnding (completionScript shell) (complaint.getD [])
  let (command, arguments) := versionCommand
  match shell, m.findProgram? command with
  | .bash, some path =>
    match launcher.start m ⟨path, arguments, none⟩ with
    | .error fault => (escapeEnding [] (.launch fault), m)
    | .ok (number, site) =>
      let (_, finished, site) := launcher.await (m.withSite site) number []
      let m := m.withSite site
      match Text.decodeUtf8? finished.stdout with
      | .ok told => (served (versionComplaint? told), m)
      | .error fault => (escapeEnding [] (.undecodable fault), m)
  | .bash, none => (served (versionComplaint? []), m)
  | _, _ => (served none, m)

/-- Serves a shell: what it asks for is its name and, after a low line, whether it is the script or
the candidates. -/
def serveShell (launcher : Launcher) (request : Text) (m : Machine) : Ending × Machine :=
  let refused : Ending := { exitCode := 1, stdout := [], stderr := [], escape := none }
  let (name, action) := (Text.cut? ['_'] request).getD (request, [])
  match CompletionShell.ofName? name, String.ofList action with
  | some shell, "source" => printScript launcher shell m
  | some shell, "complete" =>
    match completionText shell m.environment with
    | .ok t => (servedEnding t [], m)
    | .error cause => (escapeEnding [] (.completion cause), m)
  | _, _ => (refused, m)

/-- Runs a command line with what it asks for. Log lines bear the given time. -/
def runLine (launcher : Launcher) (time : Text) (line : List Text) (m : Machine) :
    Ending × Machine :=
  if line = [] then
    ({ exitCode := 2, stdout := [], stderr := programPage, escape := none }, m)
  else match sortArguments programOptions false line with
    | .error fault => (faultEnding programUsage programName fault, m)
    | .ok a =>
      if a.has "help" then (helpEnding programPage, m)
      else match a.positional with
        | [] => (faultEnding programUsage programName .commandMissing, m)
        | name :: rest =>
          match commandSpecs.find? (·.name == name) with
          | none => (unknownEnding name rest, m)
          | some c =>
            match logStyle m.environment (a.has "verbose") with
            | .error cause => (escapeEnding [] cause, m)
            | .ok style => runCommand launcher time style c rest m

/-- Runs a command line, unless a shell asks for something by a variable. Log lines bear the given
time. -/
def run (launcher : Launcher) (time : Text) (line : List Text) (m : Machine) : Ending × Machine :=
  match (m.environment.get? requestVariable).filter (· != []) with
  | some request => serveShell launcher request m
  | none => runLine launcher time line m

end JarLens.CommandLine
