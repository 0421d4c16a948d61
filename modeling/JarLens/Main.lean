import JarLens.CommandLine.Run
import JarLens.Report.Instant
import JarLens.Shell.Program
import Std.Time.DateTime.Timestamp

/-!
# The program

The outer layer: it gathers the part of the machine that a command line can look at into a
`Machine`, runs the command line on it, and prints the ending. Tools run on the gathered files, so
that nothing they write reaches the disk.
-/

namespace JarLens.Program

/-- The permission bits of gathered files, which the system does not tell. -/
def gatheredMode : Nat := 0o755

/-- The variables of the environment that matter. -/
def variableNames : List String :=
  ["PATH", "HOME", "JAR_VIEWER_LOG_LEVEL", "JAR_VIEWER_LOG_FORMAT", "JAR_VIEWER_CFR_JAR",
    "JAR_VIEWER_JAVA", "JAR_VIEWER_JAVAP"]

/-- The environment. -/
def gatherEnvironment : IO Environment := do
  let found ← variableNames.filterMapM fun name => do
    pure ((← IO.getEnv name).map fun value => (name.toList, value.toList))
  pure ⟨found⟩

/-- The place of a path without dots and links. -/
def placeOf (path : Text) : Place :=
  (PathName.ofText path).parts

/-- Adds what lies at a path. A path with links on it becomes a link to where it leads. -/
def gather (files : Files) (path : Text) : IO Files := do
  try
    let found ← IO.FS.realPath (String.ofList path)
    let real := found.toString.toList
    let files ← if ← found.isDir then pure (files.makeFolders (placeOf real))
      else do
        let content ← IO.FS.readBinFile found
        pure ((files.makeFolders (placeOf real).dropLast).put (placeOf real)
          (.file content gatheredMode))
    if placeOf path = placeOf real || (placeOf path).contains ['.', '.'] then pure files
    else pure ((files.makeFolders (placeOf path).dropLast).put (placeOf path) (.link real))
  catch _ => pure files

/-- The names of files that a command looks for in every folder above a path. -/
def namesAbove : List Text :=
  ProjectKind.markers.flatMap (·.2) ++ ["gradlew".toList]

/-- The paths that a command line can look at, from a folder. -/
def pathsLookedAt (m : Machine) (line : List Text) : List Text :=
  let tools := [m.environment.java, m.environment.javap, "mvn".toList, "gradle".toList]
  let mentioned := (['.'] :: line).filterMap fun t => (m.place t).toOption
  let above := mentioned.flatMap fun place => place.upward.flatMap fun folder =>
    namesAbove.map fun name => Place.toText (folder ++ [name])
  let siblings := mentioned.filterMap fun place =>
    ((PathName.ofText place.toText).sourceSibling?).map PathName.toText
  tools.flatMap m.environment.programPaths ++ mentioned.map Place.toText ++ above ++
    siblings ++ ((Source.decompilerCandidates Source.decompilerFile m).toOption).getD []

/-- The folder of the program's own files. -/
def programFolder : IO Text := do
  match (← IO.appPath).parent with
  | some folder => pure folder.toString.toList
  | none => pure ['/']

/-- The machine as far as a command line can look at it. -/
def gatherMachine (line : List Text) : IO Machine := do
  let environment ← gatherEnvironment
  let folder := placeOf (← IO.currentDir).toString.toList
  let own := placeOf (← programFolder)
  let scratch := placeOf "/tmp".toList
  let bare : Machine :=
    { files := (Files.makeFolders {} folder).makeFolders scratch
      environment, folder, scratch
      programFolders := [own, own.dropLast]
      homes := [("root".toList, "/root".toList)] }
  let files ← (pathsLookedAt bare line).foldlM gather bare.files
  pure { bare with files }

/-- The present moment. -/
def now : IO Instant := do
  let t ← Std.Time.Timestamp.now
  let nanoseconds := t.toNanosecondsSinceUnixEpoch.val.toNat
  pure { seconds := nanoseconds / 1000000000, microseconds := nanoseconds % 1000000000 / 1000 }

/-- What is told of an escape. -/
def escapeText : CommandLine.Escape → Text
  | .failure cause => cause.message
  | .unknownLevel name => "Unknown level: ".toList ++ Text.quoted name
  | .completion cause => cause.message
  | .launch fault => (fault.toFailure "bash".toList).message
  | .undecodable fault => fault.message

end JarLens.Program

/-- Runs the command line. -/
def main (arguments : List String) : IO UInt32 := do
  let line := arguments.map String.toList
  let machine ← JarLens.Program.gatherMachine line
  let time := (← JarLens.Program.now).toText
  let (ending, _) := JarLens.CommandLine.run JarLens.Shell.launcher time line machine
  IO.print (String.ofList ending.stdout)
  IO.eprint (String.ofList ending.stderr)
  match ending.escape with
  | some cause => IO.eprintln (String.ofList (JarLens.Program.escapeText cause))
  | none => pure ()
  pure ending.exitCode.toUInt32
