import JarLens.Text.Lines
import JarLens.Dependency.FileName
import JarLens.Dependency.Record

/-!
# Gradle listings

The listing task prints one line for each resolved file: a marker, the configuration, the file name
and the path, with bars between. The path may hold bars itself, so it is all that follows the third.
Coordinates come from the layout of Gradle's module cache,

    …/modules-2/files-2.1/group/artifact/version/hash/file
-/

namespace JarLens.Dependency

/-- What starts the lines that list a file. -/
def gradleMarker : Text :=
  "JAR_VIEWER_DEP|".toList

/-- The folders of the module cache above a group. -/
def moduleCache : Text :=
  "/modules-2/files-2.1/".toList

/-- What the place of a file in the module cache tells about it. -/
structure Coordinates where
  group : Text
  artifact : Text
  version : Text
  classifier : Option Text
  deriving DecidableEq

/-- What follows artifact and version in a file name, up to the extension. -/
def classifierOf? (artifact version fileName : Text) : Option Text :=
  match Text.dropPrefix? (artifact ++ '-' :: version ++ ['-']) (splitExtension fileName).1 with
  | some (c :: rest) => some (c :: rest)
  | _ => none

/-- The coordinates of a file in the module cache, none for a path that lies elsewhere. -/
def Coordinates.ofCachePath? (path fileName : Text) : Option Coordinates := do
  let (_, inCache) ← Text.cut? moduleCache (Text.replaceChar '\\' '/' path)
  match Text.splitOn '/' inCache with
  | group :: artifact :: version :: _ :: _ =>
    if group.isEmpty || artifact.isEmpty || version.isEmpty then none
    else some { group, artifact, version, classifier := classifierOf? artifact version fileName }
  | _ => none

/-- The text, or another one in place of an empty text. -/
def orElseText (t other : Text) : Text :=
  if t.isEmpty then other else t

/-- The record of a file that the listing task found. -/
def Record.ofResolvedFile (configuration fileName path : Text) : Record :=
  let (stem, extension) := splitExtension fileName
  let packaging := orElseText (Text.trimStart (· == '.') extension) "jar".toList
  match Coordinates.ofCachePath? path fileName with
  | some place =>
    { group := place.group, artifact := place.artifact, packaging, classifier := place.classifier,
      version := place.version, scope := configuration, path }
  | none =>
    { group := "unknown".toList, artifact := orElseText stem "unknown".toList, packaging,
      classifier := none, version := "unknown".toList, scope := configuration, path }

/-- The record of one line, none when the line lists no file. -/
def Record.ofGradleLine? (line : Text) : Option Record := do
  let fields ← Text.dropPrefix? gradleMarker (Text.strip line)
  match Text.splitOn '|' fields with
  | configuration :: fileName :: p :: path =>
    let configuration := Text.strip configuration
    let fileName := Text.strip fileName
    let path := Text.strip (Text.join ['|'] (p :: path))
    if configuration.isEmpty || fileName.isEmpty || path.isEmpty then none
    else some (Record.ofResolvedFile configuration fileName path)
  | _ => none

/-- The records of what the listing task printed, one for each path. -/
def recordsOfGradle (printed : Text) : List Record :=
  firstByPath ((Text.lines printed).filterMap Record.ofGradleLine?)

end JarLens.Dependency
