import JarLens.Archive.Fault
import JarLens.Project.Kind
import JarLens.Text.Blank

/-!
# Failures

Everything that can go wrong, by cause. `message` words the failures that the program reports
itself; `isReported` tells them from those that end it.
-/

namespace JarLens

/-- Why an archive, or an entry in it, was not found. -/
inductive NotFound where
  /-- No readable file lies at the path. -/
  | archive (path : Text)
  /-- The file is no archive. -/
  | unreadable (path : Text) (fault : Archive.OpenFault)
  /-- The entry path is empty. -/
  | entryRequired
  | entry (entry archive : Text)
  deriving DecidableEq

/-- Why a path, or a command given by one, is refused by the system. -/
inductive PathTrouble where
  /-- It holds a NUL character. -/
  | nul
  /-- The home folder that it starts with is not known. -/
  | unknownHome
  /-- The folder that relative paths start from was removed. -/
  | folderGone
  /-- A path leads back to itself. -/
  | linkLoop (path : Text)
  /-- More links lead to one another than the program follows. -/
  | deepLinks
  /-- There are more links on a path than the system follows. -/
  | manyLinks (path : Text)
  | tooLong (path : Text)
  | notFolder (path : Text)
  | isFolder (path : Text)
  /-- The file cannot be read or written by the user. -/
  | denied (path : Text)
  /-- The file cannot be run as a program. -/
  | notProgram (command : Text)
  /-- What the program would be started with takes too much room. -/
  | tooBig (command : Text)
  deriving DecidableEq

/-- A cause for which an operation gives no result. -/
inductive Failure where
  | notFound (cause : NotFound)
  /-- A build command would run in a project of another kind. -/
  | kindMismatch (command : Text) (required detected : ProjectKind) (root : Option Text)
  /-- A tool is missing; the hint says what to do about it, if anything. -/
  | toolMissing (tool hint : Text)
  | toolNotExecutable (tool : Text)
  | noProject (path : Text)
  /-- No source text could be produced for a class. -/
  | noSource (entry : Text) (exitCode : Option Int) (stderr : Text)
  /-- The build tool ended with an exit code other than zero. -/
  | buildFailed (command : Text) (exitCode : Option Int) (outputTail : Text)
  /-- An archive is not malformed but cannot be read. -/
  | badArchive (fault : Archive.OpenFault)
  | badMember (fault : Archive.MemberFault)
  | badPath (trouble : PathTrouble)
  deriving DecidableEq

namespace Failure

/-- What the system says of a path, with its number for the cause. -/
def systemMessage (number : Nat) (cause : String) (path : Text) : Text :=
  "[Errno ".toList ++ Text.ofNat number ++ "] ".toList ++ cause.toList ++ ": ".toList ++
    Text.quoted path

/-- What is told of a path that is refused. -/
def troubleMessage : PathTrouble → Text
  | .nul => "embedded null byte".toList
  | .unknownHome => "Could not determine home directory.".toList
  | .folderGone => "[Errno 2] No such file or directory".toList
  | .linkLoop path => "Symlink loop from ".toList ++ Text.quoted path
  | .deepLinks => "maximum recursion depth exceeded".toList
  | .manyLinks path => systemMessage 40 "Too many levels of symbolic links" path
  | .tooLong path => systemMessage 36 "File name too long" path
  | .notFolder path => systemMessage 20 "Not a directory" path
  | .isFolder path => systemMessage 21 "Is a directory" path
  | .denied path => systemMessage 13 "Permission denied" path
  | .notProgram command => systemMessage 8 "Exec format error" command
  | .tooBig command => systemMessage 7 "Argument list too long" command

/-- What is told of an entry or archive that was not found. -/
def notFoundMessage : NotFound → Text
  | .archive path => "Jar file not found at ".toList ++ path
  | .unreadable path fault =>
    "Cannot read ".toList ++ path ++ " as a zip archive: ".toList ++ fault.message
  | .entryRequired => "entryPath is required".toList
  | .entry entry archive =>
    "Entry ".toList ++ entry ++ " not found in ".toList ++ archive

/-- What is told of a command that was kept from running. -/
def mismatchMessage (command required detected : Text) (root : Option Text) : Text :=
  let rootLabel := match root with
    | none | some [] => []
    | some root => " (root: ".toList ++ root ++ [')']
  "Command \"".toList ++ command ++ "\" requires a ".toList ++ required ++
    " project, but detected ".toList ++ detected ++ rootLabel ++ ['.']

/-- What is told of a missing tool. -/
def toolMissingMessage (tool hint : Text) : Text :=
  "Executable \x27".toList ++ tool ++ "\x27 was not found".toList ++
    if hint = [] then " on PATH.".toList else ". ".toList ++ hint

/-- What is told of a file that may not be run. -/
def toolNotExecutableMessage (tool : Text) : Text :=
  "Executable \x27".toList ++ tool ++ "\x27 exists but is not executable.".toList

/-- What is told of a path without a project. -/
def noProjectMessage (path : Text) : Text :=
  "No Maven or Gradle project detected at or above ".toList ++ path ++ ['.']

/-- An exit code in messages. -/
def exitCodeText : Option Int → Text
  | some code => Text.ofInt code
  | none => "None".toList

/-- The text, or what stands for an empty one. -/
def outputOr (t : Text) : Text :=
  if t = [] then "no output".toList else t

/-- What is told of a class without source text. -/
def noSourceMessage (entry exitCode stderr : Text) : Text :=
  "Could not produce source for ".toList ++ entry ++ " (decompiler exit code ".toList ++
    exitCode ++ "): ".toList ++ outputOr (Text.strip stderr)

/-- What is told of a build that failed. -/
def buildFailedMessage (command exitCode outputTail : Text) : Text :=
  command ++ " failed with code ".toList ++ exitCode ++ ". output: ".toList ++ outputOr outputTail

/-- Whether the program reports the failure itself. The others end it. -/
def isReported : Failure → Bool
  | badArchive _ | badMember _ | badPath _ => false
  | _ => true

/-- Whether the failure is that data ends too early, which the program takes for a wish to end
it. -/
def isEarlyEnd : Failure → Bool
  | badMember .dataCutShort => true
  | _ => false

/-- What is told of a failure. -/
def message : Failure → Text
  | notFound cause => notFoundMessage cause
  | kindMismatch command required detected root =>
    mismatchMessage command required.label detected.label root
  | toolMissing tool hint => toolMissingMessage tool hint
  | toolNotExecutable tool => toolNotExecutableMessage tool
  | noProject path => noProjectMessage path
  | noSource entry exitCode stderr => noSourceMessage entry (exitCodeText exitCode) stderr
  | buildFailed command exitCode outputTail =>
    buildFailedMessage command (exitCodeText exitCode) outputTail
  | badArchive fault => fault.message
  | badMember fault => fault.message
  | badPath trouble => troubleMessage trouble

end Failure

end JarLens
