import JarLens.Files.PathName
import JarLens.Text.LowerCase

/-!
# Kinds of projects

A project is built by Maven or by Gradle, told by marker files in its root folder. A command that
belongs to one of the two may only run in a project of its kind.
-/

namespace JarLens

/-- The build system that owns a folder, native when none does. -/
inductive ProjectKind where
  | maven
  | gradle
  | native
  deriving DecidableEq, Repr

namespace ProjectKind

/-- The kind in messages and reports. -/
def label : ProjectKind → Text
  | maven => "maven".toList
  | gradle => "gradle".toList
  | native => "native".toList

/-- The file names that mark the root of a project, the kinds in order of priority. -/
def markers : List (ProjectKind × List Text) :=
  [(maven, ["pom.xml".toList]),
    (gradle, ["build.gradle".toList, "build.gradle.kts".toList, "settings.gradle".toList,
      "settings.gradle.kts".toList])]

/-- The commands that belong to one kind of project. -/
def commands : List (Text × ProjectKind) :=
  [("mvn".toList, maven), ("mvn.cmd".toList, maven), ("mvnw".toList, maven),
    ("mvnw.cmd".toList, maven), ("gradle".toList, gradle), ("gradle.bat".toList, gradle),
    ("gradlew".toList, gradle), ("gradlew.bat".toList, gradle)]

/-- The kind of project that a command may only run in, none when it may run anywhere. The command
is known by the last part of its path, in any letter case. -/
def required? (command : Text) : Option ProjectKind :=
  commands.lookup (Text.lower ((PathName.ofText command).name?.getD []))

end ProjectKind

/-- The project that owns a place: its kind, its root and the marker files found there. A native one
has neither root nor markers. -/
structure Detection where
  kind : ProjectKind
  root : Option Text
  markers : List Text
  deriving DecidableEq

end JarLens
