import JarLens.Dependency.GradleListing
import JarLens.Dependency.GroovyLiteral

/-!
# The listing script

Gradle is given a script that adds a task to every project. The task prints the resolved files of
the allowed configurations, or of all when none is named. Only the list of names and one truth value
vary: they stand between three fixed parts.
-/

namespace JarLens.Dependency

/-- The task that prints the resolved files. -/
def listingTask : Text :=
  "jarViewerListDeps".toList

/-- The file name of the script. -/
def scriptName : Text :=
  "jar-viewer-init.gradle".toList

/-- The script before the list of names. -/
def scriptHead : Text :=
  "def jarViewerAllowedConfigs = ".toList

/-- The script between the list of names and the truth value. -/
def scriptMiddle : Text :=
  "\ndef jarViewerExcludeTransitive = ".toList

/-- The text of whole lines. -/
def ofLines (ls : List Text) : Text :=
  ls.flatMap (· ++ ['\n'])

/-- The script after the truth value. -/
def scriptTail : Text :=
  ofLines [
    [],
    "allprojects \x7b".toList,
    "  task ".toList ++ listingTask ++ " \x7b".toList,
    "    doLast \x7b".toList,
    "      configurations.each \x7b config ->".toList,
    "        if (config.canBeResolved) \x7b".toList,
    "          if (!jarViewerAllowedConfigs.isEmpty() && ".toList ++
      "!jarViewerAllowedConfigs.contains(config.name)) \x7b".toList,
    "            return".toList,
    "          \x7d".toList,
    "          def artifacts = []".toList,
    "          if (jarViewerExcludeTransitive) \x7b".toList,
    "            config.resolvedConfiguration.firstLevelModuleDependencies.each \x7b dep ->".toList,
    "              dep.moduleArtifacts.each \x7b art ->".toList,
    "                artifacts << art".toList,
    "              \x7d".toList,
    "            \x7d".toList,
    "          \x7d else \x7b".toList,
    "            artifacts = config.resolvedConfiguration.resolvedArtifacts".toList,
    "          \x7d".toList,
    "          artifacts.each \x7b art ->".toList,
    "            def file = art.file".toList,
    "            if (file != null) \x7b".toList,
    "              println \x27".toList ++ gradleMarker ++
      "\x27 + config.name + \x27|\x27 + file.name + \x27|\x27 + file.absolutePath".toList,
    "            \x7d".toList,
    "          \x7d".toList,
    "        \x7d".toList,
    "      \x7d".toList,
    "    \x7d".toList,
    "  \x7d".toList,
    "\x7d".toList]

/-- The script for a set of configuration names, with or without transitive dependencies. -/
def initScript (names : List (Option Text)) (excludeTransitive : Bool) : Text :=
  scriptHead ++ groovyList names ++ scriptMiddle ++
    (if excludeTransitive then "true" else "false").toList ++ scriptTail

end JarLens.Dependency
