import JarLens.CommandLine.Parameters

/-!
# Help

The usage line of a command, its help page, and what is told of a usage fault.
-/

namespace JarLens.CommandLine

/-- The name that the program goes by. -/
def programName : Text :=
  "jar-viewer".toList

/-- What the program is for. -/
def programHelp : Text :=
  "Inspect JAR files and resolve Maven/Gradle dependency paths.".toList

/-- The options that stand before a command. -/
def programOptions : List OptionSpec :=
  [{ short := some 'v', long := "verbose".toList, help := "Verbose logging".toList }, helpOption]

/-- The option for output in JSON. -/
def jsonOption : OptionSpec :=
  { long := "json".toList, help := "Output as JSON".toList }

/-- The command that lists a folder of an archive. -/
def listCommand : CommandSpec where
  name := "list".toList
  help := "List one directory level of JAR_PATH.".toList
  options := [jsonOption]
  arguments := [{ name := "JAR_PATH".toList, isRequired := true, isPath := true },
    { name := "INNER_PATH".toList, isRequired := false }]

/-- The command that shows an entry. -/
def readCommand : CommandSpec where
  name := "read".toList
  help := "Print the best available text for ENTRY_PATH.".toList
  options := []
  arguments := [{ name := "JAR_PATH".toList, isRequired := true, isPath := true },
    { name := "ENTRY_PATH".toList, isRequired := true }]

/-- The command that resolves dependencies. -/
def scanCommand : CommandSpec where
  name := "scan".toList
  help := "Resolve dependency artifact paths of the project at PROJECT_PATH.".toList
  options :=
    [{ long := "exclude-transitive".toList, help := "First-level dependencies only".toList },
      { short := some 'c', long := "configuration".toList, takesValue := true,
        isRepeatable := true, help := "Gradle configuration to include (repeatable)".toList },
      { long := "log-tail".toList, help := "Include the last build log lines".toList },
      { short := some 'q', long := "query".toList, takesValue := true,
        help := "Filter by group:artifact or path".toList },
      jsonOption]
  arguments :=
    [{ name := "PROJECT_PATH".toList, isRequired := false, isPath := true, mustExist := true }]

/-- The command that serves the tools to a client. -/
def serveCommand : CommandSpec where
  name := "serve".toList
  help := "Run the MCP server on stdio.".toList
  options := []
  arguments := []

/-- The commands by name. -/
def commandSpecs : List CommandSpec :=
  [listCommand, readCommand, scanCommand, serveCommand]

/-- How an option stands in a table. -/
def OptionSpec.label (o : OptionSpec) : Text :=
  (match o.short with
    | some c => ['-', c, ',', ' ']
    | none => []) ++ '-' :: '-' :: o.long ++ if o.takesValue then " TEXT".toList else []

/-- The rows of a table with two columns. -/
def twoColumns (rows : List (Text × Text)) : Text :=
  let width := (rows.map (·.1.length)).foldl max 0
  rows.flatMap fun (left, right) =>
    ' ' :: ' ' :: Text.padEnd (width + 2) left ++ right ++ ['\n']

/-- The table of options. -/
def optionTable (options : List OptionSpec) : Text :=
  "\nOptions:\n".toList ++ twoColumns (options.map fun o => (o.label, o.help))

/-- A usage line. -/
def usageLine (path : Text) (parts : List Text) : Text :=
  "Usage: ".toList ++ Text.join [' '] (path :: parts) ++ ['\n']

/-- The usage line of the program. -/
def programUsage : Text :=
  usageLine programName ["[OPTIONS]".toList, "COMMAND".toList, "[ARGS]...".toList]

/-- The full name of a command. -/
def CommandSpec.path (c : CommandSpec) : Text :=
  programName ++ ' ' :: c.name

/-- The usage line of a command. -/
def CommandSpec.usage (c : CommandSpec) : Text :=
  usageLine c.path ("[OPTIONS]".toList :: c.arguments.map ArgumentSpec.usage)

/-- The help page of the program. -/
def programPage : Text :=
  programUsage ++ "\n  ".toList ++ programHelp ++ ['\n'] ++ optionTable programOptions ++
    "\nCommands:\n".toList ++ twoColumns (commandSpecs.map fun c => (c.name, c.help))

/-- The help page of a command. -/
def CommandSpec.page (c : CommandSpec) : Text :=
  c.usage ++ "\n  ".toList ++ c.help ++ ['\n'] ++ optionTable c.allOptions

/-- What is told of a usage fault in a command line for the command at `path`. -/
def faultPage (usage path : Text) (fault : UsageFault) : Text :=
  (if fault.showsUsage then
      usage ++ "Try \x27".toList ++ path ++ " --help\x27 for help.\n\n".toList
    else []) ++
    "Error: ".toList ++ fault.message ++ ['\n']

end JarLens.CommandLine
