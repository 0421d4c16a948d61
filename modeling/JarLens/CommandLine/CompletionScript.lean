import JarLens.CommandLine.Completion

/-!
# Completion scripts

The scripts by which shells learn to complete the command lines of the program.
-/

namespace JarLens.CommandLine

/-- The script for the shell `bash`. -/
def bashCompletion : List String :=
  [ "_jar_viewer_completion() \x7b",
    "    local IFS=$\x27\\n\x27",
    "    local response",
    "",
    "    response=$(env COMP_WORDS=\"$\x7bCOMP_WORDS[*]\x7d\" COMP_CWORD=$COMP_CWORD" ++
      " _JAR_VIEWER_COMPLETE=bash_complete $1)",
    "",
    "    for completion in $response; do",
    "        IFS=\x27,\x27 read type value <<< \"$completion\"",
    "",
    "        if [[ $type == \x27dir\x27 ]]; then",
    "            COMPREPLY=()",
    "            compopt -o dirnames",
    "        elif [[ $type == \x27file\x27 ]]; then",
    "            COMPREPLY=()",
    "            compopt -o default",
    "        elif [[ $type == \x27plain\x27 ]]; then",
    "            COMPREPLY+=($value)",
    "        fi",
    "    done",
    "",
    "    return 0",
    "\x7d",
    "",
    "_jar_viewer_completion_setup() \x7b",
    "    complete -o nosort -F _jar_viewer_completion jar-viewer",
    "\x7d",
    "",
    "_jar_viewer_completion_setup;" ]

/-- The script for the shell `zsh`. -/
def zshCompletion : List String :=
  [ "#compdef jar-viewer",
    "",
    "_jar_viewer_completion() \x7b",
    "    local -a completions",
    "    local -a completions_with_descriptions",
    "    local -a response",
    "    (( ! $+commands[jar-viewer] )) && return 1",
    "",
    "    response=(\"$\x7b(@f)$(env COMP_WORDS=\"$\x7bwords[*]\x7d\"" ++
      " COMP_CWORD=$((CURRENT-1)) _JAR_VIEWER_COMPLETE=zsh_complete jar-viewer)\x7d\")",
    "",
    "    for type key descr in $\x7bresponse\x7d; do",
    "        if [[ \"$type\" == \"plain\" ]]; then",
    "            if [[ \"$descr\" == \"_\" ]]; then",
    "                completions+=(\"$key\")",
    "            else",
    "                completions_with_descriptions+=(\"$key\":\"$descr\")",
    "            fi",
    "        elif [[ \"$type\" == \"dir\" ]]; then",
    "            _path_files -/",
    "        elif [[ \"$type\" == \"file\" ]]; then",
    "            _path_files -f",
    "        fi",
    "    done",
    "",
    "    if [ -n \"$completions_with_descriptions\" ]; then",
    "        _describe -V unsorted completions_with_descriptions -U",
    "    fi",
    "",
    "    if [ -n \"$completions\" ]; then",
    "        compadd -U -V unsorted -a completions",
    "    fi",
    "\x7d",
    "",
    "if [[ $zsh_eval_context[-1] == loadautofunc ]]; then",
    "    # autoload from fpath, call function directly",
    "    _jar_viewer_completion \"$@\"",
    "else",
    "    # eval/source/. command, register function for later",
    "    compdef _jar_viewer_completion jar-viewer",
    "fi" ]

/-- The script for the shell `fish`. -/
def fishCompletion : List String :=
  [ "function _jar_viewer_completion;",
    "    set -l response (env _JAR_VIEWER_COMPLETE=fish_complete" ++
      " COMP_WORDS=(commandline -cp) COMP_CWORD=(commandline -t) jar-viewer);",
    "",
    "    for completion in $response;",
    "        set -l metadata (string split \",\" $completion);",
    "",
    "        if test $metadata[1] = \"dir\";",
    "            __fish_complete_directories $metadata[2];",
    "        else if test $metadata[1] = \"file\";",
    "            __fish_complete_path $metadata[2];",
    "        else if test $metadata[1] = \"plain\";",
    "            echo $metadata[2];",
    "        end;",
    "    end;",
    "end;",
    "",
    "complete --no-files --command jar-viewer --arguments \"(_jar_viewer_completion)\";" ]

/-- The script for PowerShell. -/
def powershellCompletion : List String :=
  [ "Register-ArgumentCompleter -Native -CommandName jar-viewer -ScriptBlock \x7b",
    "    param($wordToComplete, $commandAst, $cursorPosition)",
    "",
    "    $prev_complete = $env:_JAR_VIEWER_COMPLETE",
    "    $prev_words = $env:COMP_WORDS",
    "    $prev_cword = $env:COMP_CWORD",
    "",
    "    $env:_JAR_VIEWER_COMPLETE = \x27powershell_complete\x27",
    "    $env:COMP_WORDS = $commandAst.ToString()",
    "    if ($wordToComplete) \x7b",
    "        $env:COMP_CWORD = $commandAst.CommandElements.Count - 1",
    "    \x7d else \x7b",
    "        $env:COMP_CWORD = $commandAst.CommandElements.Count",
    "    \x7d",
    "",
    "    try \x7b",
    "        $response = & jar-viewer 2>$null",
    "    \x7d finally \x7b",
    "        $env:_JAR_VIEWER_COMPLETE = $prev_complete",
    "        $env:COMP_WORDS = $prev_words",
    "        $env:COMP_CWORD = $prev_cword",
    "    \x7d",
    "",
    "    if (-not $response) \x7b return \x7d",
    "",
    "    $prefix = \"$wordToComplete*\"",
    "    $lines = $response -split \"`n\"",
    "    for ($i = 0; $i + 2 -lt $lines.Count; $i += 3) \x7b",
    "        $type = $lines[$i]",
    "        $value = $lines[$i + 1]",
    "        $descr = $lines[$i + 2]",
    "        if (-not $type) \x7b continue \x7d",
    "",
    "        if ($type -eq \x27plain\x27) \x7b",
    "            $tip = if ($descr -and $descr -ne \x27_\x27) \x7b $descr" ++
      " \x7d else \x7b $value \x7d",
    "            [System.Management.Automation.CompletionResult]::new(",
    "                $value, $value, \x27ParameterValue\x27, $tip)",
    "        \x7d elseif ($type -eq \x27dir\x27) \x7b",
    "            Get-ChildItem -Directory -Path $prefix -ErrorAction SilentlyContinue |",
    "                ForEach-Object \x7b",
    "                    [System.Management.Automation.CompletionResult]::new(",
    "                        $_.FullName, $_.Name, \x27ProviderContainer\x27, $_.FullName)",
    "                \x7d",
    "        \x7d elseif ($type -eq \x27file\x27) \x7b",
    "            Get-ChildItem -Path $prefix -ErrorAction SilentlyContinue |",
    "                ForEach-Object \x7b",
    "                    $kind = \x27ProviderItem\x27",
    "                    if ($_.PSIsContainer) \x7b $kind = \x27ProviderContainer\x27 \x7d",
    "                    [System.Management.Automation.CompletionResult]::new(",
    "                        $_.FullName, $_.Name, $kind, $_.FullName)",
    "                \x7d",
    "        \x7d",
    "    \x7d",
    "\x7d" ]

/-- The variable by which a shell asks for something. -/
def requestVariable : Text := "_JAR_VIEWER_COMPLETE".toList

/-- The lines of the script for a shell. -/
def CompletionShell.script : CompletionShell → List String
  | bash => bashCompletion
  | zsh => zshCompletion
  | fish => fishCompletion
  | powershell => powershellCompletion

/-- The text of the script for a shell. -/
def completionScript (shell : CompletionShell) : Text :=
  shell.script.flatMap fun s => s.toList ++ ['\n']

/-- The program whose version is asked before its script is printed, and how it tells it. -/
def versionCommand : Text × List Text :=
  ("bash".toList, ["--norc".toList, "-c".toList, "echo \"$\x7bBASH_VERSION\x7d\"".toList])

/-- The two first numbers of a version that consists of at least three. -/
def versionNumbers? (t : Text) : Option (Text × Text) :=
  let digits := fun (t : Text) => t.takeWhile Text.isDecimal
  let major := digits t
  match t.drop major.length with
  | '.' :: t =>
    let minor := digits t
    match t.drop minor.length with
    | '.' :: d :: _ =>
      if major.isEmpty || minor.isEmpty || !Text.isDecimal d then none else some (major, minor)
    | _ => none
  | _ => none

/-- The complaint about a version, compared by its digits as texts. -/
def versionComplaint? (t : Text) : Option Text :=
  let least : Text := ['4']
  let isBefore := fun (a b : Text) => !Text.le b a
  match versionNumbers? t with
  | none => some "Couldn\x27t detect Bash version, shell completion is not supported.\n".toList
  | some (major, minor) =>
    if isBefore major least || (major == least && isBefore minor least) then
      some "Shell completion is not supported for Bash versions older than 4.4.\n".toList
    else none

end JarLens.CommandLine
