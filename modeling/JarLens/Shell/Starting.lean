import JarLens.Shell.Redirecting

/-!
# Starting programs

How a program takes the place of what a process does: a utility, a program in a changed environment,
or the shell with a script. The script has nothing of what was there before but the exported
variables, the descriptors, the folder and the signals that are ignored. A script that starts a
program and waits for it has a process made for the program first.
-/

namespace JarLens.Shell

/-! ## Scripts -/

/-- The path that a variable tells for the folder of a process, if it leads there. -/
def toldPath? (p : Process) : Option Text :=
  let told := ((p.bindings.lookup "PWD".toList).bind (·.value)).getD []
  match Run.walk p true told, Run.walk p true ['.'] with
  | .ok ⟨place, some (.folder _)⟩, .ok ⟨folder, _⟩ =>
    if told.head? == some '/' && place == folder then some told else none
  | _, _ => none

/-- The variables that a script starts with whatever it was started with. -/
def ownVariables (parent : Nat) : List (Text × Text) :=
  [("IFS".toList, defaultSeparators), ("OPTIND".toList, ['1']), ("PPID".toList, Text.ofNat parent)]

/-- The variables that a script starts with unless it was started with others. -/
def presetVariables : List (Text × Text) :=
  [("PATH".toList, systemSearch), ("PS1".toList, ['#', ' ']), ("PS2".toList, ['>', ' ']),
    ("PS4".toList, ['+', ' '])]

/-- The variables that a script starts with, given those it was started with. -/
def startVariables (parent : Nat) (given : List (Text × Text)) : List (Text × Variable) :=
  let exported := (given.filter fun (name, _) => isName name).map fun (name, value) =>
    (name, ({ value := some value, isExported := true } : Variable))
  let preset := presetVariables.filter fun (name, _) => !exported.any (·.1 == name)
  (preset ++ ownVariables parent).foldl (fun bindings (name, value) =>
    let old := (bindings.lookup name).getD {}
    Run.withVariable bindings name { old with value := some value }) exported

/-- Sets the path of the folder at the start of a script, and complains if there is none. -/
def findFolder : Run Unit := do
  let p ← get
  let path ← match toldPath? p with
    | some path => pure path
    | none => Builtin.findTruePath
  modify fun p => { p with folderPath := path }
  let old := (p.bindings.lookup "PWD".toList).getD {}
  Run.putVariable "PWD".toList (some { old with value := some path, isExported := true })

/-- What the arguments of the shell say. -/
structure Invocation where
  options : List Char := []
  /-- Whether the script is an argument itself. -/
  isText : Bool := false
  operands : List Text := []

/-- Where the shell takes its script from. -/
inductive ScriptSource where
  | text (t : Text)
  | file (path : Text)
  | input

/-- Whether the script is a text that was given itself. -/
def ScriptSource.isText : ScriptSource → Bool
  | .text _ => true
  | _ => false

namespace Invocation

/-- An option by its letter. -/
def withLetter (isOn : Bool) (c : Char) (i : Invocation) : Except Text Invocation :=
  if c == 'c' then .ok { i with isText := true }
  else if ' ' < c && Builtin.optionNames.any (·.1 == c) then
    .ok { i with options := (if isOn then [c] else []) ++ i.options.filter (· != c) }
  else .error ("Illegal option -".toList ++ [c])

/-- An option by its name. -/
def withNamed (isOn : Bool) (name : Text) (i : Invocation) : Except Text Invocation :=
  match Builtin.optionNames.find? fun (_, known) => known.toList == name with
  | some (c, _) =>
    .ok { i with options := (if isOn then [c] else []) ++ i.options.filter (· != c) }
  | none => .error ("Illegal option -o ".toList ++ name)

/-- The options of one argument, and the arguments after it. -/
def takeCluster (isOn : Bool) : Text → List Text → Invocation →
    Except Text (Invocation × List Text)
  | [], rest, i => .ok (i, rest)
  | 'o' :: cluster, name :: rest, i => do takeCluster isOn cluster rest (← i.withNamed isOn name)
  | c :: cluster, rest, i => do takeCluster isOn cluster rest (← i.withLetter isOn c)

/-- What arguments say after those read before. -/
def ofArguments (i : Invocation) : (steps : Nat) → List Text → Except Text Invocation
  | 0, operands => .ok { i with operands }
  | steps + 1, arguments =>
    match arguments with
    | ['-'] :: rest => .ok { i with operands := rest }
    | ['-', '-'] :: rest => .ok { i with operands := rest }
    | ('-' :: cluster) :: rest => do
      let (i, rest) ← takeCluster true cluster rest i
      ofArguments i steps rest
    | ('+' :: cluster) :: rest => do
      let (i, rest) ← takeCluster false cluster rest i
      ofArguments i steps rest
    | operands => .ok { i with operands }

/-- Where the script comes from, what it is called, and its parameters. -/
def source (name : Text) (i : Invocation) : Except Text (ScriptSource × Text × List Text) :=
  match i.operands with
  | [] => if i.isText then .error "-c requires an argument".toList else .ok (.input, name, [])
  | first :: rest =>
    if i.isText then .ok (.text first, rest.head?.getD name, rest.drop 1)
    else if i.options.any (· == 's') then .ok (.input, name, i.operands)
    else .ok (.file first, first, rest)

end Invocation

/-- The text of the script, or what is wrong with its path. -/
def scriptText : ScriptSource → Run (Except Text Text)
  | .text t => pure (.ok t)
  | .input => do pure (.ok (ofBytes ((← Run.readAll? 0).getD .empty)))
  | .file path => do
    match Run.findReadable (← get) path with
    | .ok (.file content _) => pure (.ok (ofBytes content))
    | .ok _ => pure (.ok [])
    | .error fault => pure (.error (openFaultText false path fault))

/-- The options that are set in a script: one that is taken from the input has that option, whether
it was asked for or not. -/
def optionsFrom (i : Invocation) : ScriptSource → List Char
  | .input => if i.options.any (· == 's') then i.options else 's' :: i.options
  | _ => i.options

/-- Runs the shell as the process that is there. -/
def runShell (runner : Runner) (name : Text) (arguments : List Text) : Run Nat := do
  modify fun p => { p with zero := name }
  findFolder
  conclude runner do
    match Invocation.ofArguments {} (arguments.length + 1) arguments with
    | .error fault => Run.fail fault
    | .ok invocation =>
      match invocation.source name with
      | .error fault => Run.fail fault
      | .ok (source, zero, parameters) =>
        modify fun p => { p with options := optionsFrom invocation source, parameters }
        match ← scriptText source with
        | .error fault => Run.fail fault
        | .ok t =>
          modify fun p => { p with zero }
          Run.giveUpJobs
          let _ ← runWhole runner { isLast := source.isText } (!source.isText) t

/-! ## Programs -/

/-- A process as a program takes it over: signals are dealt with as the system does, but those that
are ignored still are. -/
def Process.bare (p : Process) : Process :=
  { p with
    ignored := (p.traps.filter (·.2.isEmpty)).map (·.1) ++ p.ignored
    traps := [], spare := [], jobs := [] }

/-- A process as the shell takes it over to run a script. -/
def Process.fresh (p : Process) (name : Text) : Process where
  toWorld := p.toWorld
  number := p.number
  parent := p.parent
  scriptNumber := p.number
  folder := p.folder
  folderNumber := p.folderNumber
  folderPath := []
  descriptors := p.descriptors
  bindings := startVariables p.parent (Run.exportedOf p)
  zero := name
  parameters := []
  ignored := p.ignored
  arrived := p.arrived
  mask := p.mask
  homes := p.homes

/-- How long it takes until a program that was started does something. -/
def startTime : Nat := 550

/-- How long it takes more until the shell reads a script. -/
def shellTime : Nat := 150

/-- The variable that tells a script the version of the shell. -/
def versionVariable : Text :=
  "BASH_VERSION".toList

/-- The option of a shell with a version that keeps it from reading its settings first. -/
def plainOption : Text :=
  "--norc".toList

/-- Runs a script in place of what the process did before, and gives its status. -/
def runNested (runner : Runner) (version : Option Text) (name : Text) (arguments : List Text) :
    Run Nat := do
  modify fun p => p.fresh name
  Run.spend shellTime
  if version.isSome then
    Run.putVariable versionVariable (some { value := version })
    runShell runner name (arguments.dropWhile (· == plainOption))
  else runShell runner name arguments

/-- What the program that changes the environment is asked for. -/
structure ChangedStart where
  isEmpty : Bool := false
  changes : List (Text × Option Text) := []
  command : List Text := []

/-- Adds the variables among operands, and the command after them. -/
def ChangedStart.withOperands (c : ChangedStart) : List Text → ChangedStart
  | [] => c
  | t :: rest =>
    if t.any (· == '=') then
      let (name, value) := Builtin.cutOperand t
      { c with changes := c.changes ++ [(name, value)] }.withOperands rest
    else { c with command := t :: rest }

/-- Reads the arguments of the program that changes the environment. -/
def ChangedStart.ofArguments (c : ChangedStart) : List Text → Except Text ChangedStart
  | [] => .ok c
  | ['-'] :: rest => { c with isEmpty := true }.ofArguments rest
  | ['-', 'i'] :: rest => { c with isEmpty := true }.ofArguments rest
  | ['-', 'u'] :: name :: rest => { c with changes := c.changes ++ [(name, none)] }.ofArguments rest
  | ['-', '-'] :: rest => .ok (c.withOperands rest)
  | t :: rest =>
    if t.head? == some '-' then
      .error ("invalid option -- ".toList ++ betweenPlainQuotes ((t.drop 1).take 1))
    else .ok (c.withOperands (t :: rest))

/-- Changes the variables that programs are started with. -/
def ChangedStart.apply (c : ChangedStart) (p : Process) : Process :=
  let kept := if c.isEmpty then p.bindings.filter (!·.2.isExported) else p.bindings
  { p with
    bindings := c.changes.foldl (fun bindings (name, value) =>
      match value with
      | some value => Run.withVariable bindings name { value := some value, isExported := true }
      | none => bindings.filter (·.1 != name)) kept }

/-- Runs a program in place of what the process did before, and gives its status. -/
def startProgram (runner : Runner) : (depth : Nat) → Start → Run Nat
  | 0, _ => throw .outOfSteps
  | depth + 1, ⟨program, name, arguments⟩ => do
    match program with
    | .utility run => run name arguments
    | .shell version => runNested runner version name arguments
    | .file _ => pure 126
    | .environment =>
      match ChangedStart.ofArguments {} arguments with
      | .error complaint => do
        let _ ← Utility.refuseUse name complaint
        pure 125
      | .ok changed => do
        modify changed.apply
        match changed.command with
        | [] => do
          let exported ← Run.exported
          let lines := exported.flatMap fun (name, value) => name ++ '=' :: value ++ ['\n']
          pure (if (← Utility.printBytes name (toBytes lines)) == 0 then 0 else 125)
        | command :: rest => do
          let p ← get
          let isTold := (p.bindings.lookup "PATH".toList).any fun v => v.isExported
          let found : Except PathFault Start := do
            let path ← if command.any (· == '/') then pure command
              else search p (if isTold then none else some systemSearch) command
            startAt p interpreterDepth path command rest
          match found with
          | .ok start => startProgram runner depth start
          | .error fault => do
            let _ ← Utility.refuse name
              (inMarks (decoded command) ++ ": ".toList ++ Utility.faultText fault)
            pure (if fault == .missing then 127 else 126)

/-- How many programs can start one another in a changed environment. -/
def startDepth : Nat := 1000

/-- Lets a program take the place of what the process does. The process ends with it. -/
def become {α : Type} (runner : Runner) (start : Start) : Run α := do
  modify Process.bare
  Run.spend startTime
  throw (.finished (← startProgram runner startDepth start))

/-- Runs a program in a process of its own, and gives its status. -/
def runStart (runner : Runner) (start : Start) : Run Nat := do
  let _ ← Run.claimSlot
  let child ← Run.fork id (become runner start)
  Run.awaitAll [child]

end JarLens.Shell
