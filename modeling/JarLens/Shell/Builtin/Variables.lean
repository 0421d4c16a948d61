import JarLens.Shell.Builtin.Basic
import JarLens.Shell.Fields

/-!
# Builtins for variables and parameters

Setting, showing and removing variables, reading them from the input, and going through the
parameters of a script.
-/

namespace JarLens.Shell.Builtin

/-- The name and, after an equals sign, the value of an operand. -/
def cutOperand (t : Text) : Text × Option Text :=
  let name := t.takeWhile (· != '=')
  (name, if name.length < t.length then some (t.drop (name.length + 1)) else none)

/-- The lines that show variables, in the order of their names. -/
def variableLines (start : Text) (isShown : Variable → Bool) (p : Process) : Text :=
  let shown := p.bindings.filter fun (_, v) => isShown v
  (shown.mergeSort fun a b => Text.le a.1 b.1).flatMap fun (name, v) =>
    start ++ name ++ (match v.value with
      | some value => '=' :: quotedValue value
      | none => []) ++ ['\n']

/-- Marks variables, with a new value where one is given, or shows those that are marked. -/
def markVariables (name : String) (mark : Variable → Variable) (isMarked : Variable → Bool) :
    Builtin := fun arguments => do
  let (given, operands) ← options "p" arguments
  if operands.isEmpty || isGiven 'p' given then
    print (variableLines (name ++ " ").toList isMarked (← get))
  else
    operands.forM fun operand => do
      let (name, value) := cutOperand operand
      match value with
      | some value => Run.assign name value
      | none => Run.checkName name
      let old := (← Run.lookup? name).getD {}
      Run.putVariable name (some (mark old))
    pure 0

/-- Marks variables for the programs that the script starts. -/
def exportVariables : Builtin :=
  markVariables "export" (fun v => { v with isExported := true }) (·.isExported)

/-- Marks variables that cannot be changed any more. -/
def protectVariables : Builtin :=
  markVariables "readonly" (fun v => { v with isReadOnly := true }) (·.isReadOnly)

/-- Makes variables local to the function that runs, and for a dash the options. A text that is no
name can be one of them for as long as the function runs. -/
def localVariables : Builtin := fun arguments => do
  if (← get).locals.isEmpty then Run.fail "not in a function".toList
  else
    arguments.forM fun operand => do
      let (name, value) := cutOperand operand
      if operand == ['-'] then Run.keep (.options (← get).options)
      else do
        let before ← Run.lookup? name
        if value.isNone && before.isNone then Run.checkName name
        Run.keep (.variable name before)
        match value with
        | some value =>
          if isName name then Run.assign name value
          else Run.putVariable name (some { before.getD {} with value := some value })
        | none => pure ()
    pure 0

/-- Removes variables, or functions with the option for it. -/
def unset : Builtin := fun arguments => do
  let (given, operands) ← options "vf" arguments
  let isFunction := (given.getLast?.map (·.1)) == some 'f'
  operands.forM fun name =>
    if isFunction then
      modify fun p => { p with functions := p.functions.filter (·.1 != name) }
    else Run.unsetVariable name
  pure 0

/-- The names of options by letter, in the order in which they are shown. -/
def optionNames : List (Char × String) :=
  [('e', "errexit"), ('f', "noglob"), ('I', "ignoreeof"), ('i', "interactive"), ('m', "monitor"),
    ('n', "noexec"), ('s', "stdin"), ('x', "xtrace"), ('v', "verbose"), ('V', "vi"),
    ('E', "emacs"), ('C', "noclobber"), ('a', "allexport"), ('b', "notify"), ('u', "nounset"),
    ('p', "privileged"), ('\x01', "nolog"), ('\x02', "debug")]

/-- Sets an option, or takes it back. -/
def setOption (isOn : Bool) (c : Char) : Run Unit :=
  modify fun p => { p with
    options := (if isOn then [c] else []) ++ p.options.filter (· != c) }

/-- Sets an option by its letter. -/
def setLetter (isOn : Bool) (c : Char) : Run Unit :=
  if ' ' < c && optionNames.any (·.1 == c) then setOption isOn c
  else Run.fail ("Illegal option -".toList ++ [c])

/-- The lines that show which options are set. -/
def optionLines (p : Process) : Text :=
  "Current option settings\n".toList ++ optionNames.flatMap fun (c, name) =>
    Text.padEnd 16 name.toList ++
      (if p.options.any (· == c) then "on\n" else "off\n").toList

/-- The lines that would set the options again. -/
def optionCommands (p : Process) : Text :=
  optionNames.flatMap fun (c, name) =>
    ((if p.options.any (· == c) then "set -o " else "set +o ") ++ name ++ "\n").toList

/-- Sets an option by its name, or shows all where none is given. -/
def setNamed (isOn : Bool) : Option Text → Run Unit
  | none => do
    let p ← get
    let _ ← print (if isOn then optionLines p else optionCommands p)
  | some name =>
    match optionNames.find? fun (_, known) => known.toList == name with
    | some (c, _) => setOption isOn c
    | none => Run.fail ("Illegal option -o ".toList ++ name)

/-- Sets the options of one argument, and gives the arguments after it. -/
def setCluster (isOn : Bool) : Text → List Text → Run (List Text)
  | [], rest => pure rest
  | 'o' :: cluster, rest => do
    setNamed isOn rest.head?
    setCluster isOn cluster (rest.drop 1)
  | c :: cluster, rest => do
    setLetter isOn c
    setCluster isOn cluster rest

/-- Replaces the parameters. -/
def setParameters (parameters : List Text) : Run Unit :=
  modify fun p => { p with parameters, optionAt := 1, optionOffset := none }

/-- Sets the options that arguments start with, and gives the parameters after them if there are
any to be set. -/
def takeSettings : (steps : Nat) → List Text → Run (Option (List Text))
  | 0, _ => pure none
  | _, [] => pure none
  | _, ['-', '-'] :: rest => pure (some rest)
  | _, ['-'] :: rest => do
    setOption false 'x'
    setOption false 'v'
    pure (if rest.isEmpty then none else some rest)
  | steps + 1, ('-' :: cluster) :: rest => do
    takeSettings steps (← setCluster true cluster rest)
  | steps + 1, ('+' :: cluster) :: rest => do
    takeSettings steps (← setCluster false cluster rest)
  | _, parameters => pure (some parameters)

/-- Sets options and parameters, or shows all variables. -/
def set : Builtin := fun arguments => do
  if arguments.isEmpty then
    print (variableLines [] (·.value.isSome) (← get))
  else
    let parameters ← takeSettings (arguments.length + 1) arguments
    Run.giveUpJobs
    match parameters with
    | some parameters => setParameters parameters
    | none => pure ()
    pure 0

/-- Drops parameters at the start. -/
def shift : Builtin := fun arguments => do
  let n ← match arguments with
    | [] => pure 1
    | t :: _ => Run.number t
  let p ← get
  if p.parameters.length < n then Run.fail "can\x27t shift that many".toList
  else
    setParameters (p.parameters.drop n)
    pure 0

/-- What a line that is read holds so far. -/
structure LineReader where
  /-- Its parts before the one begun, and that one in reverse. -/
  regions : List Region := []
  current : List Glyph := []

/-- The line with its last part ended. -/
def LineReader.close (l : LineReader) : List Region :=
  l.regions ++ [⟨.atSeparators, l.current.reverse⟩]

/-- A line with the characters of a text. A backslash, unless it is plain, guards the character
after it; the second part tells whether it joins the next line. With nothing to guard it is left
out. -/
def LineReader.add (isPlain : Bool) : LineReader → Text → LineReader × Bool
  | l, [] => (l, false)
  | l, ['\n'] => (l, false)
  | l, '\\' :: t =>
    if isPlain then LineReader.add isPlain { l with current := .bare '\\' :: l.current } t
    else
      match t with
      | [] => (l, false)
      | '\n' :: _ => ({ regions := l.close }, true)
      | c :: t => LineReader.add isPlain { regions := l.close ++ [⟨.never, [.guarded c]⟩] } t
  | l, c :: t => LineReader.add isPlain { l with current := .bare c :: l.current } t

/-- Reads a line with those that are joined to it. The second part tells whether it ended. -/
def readJoined (isPlain : Bool) : (lines : Nat) → (l : LineReader) → Run (List Region × Bool)
  | 0, l => pure (l.close, false)
  | lines + 1, l => do
    let t := ofBytes ((← Run.readLine? 0).getD .empty)
    let (l, isJoined) := l.add isPlain (t.filter (· != '\x00'))
    if isJoined then readJoined isPlain lines l
    else pure (l.close, t.getLast? == some '\n')

/-- How many lines can be joined at most. -/
def joinedLines : Nat := 100000

/-- Sets variables to fields in order, to nothing where there is none left. -/
def assignFields : List Text → List Text → Run Unit
  | [], _ => pure ()
  | name :: names, fields => do
    Run.assign name (fields.head?.getD [])
    assignFields names (fields.drop 1)

/-- Reads a line of the input into variables, the last of which takes all that is left. -/
def read : Builtin := fun arguments => do
  let (given, names) ← options "p:r" arguments
  if names.isEmpty then Run.fail "arg count".toList
  else
    let (regions, isWhole) ← readJoined (isGiven 'r' given) joinedLines {}
    let ifs := ((← Run.value? "IFS".toList)).getD defaultSeparators
    let fields := splitFields ifs (some names.length) regions
    assignFields names (fields.map textOf)
    pure (if isWhole then 0 else 1)

/-- Where the reading of options has come to. -/
structure OptionCursor where
  /-- How many arguments were read. -/
  position : Nat
  /-- The rest of the letters in the argument read last, none after one that ends there. -/
  cluster : Option Text

/-- The cursor for arguments of which some were read, and of the last of those a part. -/
def OptionCursor.ofState (arguments : List Text) (optionAt : Nat) (offset : Option Nat) :
    OptionCursor :=
  if arguments.length + 1 < optionAt || optionAt ≤ 1 then ⟨0, none⟩
  else
    let last := (arguments[optionAt - 2]?).getD []
    ⟨optionAt - 1, (offset.filter (· ≤ last.length)).map last.drop⟩

/-- The letter of the next option, and where reading has come to then. None at the end. -/
def nextOption? (arguments : List Text) (c : OptionCursor) : Option Char × OptionCursor :=
  match c.cluster with
  | some (letter :: cluster) => (some letter, { c with cluster := some cluster })
  | _ =>
    match arguments[c.position]? with
    | some ['-', '-'] => (none, ⟨c.position + 1, none⟩)
    | some ('-' :: letter :: cluster) => (some letter, ⟨c.position + 1, some cluster⟩)
    | _ => (none, { c with cluster := none })

/-- Sets the variables for an option, and where to go on. -/
def finishOption (name : Text) (letter : Char) (c : OptionCursor) (arguments : List Text) :
    Run Nat := do
  Run.putVariable "OPTIND".toList (some { ((← Run.lookup? "OPTIND".toList).getD {}) with
    value := some (Text.ofNat (c.position + 1)) })
  Run.assign name [letter]
  let last := (arguments[c.position - 1]?).getD []
  modify fun p => { p with
    optionAt := c.position + 1
    optionOffset := c.cluster.map fun cluster => last.length - cluster.length }
  pure 0

/-- Reads the next option of the parameters, or of arguments. -/
def getopts : Builtin := fun arguments => do
  match arguments with
  | known :: name :: own => do
    let p ← get
    let arguments := if own.isEmpty then p.parameters else own
    let isSilent := known.head? == some ':'
    let setArgument := Run.assign "OPTARG".toList
    let start := OptionCursor.ofState arguments p.optionAt p.optionOffset
    match nextOption? arguments start with
    | (none, c) => do
      let _ ← finishOption name '?' c arguments
      pure 1
    | (some letter, c) =>
      match optionKind known letter with
      | none => do
        if isSilent then setArgument [letter]
        else do
          Run.complain ("Illegal option -".toList ++ [letter])
          Run.unsetVariable "OPTARG".toList
        finishOption name '?' c arguments
      | some false => do
        setArgument []
        finishOption name letter c arguments
      | some true =>
        match c.cluster.getD [], arguments[c.position]? with
        | [], none => do
          let c := { c with cluster := none }
          if isSilent then do
            setArgument [letter]
            finishOption name ':' c arguments
          else do
            Run.complain ("No arg for -".toList ++ letter :: " option".toList)
            Run.unsetVariable "OPTARG".toList
            finishOption name '?' c arguments
        | [], some value => do
          setArgument value
          finishOption name letter ⟨c.position + 1, none⟩ arguments
        | value, _ => do
          setArgument value
          finishOption name letter { c with cluster := none } arguments
  | _ => Run.fail "Usage: getopts optstring var [arg...]".toList

end JarLens.Shell.Builtin
