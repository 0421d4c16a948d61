import JarLens.CommandLine.Similar
import JarLens.Text.Quoted

/-!
# Parameters of commands

A command takes options, in any order, and arguments by position. `sortArguments` sorts a command
line into both; what it cannot sort is a usage fault. `collectArguments` keeps what comes before the
fault.
-/

namespace JarLens.CommandLine

/-- An option of a command. -/
structure OptionSpec where
  /-- The letter after a single dash, if there is one. -/
  short : Option Char := none
  /-- The name after two dashes. -/
  long : Text
  takesValue : Bool := false
  /-- Whether all the values count when it is given more than once. -/
  isRepeatable : Bool := false
  help : Text
  deriving DecidableEq

/-- An argument of a command. -/
structure ArgumentSpec where
  /-- The name in usage lines. -/
  name : Text
  isRequired : Bool
  isPath : Bool := false
  /-- Whether something has to lie at the path that it is. -/
  mustExist : Bool := false
  deriving DecidableEq

/-- A command. -/
structure CommandSpec where
  name : Text
  help : Text
  options : List OptionSpec
  arguments : List ArgumentSpec

/-- The option with which every command shows its help. -/
def helpOption : OptionSpec :=
  { long := "help".toList, help := "Show this message and exit.".toList }

/-- All options of a command. -/
def CommandSpec.allOptions (c : CommandSpec) : List OptionSpec :=
  c.options ++ [helpOption]

/-- How an argument stands in usage lines. -/
def ArgumentSpec.usage (a : ArgumentSpec) : Text :=
  if a.isRequired then a.name else '[' :: a.name ++ [']']

/-- What is wrong with a command line. -/
inductive UsageFault where
  | unknownOption (option : Text) (similar : List Text)
  | valueMissing (option : Text)
  | valueRefused (option : Text)
  | argumentMissing (argument : Text)
  | argumentsLeft (arguments : List Text)
  | pathMissing (argument path : Text)
  | pathUnreadable (argument path : Text)
  | commandMissing
  | unknownCommand (name : Text) (similar : List Text)
  deriving DecidableEq

/-- The question whether one of some names was meant. -/
def suggestion : List Text → Text
  | [] => []
  | [name] => " Did you mean ".toList ++ Text.quoted name ++ ['?']
  | names =>
    " (Did you mean one of: ".toList ++
      Text.join [',', ' '] ((sortTexts names).map Text.quoted) ++ ['?', ')']

/-- What is told of a usage fault. -/
def UsageFault.message : UsageFault → Text
  | unknownOption option similar =>
    "No such option ".toList ++ Text.quoted option ++ '.' :: suggestion similar
  | valueMissing option => "Option ".toList ++ Text.quoted option ++ " requires an argument.".toList
  | valueRefused option =>
    "Option ".toList ++ Text.quoted option ++ " does not take a value.".toList
  | argumentMissing argument => "Missing argument \x27".toList ++ argument ++ "\x27.".toList
  | argumentsLeft arguments =>
    (if arguments.length = 1 then "Got unexpected extra argument (" else
      "Got unexpected extra arguments (").toList ++ Text.join [' '] arguments ++ [')']
  | pathMissing argument path =>
    "Invalid value for \x27".toList ++ argument ++ "\x27: Path ".toList ++ Text.quoted path ++
      " does not exist.".toList
  | pathUnreadable argument path =>
    "Invalid value for \x27".toList ++ argument ++ "\x27: Path ".toList ++ Text.quoted path ++
      " is not readable.".toList
  | commandMissing => "Missing command.".toList
  | unknownCommand name similar =>
    "No such command ".toList ++ Text.quoted name ++ '.' :: suggestion similar

/-- Whether the usage line of the command is shown with the fault. It is not where the fault is
about the value of an option alone. -/
def UsageFault.showsUsage : UsageFault → Bool
  | valueMissing _ | valueRefused _ => false
  | _ => true

/-- A command line, sorted: the options in order with their values, and the arguments. -/
structure Arguments where
  options : List (Text × Text) := []
  positional : List Text := []

/-- Whether an option was given. -/
def Arguments.has (a : Arguments) (long : String) : Bool :=
  (a.options.lookup long.toList).isSome

/-- The values given for an option, in order. -/
def Arguments.values (a : Arguments) (long : String) : List Text :=
  a.options.filterMap fun (name, value) => if name = long.toList then some value else none

/-- The arguments with one more option, in front. -/
def Arguments.addOption (a : Arguments) (o : OptionSpec) (value : Text) : Arguments :=
  { a with options := (o.long, value) :: a.options }

/-- What letters after a single dash are. -/
structure Letters where
  options : List (OptionSpec × Text) := []
  /-- The option whose value is the next argument. -/
  open? : Option OptionSpec := none
  /-- What is wrong with the letter after the options. -/
  fault? : Option UsageFault := none

/-- Sorts letters after a single dash. -/
def sortLetters (options : List OptionSpec) : Text → Letters
  | [] => {}
  | c :: t =>
    match options.find? (·.short == some c) with
    | none => { fault? := some (.unknownOption ['-', c] []) }
    | some o =>
      if !o.takesValue then
        let more := sortLetters options t
        { more with options := (o, []) :: more.options }
      else if t.isEmpty then { open? := some o }
      else { options := [(o, t)] }

/-- An argument that starts with two dashes, cut at its first equals sign. -/
def cutLong (t : Text) : Text × Option Text :=
  match Text.cut? ['='] t with
  | some (name, value) => (name, some value)
  | none => (t, none)

/-- Sorts a command line as far as it can be sorted, and tells what is wrong with it. With
`interspersed`, options may follow arguments; without it, all from the first argument on is
positional. -/
def collectArguments (options : List OptionSpec) (interspersed : Bool) :
    List Text → Arguments × Option UsageFault
  | [] => ({}, none)
  | ['-', '-'] :: rest => ({ positional := rest }, none)
  | ('-' :: '-' :: c :: t) :: rest =>
    let (name, value) := cutLong (c :: t)
    let dashed := '-' :: '-' :: name
    match options.find? (·.long == name), value, rest with
    | none, _, _ =>
      ({}, some (.unknownOption dashed
        (similarNames dashed (options.map fun o => '-' :: '-' :: o.long))))
    | some o, some value, rest =>
      if o.takesValue then
        let (a, fault) := collectArguments options interspersed rest
        (a.addOption o value, fault)
      else ({}, some (.valueRefused dashed))
    | some o, none, rest =>
      if !o.takesValue then
        let (a, fault) := collectArguments options interspersed rest
        (a.addOption o [], fault)
      else match rest with
        | value :: rest =>
          let (a, fault) := collectArguments options interspersed rest
          (a.addOption o value, fault)
        | [] => ({}, some (.valueMissing dashed))
  | ('-' :: c :: t) :: rest =>
    let letters := sortLetters options (c :: t)
    let add := fun (a : Arguments) =>
      letters.options.foldr (fun (o, value) a => a.addOption o value) a
    match letters.fault?, letters.open?, rest with
    | some fault, _, _ => (add {}, some fault)
    | none, none, rest =>
      let (a, fault) := collectArguments options interspersed rest
      (add a, fault)
    | none, some o, value :: rest =>
      let (a, fault) := collectArguments options interspersed rest
      (add (a.addOption o value), fault)
    | none, some o, [] =>
      (add {}, some (.valueMissing ('-' :: (o.short.map ([·])).getD [])))
  | argument :: rest =>
    if interspersed then
      let (a, fault) := collectArguments options interspersed rest
      ({ a with positional := argument :: a.positional }, fault)
    else ({ positional := argument :: rest }, none)

/-- Sorts a command line, or tells what is wrong with it. -/
def sortArguments (options : List OptionSpec) (interspersed : Bool) (line : List Text) :
    Except UsageFault Arguments :=
  match collectArguments options interspersed line with
  | (a, none) => .ok a
  | (_, some fault) => .error fault

/-- Matches positional arguments with what a command takes, in order. `readable?` tells whether what
lies at a path can be read, if anything lies there. -/
def bindArguments (readable? : Text → Option Bool) :
    List ArgumentSpec → List Text → Except UsageFault (List (Option Text))
  | [], [] => .ok []
  | [], left => .error (.argumentsLeft left)
  | a :: specs, [] => do
    if a.isRequired then .error (.argumentMissing a.usage)
    else pure (none :: (← bindArguments readable? specs []))
  | a :: specs, t :: ts => do
    if a.isPath then
      match readable? t with
      | none => if a.mustExist then throw (.pathMissing a.usage t)
      | some isReadable => if !isReadable then throw (.pathUnreadable a.usage t)
    pure (some t :: (← bindArguments readable? specs ts))

end JarLens.CommandLine
