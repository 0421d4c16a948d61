import JarLens.CommandLine.Help
import JarLens.CommandLine.Words
import JarLens.Machine.Environment
import JarLens.Text.Digit

/-!
# Completion

What the last word of a command line can be completed to, for the shell in which the line is typed.
The shell tells the line in variables, and has the candidates printed in a form of its own.
-/

namespace JarLens.CommandLine

/-- The shells in which lines can be completed. -/
inductive CompletionShell where
  | bash
  | zsh
  | fish
  | powershell
  deriving DecidableEq

/-- The shell with a name. -/
def CompletionShell.ofName? (name : Text) : Option CompletionShell :=
  ([("bash", bash), ("zsh", zsh), ("fish", fish), ("powershell", powershell)].find?
    (·.1.toList == name)).map (·.2)

/-- Why there is nothing to complete. -/
inductive CompletionFault where
  | variableMissing (name : Text)
  /-- The number of the word is no number. -/
  | noInteger (t : Text)
  /-- The word consists of blanks. -/
  | blankWord
  deriving DecidableEq

/-- A line that is being typed: the arguments before the word that is completed, and that word. -/
structure PartialLine where
  before : List Text
  word : Text

/-- The variable with the line. -/
def lineVariable : Text := "COMP_WORDS".toList

/-- The variable with the number of the word that is completed, or with the word itself. -/
def wordVariable : Text := "COMP_CWORD".toList

/-- The words before the one with a number, which counts from the end if it is negative, and
that word. -/
def cutAtWord (words : List Text) (n : Int) : PartialLine :=
  let fromStart := if n < 0 then n + words.length else n
  { before := (words.take fromStart.toNat).drop 1
    word := if fromStart < 0 then [] else words[fromStart.toNat]?.getD [] }

/-- The line that variables tell. -/
def PartialLine.ofEnvironment (shell : CompletionShell) (e : Environment) :
    Except CompletionFault PartialLine := do
  let variableOf := fun name =>
    match e.get? name with
    | some value => Except.ok value
    | none => .error (.variableMissing name)
  let line := words (← variableOf lineVariable)
  let told ← variableOf wordVariable
  match shell with
  | .fish =>
    if told.isEmpty then pure { before := line.drop 1, word := [] }
    else
      match words told with
      | [] => .error .blankWord
      | word :: _ =>
        let before := line.drop 1
        let isRepeated := !word.isEmpty && before.getLast? == some word
        pure { before := if isRepeated then before.dropLast else before, word }
  | _ =>
    match Text.integer? told with
    | some n => pure (cutAtWord line n)
    | none => .error (.noInteger told)

/-- What is told of a fault. -/
def CompletionFault.message : CompletionFault → Text
  | variableMissing name => "Variable not set: ".toList ++ name
  | noInteger t => "No number: ".toList ++ Text.quoted t
  | blankWord => "No word to complete".toList

/-- What a word can be completed to. -/
structure Candidate where
  /-- Whether the shell is to complete the value as a path. -/
  isPath : Bool := false
  value : Text
  help : Option Text := none

/-- What is given so far to the command that is meant, or to the program if none is. -/
structure Given where
  command : Option CommandSpec
  arguments : Arguments
  /-- Whether all of it could be sorted. -/
  isWhole : Bool

namespace Given

/-- What is given by arguments. -/
def ofArguments (before : List Text) : Given :=
  let sorted := fun (command : Option CommandSpec) (options : List OptionSpec) (line : List Text) =>
    let (arguments, fault) := collectArguments options command.isSome line
    ({ command, arguments, isWhole := fault.isNone } : Given)
  let outer := sorted none programOptions before
  match outer.arguments.positional with
  | [] => outer
  | name :: rest =>
    match commandSpecs.find? (·.name == name) with
    | some c => sorted (some c) c.allOptions rest
    | none => outer

/-- The options that there are. -/
def options (g : Given) : List OptionSpec :=
  match g.command with
  | some c => c.allOptions
  | none => programOptions

/-- The first argument that has no value yet. -/
def nextArgument? (g : Given) : Option ArgumentSpec :=
  let count := if g.isWhole then g.arguments.positional.length else 0
  g.command.bind (·.arguments[count]?)

end Given

/-- How an option can be written. -/
def OptionSpec.names (o : OptionSpec) : List Text :=
  (o.short.map fun c => ['-', c]).toList ++ ['-' :: '-' :: o.long]

/-- The greatest length of the help for a command among candidates. -/
def shortHelpLimit : Nat := 45

/-- What marks a help that is cut off. -/
def ellipsis : Text := "...".toList

/-- As many of some words as fit in a line, at least one. -/
def fittingWords (room : Nat) : List Text → List Text
  | [] => []
  | word :: rest =>
    let needed := word.length + 1
    word :: match rest with
      | next :: _ => if needed + next.length ≤ room then fittingWords (room - needed) rest else []
      | [] => []

/-- A help, cut off after a word if it is long. -/
def shortHelp (help : Text) : Text :=
  if help.length ≤ shortHelpLimit then help
  else
    Text.join [' '] (fittingWords (shortHelpLimit - ellipsis.length) (Text.splitOn ' ' help)) ++
      ellipsis

/-- The options that a word is the start of. What is given already is left out unless it may be
given again. -/
def optionCandidates (g : Given) (word : Text) : List Candidate :=
  if word.head? != some '-' then []
  else
    let offered := g.options.filter fun o =>
      o.isRepeatable || !g.arguments.options.any (·.1 == o.long)
    offered.flatMap fun o => (o.names.filter (Text.startsWith · word)).map fun name =>
      { value := name, help := some o.help }

/-- The commands and options that a word is the start of. -/
def nameCandidates (g : Given) (word : Text) : List Candidate :=
  let commands : List CommandSpec := match g.command with
    | some _ => []
    | none => commandSpecs.filter fun c => Text.startsWith c.name word
  commands.map (fun c => { value := c.name, help := some (shortHelp c.help) }) ++
    optionCandidates g word

/-- A line in which the name of an option and the start of its value are words of their own. -/
def PartialLine.withoutEquals (l : PartialLine) : PartialLine :=
  if l.word == ['='] then { l with word := [] }
  else if l.word.head? != some '-' then l
  else
    match Text.cut? ['='] l.word with
    | some (name, value) => { before := l.before ++ [name], word := value }
    | none => l

/-- What the word at the end of a line can be completed to. -/
def candidates (l : PartialLine) : List Candidate :=
  let g := Given.ofArguments l.before
  let l := l.withoutEquals
  if l.word.head? == some '-' && !l.before.any (· == ['-', '-']) then nameCandidates g l.word
  else if g.options.any fun o => o.takesValue && o.names.any (l.before.getLast? == some ·) then []
  else
    match g.nextArgument? with
    | some a => if a.isPath then [{ isPath := true, value := l.word }] else []
    | none => nameCandidates g l.word

/-- A candidate as a shell reads it. -/
def Candidate.write (shell : CompletionShell) (c : Candidate) : Text :=
  let kind := if c.isPath then "file".toList else "plain".toList
  match shell with
  | .bash => kind ++ ',' :: c.value
  | .fish => kind ++ ',' :: c.value ++
      match c.help with
      | some help => '\t' :: help
      | none => []
  | .zsh =>
    let value := if c.help.isSome then
      c.value.flatMap fun d => if d == ':' then ['\\', ':'] else [d] else c.value
    Text.join ['\n'] [kind, value, c.help.getD ['_']]
  | .powershell => Text.join ['\n'] [kind, c.value, c.help.getD ['_']]

/-- What is printed for the word at the end of the line that variables tell. -/
def completionText (shell : CompletionShell) (e : Environment) : Except CompletionFault Text := do
  let l ← PartialLine.ofEnvironment shell e
  pure (Text.join ['\n'] ((candidates l).map (Candidate.write shell)) ++ ['\n'])

end JarLens.CommandLine
