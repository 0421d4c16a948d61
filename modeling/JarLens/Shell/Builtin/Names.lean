import JarLens.Shell.Builtin.Basic
import JarLens.Shell.Grammar
import JarLens.Shell.Search

/-!
# Builtins for names

What the name of a command means: aliases, and which command a name leads to. A name can be a word
of the grammar, an alias, a function, a command of the shell itself, or a program.
-/

namespace JarLens.Shell.Builtin

/-! ## Aliases -/

/-- The number by which a name is ordered among others. -/
def nameKey (groups : Nat) (name : Text) : Nat :=
  let first := ((name.head?).map Char.toNat).getD 0
  name.foldl (fun n c => n + c.toNat) (16 * first) % groups

/-- Into how many groups the names of aliases fall. -/
def aliasGroups : Nat := 39

/-- The line that would make an alias again. -/
def aliasLine (name value : Text) : Text :=
  name ++ '=' :: quotedValue value ++ ['\n']

/-- Makes the alias of an operand, or shows it. -/
def makeAlias (operand : Text) : Run Nat := do
  let name := operand.head?.toList ++ (operand.drop 1).takeWhile (· != '=')
  if name.length < operand.length then do
    let value := operand.drop (name.length + 1)
    modify fun p => { p with
      aliases :=
        if p.aliases.any (·.1 == name) then
          p.aliases.map fun entry => if entry.1 == name then (name, value) else entry
        else p.aliases ++ [(name, value)] }
    pure 0
  else
    match (← get).aliases.lookup name with
    | some value => print (aliasLine name value)
    | none => do
      Run.complain ("alias: ".toList ++ name ++ " not found".toList)
      pure 1

/-- Makes aliases, or shows them. -/
def makeAliases : Builtin := fun arguments => do
  if arguments.isEmpty then
    let aliases := (← get).aliases.mergeSort fun a b =>
      nameKey aliasGroups a.1 ≤ nameKey aliasGroups b.1
    print (aliases.flatMap fun (name, value) => aliasLine name value)
  else forOperands makeAlias arguments

/-- Removes an alias. -/
def removeAlias (name : Text) : Run Nat := do
  if (← get).aliases.any (·.1 == name) then
    modify fun p => { p with aliases := p.aliases.filter (·.1 != name) }
    pure 0
  else
    Run.complain ("unalias: ".toList ++ name ++ " not found".toList)
    pure 1

/-- Removes aliases, all of them with the option for it. -/
def removeAliases : Builtin := fun arguments => do
  let (given, operands) ← options "a" arguments
  if isGiven 'a' given then
    modify fun p => { p with aliases := [] }
    pure 0
  else forOperands removeAlias operands

/-! ## Meanings -/

/-- The commands of the shell itself that are not special. -/
def ordinaryNames : List Text :=
  ["[", "alias", "bg", "cd", "chdir", "command", "echo", "false", "fg", "getopts", "hash", "jobs",
    "kill", "printf", "pwd", "read", "test", "true", "type", "ulimit", "umask", "unalias",
    "wait"].map String.toList

/-- Whether a name belongs to a command of the shell itself. -/
def isBuiltinName (name : Text) : Bool :=
  isSpecialName name || ordinaryNames.any (· == name)

/-- What a name means. -/
inductive Meaning where
  | keyword
  | shorthand (value : Text)
  | function
  | special
  | builtin
  /-- A program, and whether its path was known before. -/
  | program (path : Text) (isKnown : Bool)
  | nothing

/-- What a name means, with programs looked for along a search path if one is given. -/
def meaning (p : Process) (along : Option Text) (name : Text) : Meaning :=
  if reservedWords.any fun word => word.toList == name then .keyword
  else
    match p.aliases.lookup name with
    | some value => .shorthand value
    | none =>
      if p.functions.any (·.1 == name) then .function
      else if name.any (· == '/') then
        match Run.find p name with
        | .ok _ => .program name false
        | .error _ =>
          if (systemProgramAt? name).isSome then .program name false else .nothing
      else if isSpecialName name then .special
      else if isBuiltinName name then .builtin
      else
        match search p along name with
        | .ok path => .program path (along.isNone && p.found.any (·.1 == name))
        | .error _ => .nothing

/-- A name with what it means, in words. -/
def meaningText (name : Text) : Meaning → Text
  | .keyword => name ++ " is a shell keyword".toList
  | .shorthand value => name ++ " is an alias for ".toList ++ value
  | .function => name ++ " is a shell function".toList
  | .special => name ++ " is a special shell builtin".toList
  | .builtin => name ++ " is a shell builtin".toList
  | .program path isKnown =>
    name ++ (if isKnown then " is a tracked alias for " else " is ").toList ++ path
  | .nothing => name ++ ": not found".toList

/-- What a script would write for what a name means. None if it means nothing. -/
def meaningWord? (name : Text) : Meaning → Option Text
  | .nothing => none
  | .shorthand value => some ("alias ".toList ++ name ++ '=' :: quotedValue value)
  | .program path _ => some path
  | _ => some name

/-- Keeps in mind where a program was found by its name. -/
def remember (name path : Text) : Run Unit :=
  modify fun p => { p with
    found := if p.found.any (·.1 == name) then p.found else p.found ++ [(name, path)] }

/-- Shows what a name means, in words or as a script would write it. -/
def describe (along : Option Text) (inWords : Bool) (name : Text) : Run Nat := do
  let m := meaning (← get) along name
  match m with
  | .program path _ =>
    if along.isNone && !name.any (· == '/') && path != name then remember name path
  | _ => pure ()
  match m, inWords with
  | .nothing, true => do
    let _ ← printLine (meaningText name m)
    pure 127
  | m, true => printLine (meaningText name m)
  | m, false =>
    match meaningWord? name m with
    | some t => printLine t
    | none => pure 127

/-- Shows what names mean. -/
def type : Builtin := fun arguments => do
  forOperands (describe none true) arguments

/-- Shows what a name means, for the options of `command` that ask for it. -/
def commandMeaning : Builtin := fun arguments => do
  let (given, operands) ← options "pvV" arguments
  let along := if isGiven 'p' given then some systemSearch else none
  match operands with
  | name :: _ =>
    if isGiven 'V' given then describe along true name
    else if isGiven 'v' given then describe along false name
    else pure 0
  | [] => pure 0

/-- Into how many groups the names of programs fall. -/
def programGroups : Nat := 31

/-- Looks a name up, and keeps in mind where its program lies. -/
def hashOne (name : Text) : Run Nat := do
  let p ← get
  if name.any (· == '/') || isBuiltinName name || p.functions.any (·.1 == name) then pure 0
  else
    match search p none name with
    | .ok path => do
      modify fun p => { p with found := p.found.filter (·.1 != name) }
      remember name path
      pure 0
    | .error fault => do
      Run.warn (name ++ ": ".toList ++ startFaultText fault)
      pure 1

/-- Looks names up, or shows the programs that were found so far. -/
def hash : Builtin := fun arguments => do
  let (given, operands) ← options "r" arguments
  if isGiven 'r' given then
    modify fun p => { p with found := [] }
    pure 0
  else if operands.isEmpty then
    let found := (← get).found.mergeSort fun a b =>
      nameKey programGroups a.1 ≤ nameKey programGroups b.1
    print (found.flatMap fun (_, path) => path ++ ['\n'])
  else forOperands hashOne operands

end JarLens.Shell.Builtin
