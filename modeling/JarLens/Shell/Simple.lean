import JarLens.Shell.Starting

/-!
# Simple commands

What a command without structure does: its words are expanded, its redirections made, its variables
set, and then what its first word means runs: a function, a builtin or a program. Variables that
stand before a command are its own, unless a special builtin runs.
-/

namespace JarLens.Shell

/-! ## Meaning -/

/-- What the first word of a command means. -/
inductive Target where
  /-- There is no word. -/
  | nothing
  | function (f : Function)
  | builtin (run : Builtin)
  /-- The builtin that runs its operands as a command. -/
  | command
  /-- The builtin that runs its operands as a script. -/
  | evaluate
  /-- The builtin that runs a file as a script. -/
  | source
  /-- The builtin that lets a program take the place of the process. -/
  | replace
  | program

/-- The builtin with a name. -/
def builtinTarget? (name : Text) : Option Target :=
  match String.ofList name with
  | "command" => some .command
  | "eval" => some .evaluate
  | "." => some .source
  | "exec" => some .replace
  | _ => (Builtin.table.lookup name).map .builtin

/-- What a name means as the first word of a command. -/
def targetOf (p : Process) (skipsFunctions : Bool) (name : Text) : Target :=
  if name.any (· == '/') then .program
  else
    match if skipsFunctions then none else p.functions.lookup name with
    | some f => .function f
    | none => (builtinTarget? name).getD .program

/-- A command with its words expanded. -/
structure Plan where
  target : Target := .nothing
  fields : List Text := []
  /-- The fields before those, which say how they are run. -/
  before : List Text := []
  /-- Whether the builtin that the first word names is special, none if it names none. -/
  isSpecial : Option Bool := none
  skipsFunctions : Bool := false
  /-- The search path for its program, if that is not the one of the process. -/
  along : Option Text := none

/-- Whether variables that stand before the command are its own. -/
def Plan.hasOwnVariables (plan : Plan) : Bool :=
  !plan.fields.isEmpty && plan.isSpecial != some true

/-- The builtins for which words that set variables are not split. -/
def assigningNames : List Text :=
  ["alias", "export", "local", "readonly"].map String.toList

/-- Whether words that set variables are not split for the command. -/
def Plan.assigns (plan : Plan) : Bool :=
  match plan.target, plan.fields with
  | .builtin _, name :: _ => assigningNames.any (· == name)
  | _, _ => false

section Plan

variable (runner : Runner)

/-- The fields of the first word that has any, and the words after it. -/
def firstFields : List Word → Run (List Text × List Word)
  | [] => pure ([], [])
  | w :: ws => do
    let fields ← expandFields (output runner) w
    if fields.isEmpty then firstFields ws else pure (fields, ws)

/-- The operands of the builtin that runs them as a command, as far as they are expanded, and the
words after them. None if it is asked for something else. -/
structure CommandOperands where
  operands : Option (List Text)
  /-- Whether programs are looked for along the search path of the system. -/
  isSystem : Bool
  /-- All fields that were looked at. -/
  seen : List Text
  words : List Word

/-- Reads the options of the builtin that runs its operands as a command. -/
def commandOperands : (steps : Nat) → (isSystem : Bool) → (seen fields : List Text) →
    List Word → Run CommandOperands
  | 0, _, _, _, _ => throw .outOfSteps
  | steps + 1, isSystem, seen, [], words => do
    let (fields, words) ← firstFields runner words
    if fields.isEmpty then pure ⟨none, isSystem, seen, words⟩
    else commandOperands steps isSystem seen fields words
  | steps + 1, isSystem, seen, t :: rest, words => do
    match t with
    | ['-', '-'] =>
      let (fields, words) ← if rest.isEmpty then firstFields runner words else pure (rest, words)
      pure ⟨if fields.isEmpty then none else some fields, isSystem, seen ++ [t], words⟩
    | '-' :: c :: letters =>
      if (c :: letters).all (· == 'p') then commandOperands steps true (seen ++ [t]) rest words
      else pure ⟨none, isSystem, seen ++ t :: rest, words⟩
    | _ => pure ⟨some (t :: rest), isSystem, seen, words⟩

/-- The steps that a builtin's options may take. -/
def optionLimit : Nat := 100000

/-- The plan for a command whose first fields are expanded, and the words that are not. -/
def planFields : (steps : Nat) → Plan → List Text → List Word → Run (Plan × List Word)
  | 0, _, _, _ => throw .outOfSteps
  | _, plan, [], words => pure (plan, words)
  | steps + 1, plan, name :: rest, words => do
    let target := targetOf (← get) plan.skipsFunctions name
    let isSpecial := plan.isSpecial <|> match target with
      | .program | .function _ => none
      | _ => some (isSpecialName name)
    let plan := { plan with target, isSpecial, fields := name :: rest }
    match target with
    | .command => do
      let found ← commandOperands runner optionLimit plan.along.isSome [] rest words
      match found.operands with
      | some fields =>
        planFields steps { plan with
            skipsFunctions := true
            before := plan.before ++ name :: found.seen
            along := if found.isSystem then some systemSearch else none }
          fields found.words
      | none =>
        pure ({ plan with
          target := .builtin Builtin.commandMeaning, fields := name :: found.seen }, found.words)
    | _ => pure (plan, words)

/-- The plan for the words of a command. -/
def planWords (words : List Word) : Run Plan := do
  let (fields, rest) ← firstFields runner words
  let (plan, rest) ← planFields runner optionLimit {} fields rest
  let more ← expandWords (output runner) plan.assigns rest
  pure { plan with fields := plan.fields ++ more }

/-! ## Running -/

/-- How many functions can run inside of one another. -/
def functionDepth : Nat := 1000

/-- Runs a function. -/
def runFunction (m : Manner) (f : Function) (arguments : List Text) : Run Unit := do
  let p ← get
  let (depth, loops, parameters) := (p.depth, p.loops, p.parameters)
  let (optionAt, optionOffset) := (p.optionAt, p.optionOffset)
  if functionDepth ≤ depth then
    Run.fail ("Maximum function recursion depth (".toList ++ Text.ofNat functionDepth ++
      ") reached".toList)
  set { p with
    depth := depth + 1, loops := 0, parameters := arguments, optionAt := 1, optionOffset := none }
  let restore : Run Unit := modify fun p => { p with
    depth, loops, parameters, optionAt, optionOffset
    skip := p.skip.filter fun
      | .function _ => false
      | _ => true }
  let _ ← tryCatch (runner m.first f.body) fun ending => do
    restore
    throw ending
  restore

/-- Runs a builtin in its name. A failure of it ends the process only if it is special. -/
def runBuiltin (isSpecial : Bool) (name : Text) (run : Run Nat) : Run Unit := do
  let speaker := (← get).speaker
  let restore : Run Unit := modify fun p => { p with speaker }
  modify fun p => { p with speaker := some name }
  tryCatch (do Run.setStatus (← run); restore) fun ending => do
    restore
    match ending with
    | .fault => if isSpecial then throw ending
    | ending => throw ending

/-- The file with a script that a name means, which is searched for if it has no slash. -/
def sourcePath (name : Text) : Run Text := do
  if name.any (· == '/') then pure name
  else
    let p ← get
    let folders := ((← Run.value? "PATH".toList)).getD []
    let isFile := fun (path : Text) => match Run.find p path with
      | .ok node => node.isFile
      | .error _ => false
    match (searchedPaths folders name).find? isFile with
    | some path => pure path
    | none => Run.fail (name ++ ": not found".toList)

/-- Runs a file as a script of the process. -/
def runSourceFile (arguments : List Text) : Run Nat := do
  let (_, operands) ← Builtin.options "" arguments
  match operands with
  | [] => pure 0
  | name :: _ => do
    let path ← sourcePath name
    match Run.findReadable (← get) path with
    | .error fault => Run.fail (openFaultText false path fault)
    | .ok node => do
      modify fun p => { p with speaker := some path }
      match node with
      | .file content _ => runWhole runner {} true (ofBytes content)
      | _ => pure 0

/-- Complains about a program that cannot be started. -/
def refuseProgram (name : Text) (fault : PathFault) : Run Unit :=
  Run.warn (name ++ ": ".toList ++ startFaultText fault)

/-- How the first of some paths starts that can be started, or the last fault that is no absence. -/
def firstShellStart (p : Process) (name : Text) (arguments : List Text) (fault : PathFault) :
    List Text → Except PathFault Start
  | [] => .error fault
  | path :: paths =>
    match shellStartAt p path name arguments with
    | .ok start => .ok start
    | .error .missing => firstShellStart p name arguments fault paths
    | .error .notFolder => firstShellStart p name arguments fault paths
    | .error other => firstShellStart p name arguments other paths

/-- The paths at which a name may mean a program, from the first on that has one. It is kept in
mind, and looked for there again. -/
def programPaths? (along : Option Text) (name : Text) : Run (Except PathFault (List Text)) := do
  if name.any (· == '/') then pure (.ok [name])
  else
    let p ← get
    let own := (← Run.value? "PATH".toList).getD []
    let known := if along.isNone then p.found.lookup name else none
    let pathsFrom := fun (path : Text) =>
      (searchedPaths (along.getD own) name).dropWhile (· != path)
    match known, search p along name with
    | some path, _ => pure (.ok (pathsFrom path))
    | none, .ok path => do
      if along.isNone then Builtin.remember name path
      pure (.ok (pathsFrom path))
    | none, .error fault => pure (.error fault)

/-- Runs a program, and waits for it. It takes the place of the process if that has nothing to do
after it. -/
def runProgram (m : Manner) (along : Option Text) (name : Text) (arguments : List Text) :
    Run Nat := do
  match ← programPaths? along name with
  | .error fault => do
    refuseProgram name fault
    pure 127
  | .ok paths =>
    match firstShellStart (← get) name arguments .missing paths with
    | .error fault => do
      refuseProgram name fault
      pure (startFaultStatus fault)
    | .ok start =>
      if m.isLast && !(← get).hasTraps then become runner start else runStart runner start

/-- Lets a program take the place of the process. -/
def replaceProcess (name : Text) (arguments : List Text) : Run Nat := do
  let search := (← Run.value? "PATH".toList).getD []
  let paths := if name.any (· == '/') then [name] else searchedPaths search name
  match firstShellStart (← get) name arguments .missing paths with
  | .error fault => do
    refuseProgram name fault
    modify fun p => { p with status := startFaultStatus fault, settled := none }
    throw .exit
  | .ok start => become runner start

/-- Runs what a plan means. -/
def runPlan (m : Manner) (plan : Plan) : Run Unit := do
  let isSpecial := plan.isSpecial == some true
  match plan.fields with
  | [] => Run.setStatus (← get).innerStatus
  | name :: arguments =>
    let builtin := runBuiltin isSpecial name
    match plan.target with
    | .function f => runFunction runner m f arguments
    | .builtin run => builtin (run arguments)
    | .evaluate => builtin do
      if arguments.isEmpty then pure 0
      else runText runner m.first (Text.join [' '] arguments)
    | .source => builtin (runSourceFile runner arguments)
    | .replace => builtin do
      match arguments with
      | [] => pure 0
      | name :: arguments => replaceProcess runner name arguments
    | _ => do Run.setStatus (← runProgram runner m plan.along name arguments)

/-- Whether the redirections of a command stay made. -/
def Plan.keepsDescriptors (plan : Plan) : Bool :=
  match plan.target with
  | .replace => true
  | _ => false

/-- Sets the variable of a word before a command, and gives the word as it is expanded. -/
def assignWord (plan : Plan) (w : Word) : Run Text := do
  let t ← expandAssignment (output runner) w
  let (name, value) := Builtin.cutOperand t
  if plan.hasOwnVariables then Run.keep (.variable name (← Run.lookup? name))
  let exports := plan.hasOwnVariables || (plan.keepsDescriptors && 1 < plan.fields.length)
  Run.assignMarked exports name (value.getD [])
  pure t

/-- Shows a command before it runs, where the error output led to before its redirections. -/
def traceCommand (descriptors : List (Nat × Nat)) (texts : List Text) : Run Unit := do
  if ← Run.hasOption 'x' then
    let sign ← expandTraceSign
    let now := (← get).descriptors
    modify fun p => { p with descriptors }
    Run.complain (sign ++ Text.join [' '] texts)
    modify fun p => { p with descriptors := now }
where
  /-- What stands before a command that is shown. -/
  expandTraceSign : Run Text := do
    let sign := ((← Run.value? "PS4".toList)).getD []
    modify fun p => { p with options := p.options.filter (· != 'x') }
    let p ← get
    let t ← match readPlainDocument.run { rest := sign, documents := p.documents } with
      | .ok w _ => expandDocument (output runner) w
      | .error _ _ => pure sign
    modify fun p => { p with options := 'x' :: p.options }
    pure t

/-- Brings back the variables that were kept since there were `count` functions and commands that
kept any. -/
def closeLocalsTo (count : Nat) : Run Unit := do
  (List.range ((← get).locals.length - count)).forM fun _ => Run.closeLocals

/-- How long a command takes at least. -/
def commandTime : Nat := 4

/-- Runs a simple command, and takes note of children that have ended. -/
def runSimple (m : Manner) (line : Nat) (assignments words : List Word)
    (redirections : List Redirection) : Run Nat := do
  Run.spend commandTime
  modify fun p => { p with line, innerStatus := 0 }
  let count := (← get).locals.length
  let plan ← planWords runner words
  if plan.hasOwnVariables then Run.openLocals
  let redirects ← redirections.mapM (expandRedirection runner)
  let descriptors := (← get).descriptors
  Run.withDescriptors plan.keepsDescriptors (redirects.map (·.descriptor)) do
    if ← makeRedirections runner redirects then
      let assigned ← assignments.mapM (assignWord runner plan)
      traceCommand runner descriptors (assigned ++ plan.before ++ plan.fields)
      runPlan runner m plan
      let _ ← Run.takeAllEnded []
    else
      Run.setStatus 2
      if plan.isSpecial == some true then throw .fault
  closeLocalsTo count
  pure (← get).status

end Plan

end JarLens.Shell
