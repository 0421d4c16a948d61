import JarLens.Shell.Reader
import JarLens.Shell.Warning

/-!
# Variables

How variables are read and set. A name that a function makes local to itself gets back what it was
when the function ends.
-/

namespace JarLens.Shell.Run

/-- A variable by name. -/
def lookup? (name : Text) : Run (Option Variable) := do
  pure ((← get).bindings.lookup name)

/-- The value of a variable. -/
def value? (name : Text) : Run (Option Text) := do
  pure ((← lookup? name).bind (·.value))

/-- Whether an option is set. -/
def hasOption (letter : Char) : Run Bool := do
  pure ((← get).options.any (· == letter))

/-- The variables with one of them changed, a new one at the end. -/
def withVariable (bindings : List (Text × Variable)) (name : Text) (v : Variable) :
    List (Text × Variable) :=
  if bindings.any (·.1 == name) then
    bindings.map fun entry => if entry.1 == name then (name, v) else entry
  else bindings ++ [(name, v)]

/-- Puts a variable in place of what it was. -/
def putVariable (name : Text) (v : Option Variable) : Run Unit :=
  modify fun p => { p with
    bindings := match v with
      | some v => withVariable p.bindings name v
      | none => p.bindings.filter (·.1 != name)
    found := if name == "PATH".toList then [] else p.found }

/-- Fails if a text is no name of a variable. -/
def checkName (name : Text) : Run Unit :=
  if isName name then pure () else fail (name ++ ": bad variable name".toList)

/-- The number that a text is, which is not negative and not too great. -/
def number (t : Text) : Run Nat :=
  match decimal? t with
  | some n => if 0 ≤ n && n < 2147483648 then pure n.toNat else refuseNumber t
  | none => refuseNumber t

/-- Starts to read options anew, where the variable that tells their place gets a value. -/
def noteValue (name value : Text) : Run Unit :=
  if name == "OPTIND".toList then do
    let n ← number value
    modify fun p => { p with optionAt := max n 1, optionOffset := none }
  else pure ()

/-- Sets a variable, and marks it as exported too if `exports` is set. -/
def assignMarked (exports : Bool) (name value : Text) : Run Unit := do
  checkName name
  let old := (← lookup? name).getD {}
  if old.isReadOnly then fail (name ++ ": is read only".toList)
  noteValue name value
  let all ← hasOption 'a'
  putVariable name
    (some { old with value := some value, isExported := old.isExported || exports || all })

/-- Sets a variable. -/
def assign (name value : Text) : Run Unit :=
  assignMarked false name value

/-- Takes the value of a variable away. -/
def unsetVariable (name : Text) : Run Unit := do
  checkName name
  let old := (← lookup? name).getD {}
  if old.isReadOnly then fail (name ++ ": is read only".toList)
  noteValue name []
  putVariable name none

/-- Keeps something to be brought back when the function that runs ends. -/
def keep (kept : Kept) : Run Unit :=
  modify fun p => { p with
    locals := match p.locals with
      | frame :: frames => (kept :: frame) :: frames
      | [] => [] }

/-- Brings back what was kept. -/
def bringBack : Kept → Run Unit
  | .variable name before => do
    if before.isNone then checkName name
    putVariable name before
    match before.bind (·.value) with
    | some value => noteValue name value
    | none => pure ()
  | .options before => modify fun p => { p with options := before }

/-- Starts to keep things. -/
def openLocals : Run Unit :=
  modify fun p => { p with locals := [] :: p.locals }

/-- Brings back what was kept since then. -/
def closeLocals : Run Unit := do
  match (← get).locals with
  | frame :: frames => do
    modify fun p => { p with locals := frames }
    frame.forM bringBack
  | [] => pure ()

/-- The variables that programs are started with. -/
def exportedOf (p : Process) : List (Text × Text) :=
  p.bindings.filterMap fun (name, v) =>
    if v.isExported then v.value.map fun value => (name, value) else none

/-- The variables that programs are started with. -/
def exported : Run (List (Text × Text)) := do
  pure (exportedOf (← get))

end JarLens.Shell.Run
