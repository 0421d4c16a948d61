import JarLens.Shell.Script

/-!
# Redirecting descriptors

A redirection lets a descriptor lead to a file, to where another one leads, to nowhere, or to a text
in the script. The words in redirections are expanded before any of them is made.
-/

namespace JarLens.Shell

/-- A redirection whose word is expanded. -/
inductive Redirect where
  | file (descriptor : Nat) (mode : OpenMode) (path : Text)
  | duplicate (descriptor : Nat) (source : Option Nat)
  | document (descriptor : Nat) (w : Word)

/-- The descriptor that is redirected. -/
def Redirect.descriptor : Redirect → Nat
  | .file descriptor _ _ => descriptor
  | .duplicate descriptor _ => descriptor
  | .document descriptor _ => descriptor

/-- A redirection with its word expanded. -/
def expandRedirection (runner : Runner) : Redirection → Run Redirect
  | .file descriptor mode w => do
    pure (.file descriptor mode (← expandText (output runner) w))
  | .duplicate descriptor source => pure (.duplicate descriptor source)
  | .duplicateTold descriptor w => do
    match ← expandText (output runner) w with
    | ['-'] => pure (.duplicate descriptor none)
    | [d] =>
      if d.isDigit then pure (.duplicate descriptor (some (d.toNat - '0'.toNat)))
      else refuse
    | _ => refuse
  | .document descriptor number => do
    pure (.document descriptor (((← get).documents[number]?).getD []))
where
  /-- Fails because a text tells no descriptor. -/
  refuse : Run Redirect := do
    modify fun p => { p with line := p.readLine }
    Run.fail "Syntax error: Bad fd number".toList

/-- What is told of a file that cannot be opened, which might have been made then. -/
def openFaultText (creates : Bool) (path : Text) (fault : PathFault) : Text :=
  let isAbsence := fault == .missing || fault == .notFolder
  let (verb, absence) := if creates then ("create", "Directory nonexistent")
    else ("open", "No such file")
  "cannot ".toList ++ verb.toList ++ ' ' :: path ++ ": ".toList ++
    if isAbsence then absence.toList else Utility.faultText fault

/-- Whether a file is made where a redirection finds none. Where files are kept, only what is there
already and is no file is opened without that. -/
def createsFile (p : Process) (mode : OpenMode) (path : Text) : Bool :=
  match mode with
  | .read => false
  | .write => !(p.options.any (· == 'C') && (Run.find p path).toOption.any (!·.isFile))
  | _ => true

/-- Makes a redirection. One that is to be taken back later takes the descriptor away first, which
shows where it then leads nowhere. -/
def makeRedirection (runner : Runner) (isPassing : Bool) : Redirect → Run Unit
  | .file descriptor mode path => do
    match ← Run.openFile mode path with
    | .ok k => Run.redirect descriptor (some k)
    | .error fault => Run.fail (openFaultText (createsFile (← get) mode path) path fault)
  | .duplicate descriptor none => Run.redirect descriptor none
  | .duplicate descriptor (some source) => do
    match (← get).descriptors.lookup source with
    | some k => Run.redirect descriptor (some k)
    | none =>
      if source != descriptor then
        if isPassing then Run.redirect descriptor none
        Run.fail (Text.ofNat source ++ ": Bad file descriptor".toList)
  | .document descriptor w => do
    let t ← expandDocument (output runner) w
    Run.redirect descriptor (some (← Run.addChannel (.text (toBytes t) 0)))

/-- Makes redirections in order that are to be taken back, and tells whether all could be made. -/
def makeRedirections (runner : Runner) (redirects : List Redirect) : Run Bool :=
  tryCatch (do
      redirects.forM (makeRedirection runner true)
      pure true)
    fun
      | .fault => pure false
      | ending => throw ending

end JarLens.Shell
