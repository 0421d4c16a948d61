import JarLens.Shell.Builtin.Basic
import JarLens.Shell.Rights

/-!
# Builtins for the folder

Going to a folder, telling which one it is, and the permission bits that new files do not get. The
shell keeps the path by which it came to its folder: `..` takes back a part of that path, whatever
links are on it.
-/

namespace JarLens.Shell.Builtin

/-- What is told where the files have no path for the folder. -/
def folderLost : Text :=
  "getcwd() failed: No such file or directory".toList

/-- A path with every `..` taking back the part before it. -/
def withoutSteps (path : PathName) : PathName :=
  { path with
    parts := path.parts.foldl (fun parts part =>
      if part = ['.', '.'] then parts.dropLast else parts ++ [part]) [] }

/-- The path of the folder that the process is in, as the files tell it. It is empty for a folder
that was removed. -/
def truePath (p : Process) : Text :=
  match p.folder with
  | some place => if place.getLast? = some [] then [] else encoded place.toText
  | none => []

/-- The path that the files tell for the folder that the process is in. They are asked once for each
folder, and a complaint is made if they tell none. -/
def findTruePath : Run Text := do
  let p ← get
  match p.truePath with
  | some path => pure path
  | none => do
    let path := truePath p
    if path.isEmpty then Run.warn folderLost
    else modify fun p => { p with truePath := some path }
    pure path

/-- Goes to a folder, and keeps the path by which it does, or the one that the files tell. Variables
tell that path, and the one before. -/
def enter (place : Place) (path : Option Text) : Run Unit := do
  let old := (← get).folderPath
  Run.assignMarked true "OLDPWD".toList old
  modify fun p =>
    { p with folder := some place, folderNumber := p.files.number? place, truePath := none }
  let path ← match path with
    | some path => pure path
    | none => findTruePath
  modify fun p => { p with folderPath := path }
  Run.assignMarked true "PWD".toList path

/-- Goes to a folder, if the path leads to one. A path that is `isTrue` is the one that the files
tell. -/
def goTo (isTrue : Bool) (path : Text) : Run Bool := do
  let p ← get
  let kept :=
    if isTrue || path.head? != some '/' && p.folderPath.isEmpty then none
    else some (withoutSteps (PathName.ofText p.folderPath ++ PathName.ofText path)).toText
  match Run.walk p true (kept.getD path) with
  | .ok ⟨place, some node⟩ =>
    if node.isSearchable then do
      enter place kept
      pure true
    else pure false
  | _ => pure false

/-- Whether a path starts with a dot or two as its first part, and is not searched for. -/
def startsWithDots (path : Text) : Bool :=
  let first := path.takeWhile (· != '/')
  first == ['.'] || first == ['.', '.']

/-- Goes to the first folder of a search path that has the one that is looked for. Tells whether
there is one, and whether it was not found right here. -/
def goAlong (isTrue : Bool) (path : Text) : List Text → Run (Option Bool)
  | [] => pure none
  | start :: starts => do
    let candidate := if start.isEmpty then path
      else if start.getLast? == some '/' then start ++ path else start ++ '/' :: path
    match Run.find (← get) candidate with
    | .ok (.folder _) => do
      if ← goTo isTrue candidate then pure (some !start.isEmpty) else pure none
    | _ => goAlong isTrue path starts

/-- Goes to another folder, the one before for a dash. -/
def cd : Builtin := fun arguments => do
  let (given, operands) ← options "LP" arguments
  let isTrue := (given.getLast?.map (·.1)) == some 'P'
  let isBack := operands.head? == some ['-']
  let told ← match operands with
    | [] => Run.value? "HOME".toList
    | path :: _ => if isBack then Run.value? "OLDPWD".toList else pure (some path)
  let path := told.getD []
  let start := if path.isEmpty then ['.'] else path
  let found ←
    if path.head? == some '/' || startsWithDots path then do
      pure (if ← goTo isTrue path then some false else none)
    else
      let search := Text.splitOn ':' ((← Run.value? "CDPATH".toList).getD [])
      match ← goAlong isTrue start search with
      | some isElsewhere => pure (some isElsewhere)
      | none => do pure (if ← goTo isTrue start then some false else none)
  match found with
  | some isElsewhere => if isElsewhere || isBack then printLine (← get).folderPath else pure 0
  | none => Run.fail ("can\x27t cd to ".toList ++ path)

/-- Prints the folder that the process is in. -/
def pwd : Builtin := fun arguments => do
  let (given, _) ← options "LP" arguments
  if (given.getLast?.map (·.1)) == some 'P' then printLine (← findTruePath)
  else printLine (← get).folderPath

/-- Tells or sets the permission bits that new files do not get. -/
def umask : Builtin := fun arguments => do
  let (given, operands) ← options "S" arguments
  let mask := (← get).mask
  match operands with
  | [] =>
    let digits := Nat.toDigits 8 mask
    printLine (if isGiven 'S' given then Rights.toText (0o777 ^^^ mask)
      else List.replicate (4 - digits.length) '0' ++ digits)
  | t :: _ =>
    if (t.head?).any Char.isDigit then
      match Text.number? 8 t with
      | some mask => do modify fun p => { p with mask := mask &&& 0o777 }; pure 0
      | none => Run.refuseNumber t
    else
      match Rights.allowedAfter (0o777 ^^^ mask) t with
      | some bits => do modify fun p => { p with mask := 0o777 ^^^ (bits &&& 0o777) }; pure 0
      | none => Run.fail ("Illegal mode: ".toList ++ t)

end JarLens.Shell.Builtin
