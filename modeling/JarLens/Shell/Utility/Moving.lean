import JarLens.Shell.Utility.Copying

/-!
# Moving

What has one name gets another one, in place of what has that name. Where there is something already
it decides whether that may be, and in the end the system does.
-/

namespace JarLens.Shell.Utility

/-- How things are moved. -/
structure MoveStyle where
  /-- Whether it is asked before something is replaced. -/
  asks : Bool
  /-- Whether nothing is replaced. -/
  keepsOld : Bool
  /-- Whether nothing is replaced that is as new. -/
  isUpdate : Bool
  isVerbose : Bool

/-- How things are moved by the options that are given. -/
def MoveStyle.ofArguments (a : Arguments) : MoveStyle :=
  let last := ((a.options.filter fun (c, _) => c == 'f' || c == 'i' || c == 'n').getLast?).map (·.1)
  { asks := last == some 'i'
    keepsOld := last == some 'n'
    isUpdate := a.has 'u' && last != some 'n'
    isVerbose := a.has 'v' }

/-- What was moved so far, in a row of operands: the paths where it came to lie, with its
numbers. -/
abbrev Moving := StateT (List (Text × Nat)) Run

section Moving

variable (s : MoveStyle) (name : Text)

/-- Complains, and fails. -/
def failMove (complaint : Message) : Moving Nat := do
  refuse name complaint

/-- The number of what lies at a place. -/
def movingNumber (place : Place) : Moving Nat := do
  pure (((← getThe Process).files.number? place).getD 0)

/-- Whether what lies at one path may take the name of what lies at another: they are not the same,
and a link does not replace what it leads to. -/
def mayReplace (source path : Text) (new old : Place × Node) : Moving Bool := do
  let number ← movingNumber old.1
  let isTwin := (← movingNumber new.1) == number
  match new.2, old.2 with
  | .link _, .link _ => do pure (!isTwin && !(← isSameEntry source path))
  | _, .link _ => pure true
  | .link _, _ => do
    let files := (← getThe Process).files
    match ← look true source with
    | .error _ => pure true
    | .ok (goal, _) =>
      if old.2.isFolder || 1 < files.nameCount old.1 then do
        pure !(← isSameEntry goal.toText path)
      else do pure ((← movingNumber goal) != number)
  | _, _ => pure !isTwin

/-- Takes note of something that has its new name. -/
def finishMove (isLast : Bool) (source path : Text) : Moving Nat := do
  let status ← if s.isVerbose then
      printLine name ("renamed ".toList ++ inQuotes source ++ " -> ".toList ++ inQuotes path)
    else pure 0
  if !isLast then
    if let .ok (place, _) := ← look false path then
      let number ← movingNumber place
      modify fun results => (path, number) :: results
  pure status

/-- Complains about something that does not get its new name. -/
def refuseMove (source path : Text) : PathFault → Moving Nat
  | .invalid =>
    failMove name ("cannot move ".toList ++ inQuotes source ++
      " to a subdirectory of itself, ".toList ++ inQuotes path)
  | fault =>
    failMove name ("cannot move ".toList ++ inQuotes source ++ " to ".toList ++ inQuotes path ++
      ": ".toList ++ faultText fault)

/-- Gives something another name, whatever has it. -/
def renameOver (isLast : Bool) (source path : Text) : Moving Nat := do
  let p ← getThe Process
  match p.files.rename false (start p) source path with
  | .error fault => refuseMove name source path fault
  | .ok files => do
    set { p with files }
    finishMove s name isLast source path

/-- Gives something the name of what is there already, if it may have it. -/
def replaceOld (isLast : Bool) (source path : Text) (new old : Place × Node) : Moving Nat := do
  let files := (← getThe Process).files
  if !(← mayReplace source path new old) then
    failMove name (inQuotes source ++ " and ".toList ++ inQuotes path ++
      " are the same file".toList)
  else if s.isUpdate && !new.2.isFolder && files.changedAt new.1 ≤ files.changedAt old.1 then
    pure 0
  else if s.keepsOld then pure 0
  else if !(← (if s.asks then ask name (overwriteQuestion true path old.2) else pure true)) then
    pure 0
  else if new.2.isFolder && !old.2.isFolder then
    failMove name ("cannot overwrite non-directory ".toList ++ inQuotes path ++
      " with directory ".toList ++ inQuotes source)
  else if !old.2.isFolder && (← get).contains (path, ← movingNumber old.1) then
    failMove name ("will not overwrite just-created ".toList ++ inQuotes path ++ " with ".toList ++
      inQuotes source)
  else if old.2.isFolder && !new.2.isFolder then
    failMove name ("cannot overwrite directory ".toList ++ inQuotes path ++
      " with non-directory".toList)
  else renameOver s name isLast source path

/-- Moves what lies at a path to another path. The paths as they are given are tried first. -/
def moveThing (isLast : Bool) (given : Text × Text) (source path : Text) : Moving Nat := do
  let p ← getThe Process
  match p.files.rename true (start p) given.1 given.2 with
  | .ok files => do
    set { p with files }
    finishMove s name isLast source path
  | .error fault =>
    if fault == .exists && s.keepsOld then pure 0
    else
      match ← look false source, ← look false path with
      | .error fault, _ => failMove name (refusal "cannot stat".toList source fault)
      | .ok _, .error .missing =>
        if fault == .exists then renameOver s name isLast source path
        else refuseMove name source path fault
      | .ok _, .error fault => failMove name (refusal "cannot stat".toList path fault)
      | .ok new, .ok old => replaceOld s name isLast source path new old

/-- Moves operands into a folder. -/
def moveInside (folder : Text) : List Text → Moving Nat
  | [] => pure 0
  | source :: sources => do
    let path := insidePath folder source
    let status ← moveThing s name sources.isEmpty (source, path) source path
    let others ← moveInside folder sources
    pure (max status others)

end Moving

/-- Moves files and folders. -/
def mv : Utility :=
  let table : OptionTable :=
    ⟨"bfint:TuvS:Z\x01", [("backup", 'b'), ("context", 'Z'), ("force", 'f'), ("interactive", 'i'),
      ("no-clobber", 'n'), ("no-target-directory", 'T'), ("strip-trailing-slashes", '\x01'),
      ("suffix", 'S'), ("target-directory", 't'), ("update", 'u'), ("verbose", 'v'),
      ("help", '\x00'), ("version", '\x00')], "b"⟩
  ofTable table fun name a => do
    let s := MoveStyle.ofArguments a
    let stripped := fun (path : Text) =>
      if a.has '\x01' then Files.dropFinalSlashes path else path
    match ← copyTargets a with
    | .refused true complaint => refuseUse name complaint
    | .refused false complaint => refuse name complaint
    | .exact source path => do
      let (goal, goalPath) := (stripped source, stripped path)
      let given := if a.has 'T' then (goal, goalPath) else (source, path)
      pure (← (moveThing s name true given goal goalPath).run []).1
    | .inside folder sources => do
      pure (← (moveInside s name folder (sources.map stripped)).run []).1

end JarLens.Shell.Utility
