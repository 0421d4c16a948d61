import JarLens.Shell.Rights
import JarLens.Shell.Utility.Targets

/-!
# Changing permission bits

Permission bits are changed by texts, of the things that paths lead to and with the option for it of
all that folders hold. A folder is changed before what it holds, so that its new bits decide whether
the rest can be reached. A text that is given as an option, such as `-w`, is told what the mask of
the process kept it from doing.
-/

namespace JarLens.Shell.Utility

/-- How permission bits are changed. -/
structure RightsStyle where
  changes : List Rights.Change
  mask : Nat
  isRecursive : Bool
  isQuiet : Bool
  /-- Whether all is told, or only what changed. -/
  tellsAll : Bool
  tellsChanges : Bool
  /-- Whether it is an error if the mask lets more bits stay than the text tells. -/
  warns : Bool

/-- Whether an argument is a change of permission bits that looks like options: it has a letter of a
change where those of the options end. -/
def isRightsOption (argument : Text) : Bool :=
  match argument with
  | '-' :: letters =>
    let c? := (letters.dropWhile fun c => "Rcfv".toList.contains c).head?
    c?.any fun c => "rwxXstugoa,+=".toList.contains c || ('0' ≤ c && c ≤ '7')
  | _ => false

/-- The arguments that are changes and look like options, and the others. -/
def splitRightsOptions (arguments : List Text) : List Text × List Text :=
  let before := arguments.takeWhile (· != ['-', '-'])
  let after := arguments.drop before.length
  let flags := fun (t : Text) => '-' :: (t.drop 1).takeWhile fun c => "Rcfv".toList.contains c
  (before.filter isRightsOption,
    (before.map fun t => if isRightsOption t then flags t else t).filter (· != ['-']) ++ after)

section Changing

variable (s : RightsStyle) (name : Text)

/-- Complains, unless that is not wanted, and tells that something could not be reached. -/
def failRights (path : Text) (complaint : Message) : Run Nat := do
  if !s.isQuiet then
    let _ ← refuse name complaint
  if s.tellsAll then
    let _ ← printLine name (inQuotes path ++ " could not be accessed".toList)
  pure 1

/-- Tells what became of permission bits. -/
def tellRights (path : Text) (old new : Nat) : Run Nat :=
  let shown := fun (bits : Nat) =>
    Rights.inDigits bits ++ " (".toList ++ Rights.inRow bits ++ ")".toList
  if old == new then
    if s.tellsAll then
      printLine name ("mode of ".toList ++ inQuotes path ++ " retained as ".toList ++ shown new)
    else pure 0
  else if s.tellsAll || s.tellsChanges then
    printLine name ("mode of ".toList ++ inQuotes path ++ " changed from ".toList ++ shown old ++
      " to ".toList ++ shown new)
  else pure 0

/-- Changes the bits of a file or folder, and gives the new ones. -/
def changeBits (path : Text) (place : Place) (node : Node) (old : Nat) : Run (Nat × Nat) := do
  let new := Rights.changedBits s.changes node.isFolder s.mask old
  changeFiles (·.withNode place (match node with
    | .file content _ => .file content new
    | .folder _ => .folder new
    | other => other))
  let status ← tellRights s name path old new
  let expected := Rights.changedBits s.changes node.isFolder 0 old
  if s.warns && Rights.without new expected != 0 then
    let status ← refuse name (nameShown path ++ ": new permissions are ".toList ++
      Rights.inRow new ++ ", not ".toList ++ Rights.inRow expected)
    pure (status, new)
  else pure (status, new)

/-- Changes the bits of what a path leads to, and of what it holds. Only an operand can be a
link. -/
def changeRights : (steps : Nat) → (isOperand : Bool) → (path : Text) → Run Nat
  | 0, _, path => failRights s name path (refusal "cannot access".toList path .tooLong)
  | steps + 1, isOperand, path => do
    match ← look isOperand path with
    | .error fault =>
      match fault, ← look false path with
      | .missing, .ok _ =>
        failRights s name path ("cannot operate on dangling symlink ".toList ++ inQuotes path)
      | _, _ => failRights s name path (refusal "cannot access".toList path fault)
    | .ok (place, .file content old) => do
      pure (← changeBits s name path place (.file content old) old).1
    | .ok (place, .folder old) => do
      let (status, new) ← changeBits s name path place (.folder old) old
      if !s.isRecursive then pure status
      else if !isReadable new then do
        failRights s name path (refusal "cannot read directory".toList path .denied)
      else do
        let names := (← get).files.namesIn place
        let others ← changeHeld steps path names
        pure (max status others)
    | .ok (_, .link _) =>
      if s.tellsAll then
        printLine name ("neither symbolic link ".toList ++ inQuotes path ++
          " nor referent has been changed".toList)
      else pure 0
    | .ok (_, .device _) =>
      refuse name ("changing permissions of ".toList ++ inQuotes path ++
        ": Operation not permitted".toList)
  termination_by steps => (steps, 0)
where
  /-- Changes the bits of what a folder holds. -/
  changeHeld (steps : Nat) (folder : Text) : List Text → Run Nat
    | [] => pure 0
    | entry :: entries => do
      let status ← changeRights steps false (inFolder folder entry)
      let others ← changeHeld steps folder entries
      pure (max status others)
  termination_by names => (steps, names.length + 1)

end Changing

/-- What changes permission bits, and the paths of the things whose bits are changed. -/
def rightsOperands (options : List Text) (a : Arguments) (files : Files) (here : Place) :
    Except Message (Bool × Option (List Rights.Change) × Text × List Text) :=
  let reference := ((a.options.filter (·.1 == '\x01')).getLast?).map (·.2)
  match reference, options, a.operands with
  | some _, _ :: _, _ => .error "cannot combine mode and --reference options".toList
  | some _, [], [] => .error "missing operand".toList
  | some path, [], paths =>
    let bits := match files.find here path with
      | .ok (.file _ mode) | .ok (.folder mode) => some mode
      | _ => none
    .ok (false, bits.map fun bits => [⟨'=', Rights.allBits, .bits bits, Rights.allBits⟩], path,
      paths)
  | none, _ :: _, [] => .error "missing operand".toList
  | none, _ :: _, paths =>
    let mode := Text.join [','] options
    .ok (true, Rights.changesOf mode, mode, paths)
  | none, [], [] => .error "missing operand".toList
  | none, [], [mode] => .error ("missing operand after ".toList ++ inMarks mode)
  | none, [], mode :: paths => .ok (false, Rights.changesOf mode, mode, paths)

/-- Changes permission bits. -/
def chmod : Utility := fun name arguments =>
  let table : OptionTable :=
    ⟨"Rcfv\x01:\x02", [("changes", 'c'), ("recursive", 'R'), ("no-preserve-root", '\x02'),
      ("preserve-root", '\x02'), ("quiet", 'f'), ("reference", '\x01'), ("silent", 'f'),
      ("verbose", 'v'), ("help", '\x00'), ("version", '\x00')], ""⟩
  let (options, others) := splitRightsOptions (arguments.map decoded)
  ofTable table (fun name a => do
    let p ← get
    match rightsOperands options a p.files (start p) with
    | .error complaint => refuseUse name complaint
    | .ok (_, none, told, _) =>
      if a.has '\x01' then
        refuse name (refusal "failed to get attributes of".toList told .missing)
      else refuseUse name ("invalid mode: ".toList ++ inMarks told)
    | .ok (warns, some changes, _, paths) =>
      let verbosity := ((a.options.filter fun (c, _) => c == 'c' || c == 'v').getLast?).map (·.1)
      let s : RightsStyle :=
        { changes, mask := p.mask, isRecursive := a.has 'R', isQuiet := a.has 'f', warns
          tellsAll := verbosity == some 'v', tellsChanges := verbosity == some 'c' }
      forEach (changeRights s name folderDepth true ∘ visitedPath) paths) name (others.map encoded)

end JarLens.Shell.Utility
