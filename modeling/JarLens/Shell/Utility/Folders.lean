import JarLens.Shell.Builtin.Folder
import JarLens.Shell.Utility.Basic
import JarLens.Shell.Utility.Moments

/-!
# Utilities that make

Folders and empty files: the commands that put something new at a path without taking it from
another one.
-/

namespace JarLens.Shell.Utility

/-- The beginnings of a path that end with one of its parts, and the path itself for the last. -/
def pathsOnTheWay (path : Text) : List Text :=
  let ends := (List.range path.length).filter fun k =>
    (path[k]?).any (· != '/') && (path[k + 1]?).all (· == '/')
  if ends.isEmpty then [] else (ends.dropLast.map fun k => path.take (k + 1)) ++ [path]

/-- What a folder that cannot be made is told as. -/
def folderRefusal (path : Text) (fault : PathFault) : Message :=
  "cannot create directory ".toList ++ inMarks path ++ ": ".toList ++ faultText fault

/-- The permission bits that the user needs for going on in a folder on the way to another one. -/
def wayBits : Nat := 0o300

/-- The files with a folder at every part of a path that has none yet, and the parts that were made.
The last one gets the permission bits `mode`, those on the way what the mask leaves. -/
def makeWay (mask mode : Nat) (files : Files) (folder : Place) :
    List Text → Except Message (Files × List Text)
  | [] => .ok (files, [])
  | part :: parts => do
    let refused := folderRefusal part
    match files.walk true folder (Files.dropFinalSlashes part) with
    | .ok ⟨_, some node⟩ =>
      if !node.isFolder then .error (refused (if parts.isEmpty then .exists else .notFolder))
      else if !parts.isEmpty && !node.isSearchable then .error (refused .denied)
      else makeWay mask mode files folder parts
    | .error fault => .error (refused fault)
    | .ok ⟨_, none⟩ =>
      let bits := if parts.isEmpty then mode else 0o777 &&& (0o777 ^^^ mask) ||| wayBits
      match files.makeFolder folder part bits with
      | .ok files => do
        let (files, made) ← makeWay mask mode files folder parts
        pure (files, part :: made)
      | .error fault => .error (refused fault)

/-- Makes folders, with the option for it all on the way too. -/
def mkdir : Utility :=
  let table : OptionTable :=
    ⟨"pvm:Z", [("context", 'Z'), ("mode", 'm'), ("parents", 'p'), ("verbose", 'v'),
      ("help", '\x00'), ("version", '\x00')], "Z"⟩
  ofTable table fun name a => do
    let told := ((a.options.filter (·.1 == 'm')).getLast?).map (·.2)
    let mask := (← get).mask
    if a.operands.isEmpty then refuseUse name "missing operand".toList
    else
      match told.map Rights.changesOf with
      | some none => refuse name ("invalid mode ".toList ++ inMarks (told.getD []))
      | none => makeAll name a mask (0o777 &&& (0o777 ^^^ mask))
      | some (some changes) => makeAll name a mask (Rights.changedBits changes true mask 0o777)
where
  /-- Makes all folders that are told. -/
  makeAll (name : Text) (a : Arguments) (mask mode : Nat) : Run Nat :=
    forEach (fun path => do
      let p ← get
      let made : Except Message (Files × List Text) :=
        if a.has 'p' then
          if path.isEmpty then .error (folderRefusal path .missing)
          else makeWay mask mode p.files (start p) (pathsOnTheWay path)
        else
          match p.files.makeFolder (start p) path mode with
          | .ok files => .ok (files, [path])
          | .error fault => .error (folderRefusal path fault)
      match made with
      | .error complaint => refuse name complaint
      | .ok (files, made) => do
        set { p with files }
        if a.has 'v' then
          forEach (fun path =>
            printLine name (decoded name ++ ": created directory ".toList ++ inQuotes path)) made
        else pure 0) a.operands

/-- The files with an empty file at a path, where nothing lies. -/
def makeFile (mask : Nat) (files : Files) (folder : Place) (path : Text) : Except Message Files :=
  let refused := refusal "cannot touch".toList path
  match files.walk true folder path with
  | .ok ⟨place, _⟩ =>
    if files.mayChange place.dropLast then
      .ok (files.put place (.file .empty (0o666 &&& (0o777 ^^^ mask))))
    else .error (refused .denied)
  | .error fault =>
    if path.getLast? == some '/' then
      match files.walk true folder (Files.dropFinalSlashes path) with
      | .ok _ => .error (refusal "setting times of".toList path fault)
      | .error fault => .error (refused fault)
    else .error (refused fault)

/-- The moment that the options of `touch` tell, none if they tell none. -/
def touchMoment? (name : Text) (a : Arguments) : Run (Except Nat (Option Nat)) := do
  let p ← get
  match (a.options.filter fun (c, _) => c == 'r' || c == 'd' || c == 't').getLast? with
  | none => pure (.ok none)
  | some ('r', path) =>
    match p.files.walk true (start p) path with
    | .ok ⟨place, some _⟩ => pure (.ok (some (p.files.changedAt place)))
    | .ok ⟨_, none⟩ =>
      .error <$> refuse name (refusal "failed to get attributes of".toList path .missing)
    | .error fault =>
      .error <$> refuse name (refusal "failed to get attributes of".toList path fault)
  | some (c, t) =>
    match if c == 't' then momentOfDigits? p.now t else momentOfWords? p.now t with
    | some moment => pure (.ok (some moment))
    | none => .error <$> refuse name ("invalid date format ".toList ++ inMarks t)

/-- Makes empty files where there are none, and changes the moments of the others. -/
def touch : Utility :=
  let table : OptionTable := ⟨"acd:fhmr:t:", [("time", '\x00'), ("no-create", 'c'),
    ("date", 'd'), ("reference", 'r'), ("no-dereference", 'h'), ("help", '\x00'),
    ("version", '\x00')], ""⟩
  ofTable table fun name a => do
    match ← touchMoment? name a with
    | .error status => pure status
    | .ok moment =>
      if a.operands.isEmpty then refuseUse name "missing file operand".toList
      else
        let mask := (← get).mask
        let stamp := fun (files : Files) (place : Place) =>
          if a.has 'a' && !a.has 'm' then files
          else
            match moment with
            | some moment => files.withChange place moment
            | none => files.touch place
        forEach (fun path => change name fun files folder =>
          match files.walk (!a.has 'h') folder path with
          | .ok ⟨place, some _⟩ => .ok (stamp files place)
          | .ok ⟨place, none⟩ =>
            if a.has 'c' then .ok files
            else (makeFile mask files folder path).map (stamp · place)
          | .error fault =>
            if !a.has 'c' then makeFile mask files folder path
            else if fault == .missing then .ok files
            else .error (refusal "setting times of".toList path fault))
          a.operands

end JarLens.Shell.Utility
