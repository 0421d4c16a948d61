import JarLens.Shell.Utility.Linking

/-!
# Removing

Files are removed one by one, and folders after all that they hold. What is kept, because the answer
to a question was no or because it cannot be removed, keeps the folders above it without a further
word.
-/

namespace JarLens.Shell.Utility

/-! ## Files and folders -/

/-- When things are removed. -/
structure RemovalStyle where
  isRecursive : Bool := false
  /-- Whether empty folders are removed. -/
  takesEmpty : Bool := false
  /-- Whether nothing is said of what is not there. -/
  ignoresMissing : Bool := false
  /-- Whether it is asked about everything. -/
  asksAlways : Bool := false
  /-- Whether it is asked once about all, if that is much. -/
  asksOnce : Bool := false
  isVerbose : Bool := false

/-- When it is asked, by the beginning of a word for it: always, once or never. -/
def askingOf (word : Text) : Option (Bool × Bool) :=
  if word.isEmpty then some (true, false)
  else
    ([("never", false, false), ("no", false, false), ("none", false, false),
      ("once", false, true), ("always", true, false), ("yes", true, false)].find?
        fun (known, _) => Text.startsWith known.toList word).map (·.2)

/-- The style after one more option. -/
def RemovalStyle.add (s : RemovalStyle) (option : Char × Text) : RemovalStyle :=
  match option with
  | ('f', _) => { s with ignoresMissing := true, asksAlways := false, asksOnce := false }
  | ('i', _) => { s with ignoresMissing := false, asksAlways := true, asksOnce := false }
  | ('I', _) => { s with ignoresMissing := false, asksAlways := false, asksOnce := true }
  | ('d', _) => { s with takesEmpty := true }
  | ('v', _) => { s with isVerbose := true }
  | ('\x01', word) =>
    match askingOf word with
    | some (false, false) => { s with asksAlways := false, asksOnce := false }
    | some (asksAlways, asksOnce) => { s with ignoresMissing := false, asksAlways, asksOnce }
    | none => s
  | (c, _) => if c == 'r' || c == 'R' then { s with isRecursive := true } else s

/-- What a thing is called in a question. -/
def kindShown : Node → String
  | .file content _ => if content.isEmpty then "regular empty file" else "regular file"
  | .folder _ => "directory"
  | .link _ => "symbolic link"
  | .device _ => "character special file"

/-- What became of something that was to be removed. -/
inductive Removal where
  | done
  /-- It was kept because the answer was no. -/
  | kept
  | failed
  deriving DecidableEq

section Removing

variable (s : RemovalStyle) (name : Text)

/-- Complains about something that cannot be removed, unless it does not matter that it is not
there. -/
def failRemoval (path : Text) (fault : PathFault) : Run Removal := do
  if s.ignoresMissing && (fault == .missing || fault == .notFolder) then pure .done
  else
    let _ ← refuse name (refusal "cannot remove".toList path fault)
    pure .failed

/-- What is said in a question of something that is there, with a warning if its permission bits do
not let it be written. -/
def shownInQuestion (node : Node) (words : String) : Message :=
  let isProtected := match node with
    | .file _ mode | .folder mode => !isWritable mode
    | _ => false
  ((if isProtected then "write-protected " else "") ++ words ++ " ").toList

/-- Asks whether something may be removed, if it is asked about everything. -/
def mayRemove (path : Text) (node : Node) : Run Bool :=
  if s.asksAlways then
    ask name ("remove ".toList ++ shownInQuestion node (kindShown node) ++ inQuotes path ++
      "? ".toList)
  else pure true

/-- Removes something that holds nothing. -/
def removeSingle (path : Text) (isFolder : Bool) : Run Removal := do
  let p ← get
  let removed := if isFolder then p.files.removeFolder (start p) path
    else p.files.removeFile (start p) path
  match removed with
  | .ok files => do
    set { p with files }
    if s.isVerbose then
      let _ ← printLine name ((if isFolder then "removed directory " else "removed ").toList ++
        inQuotes path)
    pure .done
  | .error fault => failRemoval s name path fault

/-- Removes what lies at a path, a folder after all that it holds. -/
def removeThing : (steps : Nat) → (isOperand : Bool) → (path : Text) → Run Removal
  | 0, _, path => failRemoval s name path .tooLong
  | steps + 1, isOperand, path => do
    match ← look false path with
    | .error _ => removeSingle s name path false
    | .ok (place, .folder mode) => do
      let names := (← get).files.namesIn place
      let isEmpty := isReadable mode && names.isEmpty
      if !s.isRecursive && !(s.takesEmpty && isEmpty) then
        failRemoval s name path (if s.takesEmpty then .notEmpty else .isFolder)
      else if isOperand && (lastName path == ['.'] || lastName path == ['.', '.']) then do
        let words := "refusing to remove \x27.\x27 or \x27..\x27 directory: skipping "
        let _ ← refuse name (words.toList ++ inQuotes path)
        pure .failed
      else if isOperand && place.isEmpty then refuseRoot path
      else if isEmpty then removeEmptied path (.folder mode)
      else do
        let question := "descend into ".toList ++
          shownInQuestion (.folder mode) "directory" ++ inQuotes path ++ "? ".toList
        if ← (if s.asksAlways then ask name question else pure true) then
          match ← if isReadable mode then removeHeld steps path names else pure .done with
          | .done => removeEmptied path (.folder mode)
          | outcome => pure outcome
        else pure .kept
    | .ok (_, node) =>
      if ← mayRemove s name path node then removeSingle s name path false else pure .kept
  termination_by steps => (steps, 0)
where
  /-- Removes a folder that holds nothing any more, as far as that is known. -/
  removeEmptied (path : Text) (node : Node) : Run Removal := do
    if !(← mayRemove s name path node) then pure .kept
    else
      let p ← get
      match node.isReadable, p.files.removeFolder (start p) path with
      | false, .error .notEmpty => failRemoval s name path .denied
      | _, _ => removeSingle s name path true
  /-- Refuses to remove everything. -/
  refuseRoot (path : Text) : Run Removal := do
    let shown := if path == ['/'] then inQuotes path
      else inQuotes path ++ " (same as ".toList ++ inQuotes ['/'] ++ ")".toList
    let _ ← refuse name ("it is dangerous to operate recursively on ".toList ++ shown)
    let _ ← refuse name "use --no-preserve-root to override this failsafe".toList
    pure .failed
  /-- Removes what a folder holds. -/
  removeHeld (steps : Nat) (folder : Text) : List Text → Run Removal
    | [] => pure .done
    | entry :: entries => do
      let outcome ← removeThing steps false (inFolder folder entry)
      match ← removeHeld steps folder entries with
      | .done => pure outcome
      | .kept => pure (if outcome == .failed then .failed else .kept)
      | .failed => pure .failed
  termination_by names => (steps, names.length + 1)

end Removing

/-- Removes files, or folders with the option for it. -/
def rm : Utility :=
  let table : OptionTable :=
    ⟨"dfiIrRv\x01\x02", [("force", 'f'), ("interactive", '\x01'), ("one-file-system", '\x02'),
      ("no-preserve-root", '\x02'), ("preserve-root", '\x02'), ("recursive", 'r'), ("dir", 'd'),
      ("verbose", 'v'), ("help", '\x00'), ("version", '\x00')], "\x01\x02"⟩
  ofTable table fun name a => do
    let s := a.options.foldl RemovalStyle.add {}
    let count := a.operands.length
    if a.operands.isEmpty then
      if s.ignoresMissing then pure 0 else refuseUse name "missing operand".toList
    else
      let question := "remove ".toList ++ Text.ofNat count ++
        (if count = 1 then " argument" else " arguments").toList ++
        (if s.isRecursive then " recursively? " else "? ").toList
      let asks := s.asksOnce && (s.isRecursive || 3 < count)
      if ← (if asks then ask name question else pure true) then
        forEach (fun path => do
          let outcome ← removeThing s name folderDepth true (visitedPath path)
          pure (if outcome == .failed then 1 else 0)) a.operands
      else pure 0

/-! ## Empty folders -/

/-- What is told of a folder that cannot be removed. -/
def folderKept (words : String) (path : Text) (fault : PathFault) : Message :=
  refusal ("failed to remove" ++ words).toList path fault

/-- The path of the folder that a path leads into, with the slash after it. None if there is none in
the path. -/
def pathAbove (path : Text) : Option Text :=
  let above := path.reverse.dropWhile (· != '/')
  match above with
  | [] => none
  | _ =>
    match above.dropWhile (· == '/') with
    | [] => some ['/']
    | t => some (t.reverse ++ ['/'])

/-- Removes empty folders, and with the option for it those above that are empty then. -/
def rmdir : Utility :=
  let table : OptionTable := ⟨"pv\x01", [("ignore-fail-on-non-empty", '\x01'), ("path", 'p'),
    ("parents", 'p'), ("verbose", 'v'), ("help", '\x00'), ("version", '\x00')], ""⟩
  ofTable table fun name a => do
    if a.operands.isEmpty then refuseUse name "missing operand".toList
    else
      forEach (fun path => do
        match ← remove name a path with
        | none =>
          if a.has 'p' then removeAbove name a (path.length + 1) (Files.dropFinalSlashes path)
          else pure 0
        | some fault =>
          if isIgnored a fault then pure 0
          else if ← isLink fault path then
            refuse name ("failed to remove ".toList ++ inQuotes path ++
              ": Symbolic link not followed".toList)
          else refuse name (folderKept "" path fault)) a.operands
where
  /-- Whether a fault does not matter. -/
  isIgnored (a : Arguments) (fault : PathFault) : Bool :=
    a.has '\x01' && fault == .notEmpty
  /-- Whether a path that ends with a slash is refused because it is a link to a folder. -/
  isLink (fault : PathFault) (path : Text) : Run Bool := do
    if fault == .notFolder && path.getLast? == some '/' then
      match ← look true path, ← look false (Files.dropFinalSlashes path) with
      | .error .notFolder, _ => pure false
      | _, .ok (_, .link _) => pure true
      | _, _ => pure false
    else pure false
  /-- Removes an empty folder, or tells why not. -/
  remove (name : Text) (a : Arguments) (path : Text) : Run (Option PathFault) := do
    if a.has 'v' then
      let _ ← printLine name (decoded name ++ ": removing directory, ".toList ++ inQuotes path)
    let p ← get
    match p.files.removeFolder (start p) path with
    | .ok files => do
      set { p with files }
      pure none
    | .error fault => pure (some fault)
  /-- Removes the folders above one that was removed, as long as they are empty. -/
  removeAbove (name : Text) (a : Arguments) : (steps : Nat) → (path : Text) → Run Nat
    | 0, _ => pure 0
    | steps + 1, path =>
      match pathAbove path with
      | none => pure 0
      | some above => do
        match ← remove name a above with
        | none => removeAbove name a steps (Files.dropFinalSlashes above)
        | some fault =>
          if isIgnored a fault then pure 0
          else
            let words := if fault == .notFolder then "" else " directory"
            refuse name (folderKept words above fault)

end JarLens.Shell.Utility
