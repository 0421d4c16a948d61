import JarLens.Shell.Rights
import JarLens.Shell.Utility.Linking

/-!
# Copies

A copy of a file goes through a link that is at its path, a copy of a folder or link replaces
nothing. Folders are copied entry by entry, so that what is copied already shows in what is still to
be copied: that is how a folder turns out to be copied into itself.
-/

namespace JarLens.Shell.Utility

/-! ## Styles -/

/-- Which links are followed to what is copied. -/
inductive Following where
  | never
  /-- Those among the operands. -/
  | operands
  | always
  deriving DecidableEq

/-- How things are copied. -/
structure CopyStyle where
  isRecursive : Bool
  following : Following
  /-- Whether further names are made in place of copies, or symbolic links. -/
  linksHard : Bool
  linksSymbolic : Bool
  /-- Whether what is in the way is removed, always or where it cannot be written. -/
  removesFirst : Bool
  removesRefused : Bool
  /-- Whether nothing is replaced, or only after a question. -/
  keepsOld : Bool
  asks : Bool
  /-- Whether names of one file stay names of one file. -/
  keepsNames : Bool
  isVerbose : Bool
  /-- Whether a copy takes the permission bits over, and when its source was changed. -/
  keepsState : Bool
  /-- Whether nothing is replaced but by what was changed later. -/
  isUpdate : Bool
  /-- The permission bits that new files may have. -/
  modes : Nat
  /-- The folder that things are copied into, which can be named by a link to it. -/
  target : Option Text := none

/-- How things are copied by the options that are given. -/
def CopyStyle.ofArguments (mask : Nat) (a : Arguments) : CopyStyle :=
  let last := fun (letters : String) =>
    ((a.options.filter fun (c, _) => letters.toList.any (· == c)).getLast?).map (·.1)
  let isRecursive := a.hasAny "rRa"
  { isRecursive
    following := match last "PdaLH" with
      | some 'L' => .always
      | some 'H' => .operands
      | some _ => .never
      | none => if isRecursive && !a.has 'l' then .never else .always
    linksHard := a.has 'l'
    linksSymbolic := a.has 's'
    removesFirst := a.has '\x01'
    removesRefused := a.has 'f'
    keepsOld := last "in" == some 'n'
    asks := last "in" == some 'i'
    keepsNames := a.hasAny "da"
    isVerbose := a.has 'v'
    keepsState := a.hasAny "pa"
    isUpdate := a.has 'u'
    modes := if a.hasAny "pa" then 0o7777 else 0o777 ^^^ mask }

/-! ## Progress -/

/-- What was copied so far. -/
structure CopyProgress where
  /-- The folders that were operands, and the first that was made for each; and the files whose
  names are kept together. By their numbers, with the paths where they went. -/
  copied : List (Nat × Text) := []
  /-- Whether a folder was made for the operand. -/
  hasMade : Bool := false
  /-- The files that were operands, with the paths by which they were named. -/
  sources : List (Nat × Text) := []
  /-- What was made at the paths that operands went to. -/
  results : List (Text × Nat) := []
  /-- What is told of the copies when all are made. -/
  told : List Message := []

/-- A step of copying. -/
abbrev Copying := StateT CopyProgress Run

/-- How copying something ended. -/
inductive CopyOutcome where
  | done
  | failed
  /-- A folder came to be copied into itself. -/
  | intoItself
  deriving DecidableEq

section Copying

variable (s : CopyStyle) (name : Text)

/-- Complains, and fails. -/
def failCopy (complaint : Message) : Copying CopyOutcome := do
  let _ ← refuse name complaint
  pure .failed

/-- Tells of a copy, when all are made. -/
def tell (line : Message) : Copying Unit :=
  if s.isVerbose then modify fun c => { c with told := line :: c.told } else pure ()

/-- Tells of a copy by its two paths. -/
def tellCopy (source path : Text) : Copying Unit :=
  tell s (inQuotes source ++ " -> ".toList ++ inQuotes path)

/-- The number of what lies at a place. -/
def numberAt (place : Place) : Copying Nat := do
  pure (((← getThe Process).files.number? place).getD 0)

/-- Keeps in mind where something went, and gives where it went before if it did. -/
def rememberCopy (place : Place) (path : Text) : Copying (Option Text) := do
  let number ← numberAt place
  match (← get).copied.lookup number with
  | some earlier => pure (some earlier)
  | none => do
    modify fun c => { c with copied := (number, path) :: c.copied }
    pure none

/-- Forgets where something went, because it did not get there. -/
def forgetCopy (place : Place) : Copying Unit := do
  let number ← numberAt place
  modify fun c => { c with copied := c.copied.filter (·.1 != number) }

/-- Whether two paths name one entry of a folder. A folder that only a link leads to counts as
another one, except for a path in the folder that things are copied into: for the right path, and
for the left one where that is a goal too. -/
def isSameGoal (isGoal : Bool) (left right : Text) : Copying Bool := do
  let follows := fun (path : Text) =>
    s.target.map Files.dropFinalSlashes == some (folderName path)
  isSameEntryOf (isGoal && follows left) (follows right) left right

/-- Whether a file was an operand before, by the same name. -/
def wasOperand (number : Nat) (source : Text) : Copying Bool := do
  (← get).sources.anyM fun (earlier, path) => do
    if earlier == number then isSameEntry path source else pure false

/-! ## Single things -/

/-- How the old thing at a path takes a copy. -/
inductive Meeting where
  | allowed
  /-- Nothing is to be done. -/
  | settled
  /-- It is the same thing. -/
  | same

/-- Whether two paths that lead to the things can be told apart for copying. -/
def meeting (source path : Text) (new old : Place × Node) : Copying Meeting := do
  let isSame ← isSameNode new.1 old.1
  if isSame && s.linksHard then pure .settled
  else
    let newLink := (← look false source).toOption.getD new
    let oldLink := (← look false path).toOption.getD old
    match s.following, new.2, old.2 with
    | .never, .link _, .link _ =>
      if ← isSameGoal s false source path then pure .same
      else if isSame then pure .settled
      else pure .allowed
    | following, _, _ =>
      let isLink := fun (node : Node) => node matches .link _
      if following != .never && !isSame then pure .allowed
      else
        let (newHere, oldHere) := if following == .never then (new, old) else (newLink, oldLink)
        let isTwin ← isSameNode newHere.1 oldHere.1
        let isShared := oldHere.2.isFolder || 1 < (← getThe Process).files.nameCount oldHere.1
        if s.removesFirst && isLink oldHere.2 then pure .allowed
        else if s.removesFirst && isTwin && isShared && !(← isSameGoal s false source path) then
          pure .allowed
        else if !isLink newHere.2 && !isLink oldHere.2 && !isTwin then pure .allowed
        else if s.linksSymbolic && isLink oldHere.2 then pure .allowed
        else if following == .never then
          match ← look true source, ← look true path with
          | .ok (a, _), .ok (b, _) => if ← isSameNode a b then pure .same else pure .allowed
          | _, _ => pure .allowed
        else pure .same

/-- Takes over when the source was changed, where that is asked for. -/
def keepMoment (source : Place) (path : Text) : Copying Unit := do
  if s.keepsState then
    if let .ok (place, _) := ← look true path then
      changeFiles fun files => files.withChange place (files.changedAt source)

/-- Gives a folder that was copied its permission bits. -/
def keepMode (path : Text) (mode : Nat) : Copying Unit := do
  if let .ok (place, .folder _) := ← look true path then
    changeFiles (·.withNode place (.folder (mode &&& s.modes)))

/-- Writes the content of a file where nothing lies. -/
def copyToNew (path : Text) (content : ByteArray) (mode : Nat) : Copying CopyOutcome := do
  let complain := failCopy name ∘ refusal "cannot create regular file".toList path
  match ← vacancy path with
  | .ok place => do
    changeFiles (·.put place (.file content (mode &&& s.modes)))
    pure .done
  | .error fault =>
    if path.getLast? = some '/' then
      match fault, ← look false (folderName path) with
      | .missing, .error fault => complain fault
      | _, _ => complain .notFolder
    else
      match ← look false path with
      | .ok (_, .link _) =>
        failCopy name ("not writing through dangling symlink ".toList ++ inQuotes path)
      | _ => complain fault

/-- Copies a file, or what comes from a device. -/
def copyFile (source path : Text) (node : Node) (old : Option (Place × Node)) :
    Copying CopyOutcome := do
  let (content, mode) := match node with
    | .file content mode => (content, mode)
    | _ => (.empty, 0o666)
  if !node.isReadable then
    failCopy name ("cannot open ".toList ++ inQuotes source ++ " for reading: ".toList ++
      faultText .denied)
  else match old with
    | some (place, .file _ oldMode) =>
      if isWritable oldMode then do
        changeFiles (·.put place (.file content (if s.keepsState then mode else oldMode)))
        pure .done
      else if s.removesRefused then do
        match ← clearEntry path with
        | .error fault => failCopy name (refusal "cannot remove".toList path fault)
        | .ok () => do
          tell s ("removed ".toList ++ inQuotes path)
          copyToNew s name path content mode
      else failCopy name (refusal "cannot create regular file".toList path .denied)
    | some (_, .device true) =>
      let complaint := "error writing ".toList ++ inQuotes path ++
        ": No space left on device".toList
      if content.isEmpty then pure CopyOutcome.done else failCopy name complaint
    | some _ => pure .done
    | none => copyToNew s name path content mode

/-- Makes a symbolic link to what is copied. -/
def copyAsLink (source path : Text) : Copying CopyOutcome := do
  let isHere ← match ← look true (folderName path), ← look true ['.'] with
    | .ok (a, _), .ok (b, _) => pure (a == b)
    | _, _ => pure false
  if source.head? != some '/' && !isHere then
    failCopy name
      (nameShown path ++ ": can make relative symbolic links only in current directory".toList)
  else do
    match ← makeEntryOver s.removesRefused path (.link source) with
    | .ok () => pure .done
    | .error fault => failCopy name (refusal
        ("cannot create symbolic link ".toList ++ inQuotes path ++ " to".toList) source fault)

/-- Makes a further name for a file. -/
def copyAsName (follow : Bool) (source target path : Text) : Copying CopyOutcome := do
  let words := "cannot create hard link ".toList ++ inQuotes path ++ " to".toList
  match ← look follow target, ← look false path with
  | .error fault, _ => failCopy name (refusal words source fault)
  | .ok (place, _), old =>
    let replaces := s.removesRefused || s.asks
    let isThere ← match old with
      | .ok (entry, _) => isSameNode place entry
      | .error _ => pure false
    if replaces && isThere then pure .done
    else
      let cleared ← if replaces then clearEntry path else pure (.ok ())
      match cleared, ← vacancy path with
      | .ok (), .ok new => do
        changeFiles (·.share place new)
        pure .done
      | .error fault, _ | _, .error fault => failCopy name (refusal words source fault)

/-- Copies a symbolic link itself. -/
def copyLink (target path : Text) : Copying CopyOutcome := do
  match ← makeEntryOver s.removesRefused path (.link target) with
  | .ok () => pure .done
  | .error fault => failCopy name (refusal "cannot create symbolic link".toList path fault)

/-! ## All things -/

/-- Something to be copied, and where it goes. -/
structure Copy where
  source : Text
  path : Text
  /-- Whether the source is an operand, and the operand that it belongs to with its path. -/
  isOperand : Bool
  top : Text × Text
  /-- The folders on the way to it. -/
  above : List Place

/-- What is at the path that something goes to. A file goes through a link there, other things
replace it. -/
def oldThing (c : Copy) (node : Node) : Run (Except PathFault (Option (Place × Node))) := do
  let isContent := node matches .file _ _ | .device _
  let follow := isContent && !s.linksSymbolic && !s.linksHard && !s.removesFirst
  match ← look follow c.path with
  | .ok found => pure (.ok (some found))
  | .error .missing => pure (.ok none)
  | .error fault => pure (.error fault)

/-- The question before something is overwritten, or removed first if `replaces` is set. -/
def overwriteQuestion (replaces : Bool) (path : Text) : Node → Message
  | .file _ mode | .folder mode =>
    if isWritable mode then "overwrite ".toList ++ inQuotes path ++ "? ".toList
    else if replaces then
      "replace ".toList ++ inQuotes path ++ ", overriding mode ".toList ++ Rights.inDigits mode ++
        " (".toList ++ Rights.inRow mode ++ ")? ".toList
    else
      "unwritable ".toList ++ inQuotes path ++ " (mode ".toList ++ Rights.inDigits mode ++
        ", ".toList ++ Rights.inRow mode ++ "); try anyway? ".toList
  | _ => "overwrite ".toList ++ inQuotes path ++ "? ".toList

/-- Whether something may go where there is something already: none if it may, or how copying ends
then. -/
def refusedMeeting (c : Copy) (new old : Place × Node) : Copying (Option CopyOutcome) := do
  let fails := fun (complaint : Message) => do pure (some (← failCopy name complaint))
  let m ← if s.keepsOld then pure Meeting.allowed else meeting s c.source c.path new old
  match m with
  | .same =>
    fails (inQuotes c.source ++ " and ".toList ++ inQuotes c.path ++ " are the same file".toList)
  | _ =>
    let files := (← getThe Process).files
    let oldNumber ← numberAt old.1
    let keeps ← if new.2.isFolder then pure false
      else if s.isUpdate && files.changedAt new.1 ≤ files.changedAt old.1 then pure true
      else if s.keepsOld then pure true
      else if s.asks then do
        let isFree ← ask name
          (overwriteQuestion (s.removesFirst || s.removesRefused) c.path old.2)
        pure !isFree
      else pure false
    if keeps || m matches .settled then pure (some .done)
    else if new.2.isFolder && !old.2.isFolder then
      fails ("cannot overwrite non-directory ".toList ++ inQuotes c.path ++
        " with directory ".toList ++ inQuotes c.source)
    else if !old.2.isFolder && c.isOperand && (← get).results.contains (c.path, oldNumber) then
      fails ("will not overwrite just-created ".toList ++ inQuotes c.path ++ " with ".toList ++
        inQuotes c.source)
    else if !new.2.isFolder && old.2.isFolder then
      fails ("cannot overwrite directory ".toList ++ inQuotes c.path ++
        " with non-directory".toList)
    else pure none

/-- Removes what is in the way where that comes first, and gives what is there then. -/
def removeFirst (c : Copy) (new : Node) :
    Option (Place × Node) → Copying (Except PathFault (Option (Place × Node)))
  | some (place, node) => do
    let isLinkCopy := s.following == .never && !(new matches .file _ _)
    let isShared := s.keepsNames && 1 < (← getThe Process).files.nameCount place
    if !node.isFolder && (s.removesFirst || isShared || isLinkCopy) then do
      match ← clearEntry c.path with
      | .error fault => pure (.error fault)
      | .ok () => do
        tell s ("removed ".toList ++ inQuotes c.path)
        pure (.ok none)
    else pure (.ok (some (place, node)))
  | none => pure (.ok none)

/-- What is told where a folder was copied before: it is copied into itself, or told twice. None if
it is copied all the same. -/
def copiedBefore (c : Copy) (earlier : Text) : Copying (Option CopyOutcome) := do
  if ← isSameGoal s false c.source earlier then do
    let _ ← refuse name ("cannot copy a directory, ".toList ++ inQuotes c.top.1 ++
      ", into itself, ".toList ++ inQuotes c.top.2)
    pure (some .intoItself)
  else if ← isSameGoal s true c.path earlier then do
    let _ ← refuse name ("warning: source directory ".toList ++ inQuotes c.top.1 ++
      " specified more than once".toList)
    pure (some .done)
  else if s.following == .always || (c.isOperand && s.following == .operands) then pure none
  else do
    pure (some (← failCopy name ("will not create hard link ".toList ++ inQuotes c.path ++
      " to directory ".toList ++ inQuotes earlier)))

/-- What the permission bits of a folder have to let do while it is filled. -/
def fillingBits : Nat := 0o700

/-- Makes the folder that a folder is copied to, or tells why not. It can be filled whatever its
permission bits will be. -/
def makeCopiedFolder (c : Copy) : Copying (Option PathFault) := do
  let p ← getThe Process
  match p.files.makeFolder (start p) c.path fillingBits with
  | .error fault => pure (some fault)
  | .ok files => do
    set { p with files }
    if !(← get).hasMade then
      if let .ok (entry, _) := ← look false c.path then
        let _ ← rememberCopy entry c.path
        modify fun k => { k with hasMade := true }
    tellCopy s c.source c.path
    pure none

/-- Copies something, and what it holds. -/
def copyThing : (steps : Nat) → Copy → Copying CopyOutcome
  | 0, _ => pure .failed
  | steps + 1, c => do
    let follow := match s.following with
      | .never => false
      | .operands => c.isOperand
      | .always => true
    match ← look follow c.source with
    | .error fault => failCopy name (refusal "cannot stat".toList c.source fault)
    | .ok (place, node) =>
      if node.isFolder && !s.isRecursive then
        failCopy name ("-r not specified; omitting directory ".toList ++ inQuotes c.source)
      else if ← (if c.isOperand && !node.isFolder then do wasOperand (← numberAt place) c.source
          else pure false) then
        let _ ← refuse name
          ("warning: source file ".toList ++ inQuotes c.source ++
            " specified more than once".toList)
        pure .done
      else do
        if c.isOperand then
          let number ← numberAt place
          modify fun k => { k with sources := (number, c.source) :: k.sources }
        match ← oldThing s c node with
        | .error fault => failCopy name (refusal "cannot stat".toList c.path fault)
        | .ok old =>
          let refused ← match old with
            | some old => refusedMeeting s name c (place, node) old
            | none => pure none
          match refused with
          | some outcome => pure outcome
          | none =>
            match ← removeFirst s c node old with
            | .error fault => failCopy name (refusal "cannot remove".toList c.path fault)
            | .ok old => do
              let isRisky ← match ← look false c.path with
                | .ok (entry, .link _) => do
                  pure (c.isOperand && (← get).results.contains (c.path, ← numberAt entry))
                | _ => pure false
              if isRisky then
                failCopy name ("will not copy ".toList ++ inQuotes c.source ++
                  " through just-created symlink ".toList ++ inQuotes c.path)
              else do
                if !node.isFolder then tellCopy s c.source c.path
                let outcome ← match node with
                  | .folder mode => copyFolder steps c place mode old
                  | node => copyPlain c place node old follow
                if c.isOperand then
                  if let .ok (entry, _) := ← look false c.path then
                    let number ← numberAt entry
                    modify fun k => { k with results := (c.path, number) :: k.results }
                pure outcome
where
  /-- Copies what is no folder. -/
  copyPlain (c : Copy) (place : Place) (node : Node) (old : Option (Place × Node))
      (follow : Bool) : Copying CopyOutcome := do
    let isShared := s.keepsNames && 1 < (← getThe Process).files.nameCount place
    let earlier ← if isShared && !s.linksHard then rememberCopy place c.path else pure none
    match earlier with
    | some earlier =>
      copyAsName { s with removesRefused := true } name false c.source earlier c.path
    | none =>
      let outcome ←
        if s.linksSymbolic then copyAsLink s name c.source c.path
        else if s.linksHard then copyAsName s name follow c.source c.source c.path
        else match node with
          | .link target => copyLink s name target c.path
          | node => do
            match ← look true c.source with
            | .error fault =>
              failCopy name ("cannot open ".toList ++ inQuotes c.source ++
                " for reading: ".toList ++ faultText fault)
            | .ok _ => do
              let outcome ← copyFile s name c.source c.path node old
              if outcome == .done then keepMoment s place c.path
              pure outcome
      if outcome == .failed && isShared then forgetCopy place
      pure outcome
  /-- Copies a folder. -/
  copyFolder (steps : Nat) (c : Copy) (place : Place) (mode : Nat) (old : Option (Place × Node)) :
      Copying CopyOutcome := do
    let earlier ← if c.isOperand then rememberCopy place c.path
      else do pure ((← get).copied.lookup (← numberAt place))
    let known ← match earlier with
      | some earlier => copiedBefore s name c earlier
      | none => pure none
    match known with
    | some outcome => pure outcome
    | none =>
      if c.above.any (· == place) then
        failCopy name ("cannot copy cyclic symbolic link ".toList ++ inQuotes c.source)
      else
        match ← if old.isSome then pure none else makeCopiedFolder s c with
        | some fault => do
          forgetCopy place
          failCopy name (refusal "cannot create directory".toList c.path fault)
        | none => do
          let outcome ← if isReadable mode then
              copyEntries steps c place ((← getThe Process).files.namesIn place)
            else failCopy name (refusal "cannot access".toList c.source .denied)
          keepMoment s place c.path
          if s.keepsState || old.isNone then keepMode s c.path mode
          pure outcome
  /-- Copies the entries of a folder, until one turns out to be copied into itself. -/
  copyEntries (steps : Nat) (c : Copy) (place : Place) : List Text → Copying CopyOutcome
    | [] => pure .done
    | entry :: entries => do
      let hadMade := (← get).hasMade
      let outcome ← copyThing steps
        { source := inFolder c.source entry, path := inFolder c.path entry, isOperand := false
          top := c.top, above := place :: c.above }
      modify fun k => { k with hasMade := hadMade || k.hasMade }
      match outcome with
      | .intoItself => pure .intoItself
      | outcome => do
        let others ← copyEntries steps c place entries
        pure (if others == .done then outcome else others)

/-! ## Descriptors -/

/-- The permission bits of the file that a channel would be copied as. -/
def channelMode (p : Process) : Channel → Nat
  | .file number _ _ =>
    match p.files.node? number with
    | some (.file _ mode) => mode
    | _ => 0o666
  | .text _ _ | .source _ | .sink _ => 0o600
  | _ => 0o666

/-- Copies what comes from a path, which can stand for a descriptor, to another, which can stand for
one too. -/
def copyStream (source path : Text) : Copying CopyOutcome := do
  let cause := refusal "cannot stat".toList source
  let node : Except Message Node ← match Run.deviceDescriptor? source with
    | some descriptor => do
      let channel ← Run.channel? descriptor
      let bytes ← Run.readAll? descriptor
      let p ← getThe Process
      match bytes, channel with
      | some bytes, some (_, c) => pure (.ok (.file bytes (channelMode p c)))
      | _, _ => pure (.error (cause .missing))
    | none => pure (((← look true source).map (·.2)).mapError cause)
  match node, Run.deviceDescriptor? path with
  | .error complaint, _ => failCopy name complaint
  | .ok (.folder _), _ =>
    failCopy name ("-r not specified; omitting directory ".toList ++ inQuotes source)
  | .ok node, none => do
    tellCopy s source path
    match ← look true path with
    | .ok (_, .folder _) =>
      failCopy name
        ("cannot overwrite directory ".toList ++ inQuotes path ++ " with non-directory".toList)
    | .ok old => copyFile s name source path node (some old)
    | .error _ => copyFile s name source path node none
  | .ok node, some descriptor =>
    let bytes := match node with
      | .file content _ => content
      | _ => .empty
    if ← Run.write descriptor bytes then pure .done
    else failCopy name (refusal "cannot create regular file".toList path .missing)

/-- Copies an operand. -/
def copyOperand (source path : Text) : Copying CopyOutcome := do
  modify fun k => { k with hasMade := false }
  let isStream := fun (path : Text) => (Run.deviceDescriptor? path).isSome
  let c : Copy := { source, path, isOperand := true, top := (source, path), above := [] }
  if isStream source || isStream path then copyStream s name source path
  else copyThing s name folderDepth c

/-- Copies operands into a folder. What only two of them could do to each other is not looked for
where there is one. -/
def copyInside (folder : Text) (isSingle : Bool) : List Text → Copying CopyOutcome
  | [] => pure .done
  | source :: sources => do
    let last := match lastName source with
      | ['.', '.'] => ['.']
      | last => last
    let outcome ← copyOperand s name source (inFolder folder last)
    if isSingle then modify fun k => { k with sources := [], results := [] }
    let others ← copyInside folder isSingle sources
    pure (if others == .done then outcome else others)

end Copying

/-- Where copies go. -/
def copyTargets (a : Arguments) : Run Targets := do
  let missing := Targets.refused true "missing file operand".toList
  match namedFolder a, a.operands with
  | .error complaint, _ => pure (.refused false complaint)
  | .ok _, [] => pure missing
  | .ok (some folder), sources =>
    if a.has 'T' then pure (.refused false bothTargets)
    else match ← look true folder with
      | .ok (_, .folder _) => pure (.inside folder sources)
      | .ok _ => pure (.refused false (refusal "target directory".toList folder .notFolder))
      | .error fault => pure (.refused false (refusal "target directory".toList folder fault))
  | .ok none, [source] =>
    pure (.refused true ("missing destination file operand after ".toList ++ inQuotes source))
  | .ok none, sources =>
    if a.has 'T' then
      match sources with
      | [source, path] => pure (.exact source path)
      | sources => pure (.refused true
          ("extra operand ".toList ++ inQuotes ((sources[2]?).getD [])))
    else
      match sources.reverse with
      | last :: others =>
        match ← look true last, others with
        | .ok (_, .folder _), _ => pure (.inside last others.reverse)
        | _, [source] => pure (.exact source last)
        | .ok _, _ => pure (.refused false (targetRefusal last .notFolder))
        | .error fault, _ => pure (.refused false (targetRefusal last fault))
      | [] => pure missing

/-- Copies files, and folders with the option for it. -/
def cp : Utility :=
  let table : OptionTable :=
    ⟨"abdfHilLnprst:uvxPRTS:Z\x01", [("archive", 'a'), ("attributes-only", '\x00'),
      ("backup", 'b'), ("copy-contents", '\x00'), ("dereference", 'L'), ("force", 'f'),
      ("interactive", 'i'), ("link", 'l'), ("no-clobber", 'n'), ("no-dereference", 'P'),
      ("no-preserve", '\x00'), ("no-target-directory", 'T'), ("one-file-system", 'x'),
      ("parents", '\x00'), ("preserve", 'p'), ("recursive", 'r'), ("remove-destination", '\x01'),
      ("sparse", '\x00'), ("reflink", '\x00'), ("strip-trailing-slashes", '\x00'),
      ("suffix", 'S'), ("symbolic-link", 's'), ("target-directory", 't'), ("update", 'u'),
      ("verbose", 'v'), ("context", 'Z'), ("help", '\x00'), ("version", '\x00')], "bpZ"⟩
  ofTable table fun name a => do
    let s := CopyStyle.ofArguments (← get).mask a
    match ← copyTargets a with
    | .refused true complaint => refuseUse name complaint
    | .refused false complaint => refuse name complaint
    | .exact source path => do
      let (outcome, progress) ← (copyOperand s name source path).run {}
      finish name outcome progress
    | .inside folder sources => do
      let s := { s with target := some folder }
      let (outcome, progress) ← (copyInside s name folder (sources.length == 1) sources).run {}
      finish name outcome progress
where
  /-- Prints what is told of the copies, and gives the status. -/
  finish (name : Text) (outcome : CopyOutcome) (progress : CopyProgress) : Run Nat := do
    let status ← forEach (printLine name) progress.told.reverse
    pure (if outcome == .done then status else 1)

end JarLens.Shell.Utility
