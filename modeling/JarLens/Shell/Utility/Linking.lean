import JarLens.Shell.Utility.TruePath

/-!
# Links

Making links, symbolic ones and further names for files. A link that is in the way is replaced only
if that is told, and nothing else is ever made to lead to itself by that.
-/

namespace JarLens.Shell.Utility

/-- How links are made. -/
structure LinkStyle where
  isSymbolic : Bool
  /-- Whether the target of a symbolic link is told from the folder of the link. -/
  isRelative : Bool
  /-- Whether a further name is made for what a symbolic link leads to. -/
  follows : Bool
  /-- Whether what is in the way is removed, after a question if `asks` is set. -/
  replaces : Bool
  asks : Bool
  isVerbose : Bool

/-- How links are made by the options that are given. -/
def LinkStyle.ofArguments (a : Arguments) : LinkStyle where
  isSymbolic := a.has 's'
  isRelative := a.has 'r'
  follows := ((a.options.filter fun (c, _) => c == 'L' || c == 'P').getLast?).any (·.1 == 'L')
  replaces := a.has 'f' || a.has 'i'
  asks := ((a.options.filter fun (c, _) => c == 'f' || c == 'i').getLast?).any (·.1 == 'i')
  isVerbose := a.has 'v'

/-- The way from one place to another, by names. -/
def wayBetween (here goal : Place) : Text :=
  let common := ((here.zip goal).takeWhile fun (a, b) => a == b).length
  match List.replicate (here.length - common) ['.', '.'] ++ goal.drop common with
  | [] => ['.']
  | names => Text.join ['/'] names

/-- The target of a symbolic link that is told from the folder of the link. -/
def relativeTarget (target path : Text) : Run Text := do
  let p ← get
  let place := truePlace p.files .nothing (start p)
  match place (folderName path), place target with
  | .ok here, .ok goal => pure (wayBetween here goal)
  | _, _ => pure target

/-- Makes a link where nothing lies. None of the faults tells that a folder can have no further
name. -/
def linkOnce (s : LinkStyle) (target path : Text) : Run (Except (Option PathFault) Unit) := do
  let made := fun (r : Except PathFault Unit) => r.mapError some
  if s.isSymbolic then
    if target.isEmpty then pure (.error (some .missing))
    else do pure (made (← makeEntry path (.link target)))
  else
    match ← look s.follows target, ← vacancy path with
    | .error fault, _ => pure (.error (some fault))
    | _, .error fault => pure (.error (some fault))
    | .ok (_, .folder _), _ => pure (.error none)
    | .ok (place, _), .ok new => do
      changeFiles (·.share place new)
      pure (.ok ())

/-- Complains about a link that could not be made. -/
def refuseLink (s : LinkStyle) (name target path : Text) (fault : PathFault) : Run Nat :=
  let kind := if s.isSymbolic then "symbolic" else "hard"
  let words := ("failed to create " ++ kind ++ " link ").toList ++ inQuotes path
  let both := words ++ (if s.isSymbolic then " -> " else " => ").toList ++ inQuotes target
  let words := if s.isSymbolic then if fault == .tooLong || target.isEmpty then both else words
    else if fault == .exists then words else both
  refuse name (words ++ ": ".toList ++ faultText fault)

/-- Tells of a link that was made. -/
def showLink (s : LinkStyle) (name target path : Text) : Run Nat :=
  if s.isVerbose then
    printLine name (inQuotes path ++ (if s.isSymbolic then " -> " else " => ").toList ++
      inQuotes target)
  else pure 0

/-- Whether the next line of the input says yes. -/
def isConfirmed : Run Bool := do
  match ← Run.readLine? 0 with
  | some answer => pure (answer[0]? == some 121 || answer[0]? == some 89)
  | none => pure false

/-- Asks a question in the name of a utility. -/
def ask (name : Text) (question : Message) : Run Bool := do
  let question := question.write (← Run.glyphs)
  let _ ← Run.write 2 (toBytes (name ++ encoded (": ".toList ++ question)))
  isConfirmed

/-- Whether a link would be put in place of what it leads to. -/
def replacesItself (s : LinkStyle) (target path : Text) : Run Bool := do
  match ← look (s.isSymbolic || s.follows) target, ← look false path with
  | .ok (a, _), .ok (b, _) => do
    let names := (← get).files.nameCount a
    if ← isSameNode a b then
      if names == 1 then pure true else isSameEntry target path
    else pure false
  | _, _ => pure false

/-- What is to be done about what is in the way of a link. -/
inductive Clearing where
  | nothing
  | removal (place : Place)
  /-- The link is not made, with a complaint if there is one. -/
  | refusal (complaint : Option Message)

/-- The links that were made so far where names came to be lost by another one: the paths, with the
numbers of what they are names of. -/
abbrev MadeLinks := List (Text × Nat)

/-- The number of what lies at a path itself. -/
def numberOf? (path : Text) : Run (Option Nat) := do
  match ← look false path with
  | .ok (place, _) => do pure ((← get).files.number? place)
  | .error _ => pure none

/-- What is in the way of a link, and whether it may be removed. -/
def clearing (s : LinkStyle) (name target path : Text) (made : MadeLinks) : Run Clearing := do
  match ← look false path with
  | .error .missing => pure .nothing
  | .error fault => pure (.refusal (some (Utility.refusal "failed to access".toList path fault)))
  | .ok (_, .folder _) =>
    pure (.refusal (some (nameShown path ++ ": cannot overwrite directory".toList)))
  | .ok (place, _) =>
    if (← numberOf? path).any fun number => made.contains (path, number) then
      pure (.refusal (some ("will not overwrite just-created ".toList ++ inQuotes path ++
        " with ".toList ++ inQuotes target)))
    else if ← replacesItself s target path then
      pure (.refusal (some (inQuotes target ++ " and ".toList ++ inQuotes path ++
        " are the same file".toList)))
    else if !s.asks then pure (.removal place)
    else if ← ask name ("replace ".toList ++ inQuotes path ++ "? ".toList) then
      pure (.removal place)
    else pure (.refusal none)

/-- Makes a link after the first attempt, in place of what is in the way if that may be removed. -/
def makeLinkOver (s : LinkStyle) (name target path : Text)
    (first : Except (Option PathFault) Unit) (removed : Option Place) : Run Nat := do
  match first, removed with
  | .ok (), _ => showLink s name target path
  | .error (some .exists), some place => do
    let second ← match ← removeEntry place with
      | .ok () => linkOnce s target path
      | .error fault => pure (.error (some fault))
    match second with
    | .ok () => showLink s name target path
    | .error fault => refuseLink s name target path (fault.getD .denied)
  | .error fault, _ => refuseLink s name target path (fault.getD .denied)

/-- Makes a link at a path. -/
def makeLinkAt (s : LinkStyle) (name target path : Text) (made : MadeLinks) : Run Nat := do
  let first ← if s.isRelative then pure (.error none) else linkOnce s target path
  let found ← if s.isSymbolic then pure (.ok ([], .link [])) else look s.follows target
  match first, found with
  | .ok (), _ => showLink s name target path
  | _, .error fault => refuse name (refusal "failed to access".toList target fault)
  | _, .ok (_, .folder _) =>
    refuse name (nameShown target ++ ": hard link not allowed for directory".toList)
  | first, .ok _ => do
    let target ← if s.isRelative then relativeTarget target path else pure target
    let way ← if s.replaces then clearing s name target path made else pure .nothing
    let first ← if s.isRelative then linkOnce s target path else pure first
    match way with
    | .refusal (some complaint) => refuse name complaint
    | .refusal none => pure 0
    | .nothing => makeLinkOver s name target path first none
    | .removal place => makeLinkOver s name target path first (some place)

/-- Where links go. A link to a folder counts as that folder unless `isItself` is set. -/
def linkTargets (s : LinkStyle) (a : Arguments) : Run Targets := do
  let missing := Targets.refused true "missing file operand".toList
  match namedFolder a, a.operands with
  | .error complaint, _ => pure (.refused false complaint)
  | .ok (some folder), sources =>
    match ← look true folder with
    | .error fault => pure (.refused false (refusal "failed to access".toList folder fault))
    | .ok (_, .folder _) =>
      pure (if sources.isEmpty then missing
        else if a.has 'T' then .refused false
          "cannot combine --target-directory and --no-target-directory".toList
        else .inside folder sources)
    | .ok _ => pure (.refused false
        ("target ".toList ++ inQuotes folder ++ " is not a directory".toList))
  | .ok none, [] => pure missing
  | .ok none, sources =>
    if s.isRelative && !s.isSymbolic then
      pure (.refused false "cannot do --relative without --symbolic".toList)
    else if a.has 'T' then
      match sources with
      | [source, path] => pure (.exact source path)
      | _ :: _ :: extra :: _ => pure (.refused true ("extra operand ".toList ++ inQuotes extra))
      | source :: _ => pure (.refused true
          ("missing destination file operand after ".toList ++ inQuotes source))
      | [] => pure missing
    else
      match sources.reverse with
      | [source] => pure (.inside ['.'] [source])
      | last :: others =>
        match ← look (!a.has 'n') last, others with
        | .ok _, [[]] =>
          pure (if s.isSymbolic then .exact [] last else .inside last [[]])
        | .ok (_, .folder _), _ => pure (.inside last others.reverse)
        | _, [source] => pure (.exact source last)
        | .ok _, _ => pure (.refused false (targetRefusal last .notFolder))
        | .error fault, _ => pure (.refused false (targetRefusal last fault))
      | [] => pure missing

/-- Makes links in a folder. Those of several files are not lost by one another. -/
def linkInside (s : LinkStyle) (name folder : Text) (isGuarded : Bool) (made : MadeLinks) :
    List Text → Run Nat
  | [] => pure 0
  | source :: sources => do
    let path := insidePath folder source
    let status ← makeLinkAt s name source path made
    let made ← match status == 0 && isGuarded, ← numberOf? path with
      | true, some number => pure ((path, number) :: made)
      | _, _ => pure made
    let others ← linkInside s name folder isGuarded made sources
    pure (max status others)

/-- Makes links. -/
def ln : Utility :=
  let table : OptionTable :=
    ⟨"bdfFiLnPrsS:t:Tv", [("backup", 'b'), ("directory", 'F'), ("no-dereference", 'n'),
      ("no-target-directory", 'T'), ("force", 'f'), ("interactive", 'i'), ("suffix", 'S'),
      ("target-directory", 't'), ("logical", 'L'), ("physical", 'P'), ("relative", 'r'),
      ("symbolic", 's'), ("verbose", 'v'), ("help", '\x00'), ("version", '\x00')], "b"⟩
  ofTable table fun name a => do
    let s := LinkStyle.ofArguments a
    match ← linkTargets s a with
    | .refused true complaint => refuseUse name complaint
    | .refused false complaint => refuse name complaint
    | .exact source path => makeLinkAt s name source path []
    | .inside folder sources =>
      let isGuarded := s.replaces && !s.asks && !s.isSymbolic && 1 < sources.length
      linkInside s name folder isGuarded [] sources

end JarLens.Shell.Utility
