import JarLens.Shell.Utility.Basic

/-!
# Where utilities put things

Utilities that copy, link and move take what lies at some paths to another path, or into the folder
that the last operand leads to. What is there already decides whether they may: two paths can be one
entry of a folder, or two names of one file.
-/

namespace JarLens.Shell.Utility

/-! ## Names -/

/-- The path of a name in a folder. -/
def inFolder (folder name : Text) : Text :=
  if folder.getLast? = some '/' then folder ++ name else folder ++ '/' :: name

/-- The last name of a path, without the slashes after it. -/
def lastName (path : Text) : Text :=
  ((Text.trimEnd (· == '/') path).reverse.takeWhile (· != '/')).reverse

/-- The path of the folder that the last name of a path is in. -/
def folderName (path : Text) : Text :=
  let path := Text.trimEnd (· == '/') path
  match path.take (path.length - (lastName path).length) with
  | [] => ['.']
  | above => Files.dropFinalSlashes above

/-- A path as it is told of what is visited with all that it holds: of several slashes at its end
one is left. -/
def visitedPath (path : Text) : Text :=
  if path.length < 3 || path.getLast? != some '/' then path
  else Text.trimEnd (· == '/') path ++ ['/']

/-- How many folders can be in one another. -/
def folderDepth : Nat := 5000

/-! ## Entries -/

/-- What lies at a path. With `follow` a link leads on to what lies where it leads. -/
def look (follow : Bool) (path : Text) : Run (Except PathFault (Place × Node)) := do
  let p ← get
  pure (match p.files.walk follow (start p) path with
    | .ok ⟨place, some node⟩ => .ok (place, node)
    | .ok ⟨_, none⟩ => .error .missing
    | .error fault => .error fault)

/-- The place of a new entry that a path names. Nothing but a folder is made at a path that ends
with a slash. -/
def vacancy (path : Text) : Run (Except PathFault Place) := do
  let p ← get
  pure (match p.files.walk false (start p) (Files.dropFinalSlashes path) with
    | .ok ⟨_, some _⟩ => .error .exists
    | .ok ⟨place, none⟩ =>
      if path.getLast? = some '/' then .error .missing
      else if !p.files.mayChange place.dropLast then .error .denied
      else .ok place
    | .error fault => .error fault)

/-- Changes the files. -/
def changeFiles (f : Files → Files) : Run Unit :=
  modify fun p => { p with files := f p.files }

/-- Puts something where a new entry can be made. -/
def makeEntry (path : Text) (node : Node) : Run (Except PathFault Unit) := do
  match ← vacancy path with
  | .error fault => pure (.error fault)
  | .ok place => do
    changeFiles (·.put place node)
    pure (.ok ())

/-- Removes an entry that is no folder, or tells why not. -/
def removeEntry (place : Place) : Run (Except PathFault Unit) := do
  if (← get).files.mayChange place.dropLast then
    changeFiles (·.erase place)
    pure (.ok ())
  else pure (.error .denied)

/-- Removes what is in the way at a path, unless it is a folder, or tells why not. -/
def clearEntry (path : Text) : Run (Except PathFault Unit) := do
  match ← look false path with
  | .ok (place, node) => if node.isFolder then pure (.ok ()) else removeEntry place
  | .error _ => pure (.ok ())

/-- Puts something where a new entry can be made, or if `replaces` is set in place of what is
there. -/
def makeEntryOver (replaces : Bool) (path : Text) (node : Node) : Run (Except PathFault Unit) := do
  match ← (if replaces then clearEntry path else pure (.ok ())) with
  | .error fault => pure (.error fault)
  | .ok () => makeEntry path node

/-- Whether two places hold one file. -/
def isSameNode (left right : Place) : Run Bool := do
  pure ((← get).files.isSame left right)

/-- Whether two paths name one entry of a folder. For each path it is told whether a link to its
folder counts as the folder. -/
def isSameEntryOf (follow followRight : Bool) (left right : Text) : Run Bool := do
  if lastName left != lastName right then pure false
  else match ← look follow (folderName left), ← look followRight (folderName right) with
    | .ok (a, _), .ok (b, _) => pure (a == b)
    | _, _ => pure false

/-- Whether two paths name one entry of a folder. A folder that only a link leads to counts as
another one. -/
def isSameEntry (left right : Text) : Run Bool :=
  isSameEntryOf false false left right

/-! ## Operands -/

/-- What the operands and options say about where things go. -/
inductive Targets where
  /-- Each to a path in a folder. -/
  | inside (folder : Text) (sources : List Text)
  /-- One thing to one path. -/
  | exact (source path : Text)
  /-- Nowhere, with a complaint, which can be about the use of the utility. -/
  | refused (isUse : Bool) (complaint : Message)

/-- The folder that options name as the one that things go into. More than one is refused. -/
def namedFolder (a : Arguments) : Except Message (Option Text) :=
  match a.options.filter (·.1 == 't') with
  | [] => .ok none
  | [(_, folder)] => .ok (some folder)
  | _ => .error "multiple target directories specified".toList

/-- What is told where the last operand is to be a folder by one option and none by another. -/
def bothTargets : Message :=
  "cannot combine --target-directory (-t) and --no-target-directory (-T)".toList

/-- What a folder that cannot be a target is told as. -/
def targetRefusal (path : Text) (fault : PathFault) : Message :=
  refusal "target".toList path fault

/-- The path where something goes in a folder, by the last name of the path it comes from. -/
def insidePath (folder source : Text) : Text :=
  inFolder folder (lastName source)

end JarLens.Shell.Utility
