import JarLens.Files.Walk

/-!
# Changing files

What programs do to files: write and append, make and copy, link and remove. Each operation follows
its path the way reading does.
-/

namespace JarLens.Files

/-- The permission bits of a new file. -/
def newFileMode : Nat := 0o644

/-- The files after `content` is written where a path leads, in place of what a file held there. A
file that exists keeps its permission bits. -/
def write (files : Files) (here : Place) (path : Text) (content : ByteArray) :
    Except PathFault Files := do
  match ← files.walk true here path with
  | ⟨place, none⟩ =>
    if files.mayChange place.dropLast then .ok (files.put place (.file content newFileMode))
    else .error .denied
  | ⟨place, some (.file _ mode)⟩ =>
    if isWritable mode then .ok (files.put place (.file content mode)) else .error .denied
  | ⟨_, some (.device _)⟩ => .ok files
  | ⟨_, some _⟩ => .error .isFolder

/-- The bytes of the file that a path leads to. -/
def read (files : Files) (here : Place) (path : Text) : Except PathFault ByteArray := do
  match ← files.find here path with
  | .file content mode => if isReadable mode then .ok content else .error .denied
  | .device _ => .ok .empty
  | _ => .error .isFolder

/-- The files after `content` is added to what a path leads to. -/
def append (files : Files) (here : Place) (path : Text) (content : ByteArray) :
    Except PathFault Files :=
  match files.read here path with
  | .ok old => files.write here path (old ++ content)
  | .error .missing => files.write here path content
  | .error fault => .error fault

/-- The path without the slashes it ends with, the root's own kept. -/
def dropFinalSlashes (path : Text) : Text :=
  match Text.trimEnd (· == '/') path with
  | [] => path.take 1
  | t => t

/-- The files with something new where a path leads. -/
def makeNew (files : Files) (here : Place) (path : Text) (node : Node) :
    Except PathFault Files := do
  match ← files.walk false here path with
  | ⟨place, none⟩ =>
    if files.mayChange place.dropLast then .ok (files.put place node) else .error .denied
  | ⟨_, some _⟩ => .error .exists

/-- The files with a new folder where a path leads. -/
def makeFolder (files : Files) (here : Place) (path : Text) (mode : Nat) : Except PathFault Files :=
  files.makeNew here (dropFinalSlashes path) (.folder mode)

/-- The files with a folder for every part of a path that has none yet. -/
def makeFolderPath (files : Files) (here : Place) (path : PathName) : Except PathFault Files :=
  (List.range path.parts.length).foldlM (fun files k =>
    let part := ({ path with parts := path.parts.take (k + 1) } : PathName).toText
    match files.find here part with
    | .ok (.folder _) => .ok files
    | .ok _ => .error (if k + 1 = path.parts.length then .exists else .notFolder)
    | .error .missing => files.makeFolder here part newFolderMode
    | .error fault => .error fault) files

/-- The files with a symbolic link to `target` at a path, which must lead to nothing yet. -/
def makeLink (files : Files) (here : Place) (target path : Text) : Except PathFault Files :=
  files.makeNew here path (.link target)

/-! ## Entries of folders -/

/-- An entry of a folder that a path names, whether or not there is one. -/
structure Entry where
  folder : Place
  /-- Its name, empty for the root. -/
  name : Text
  /-- Whether the path ends with a slash. -/
  isSlashed : Bool

/-- The place of an entry. -/
def Entry.place (e : Entry) : Place :=
  e.folder ++ [e.name]

/-- Whether the entry has a name of its own. -/
def Entry.isOwn (e : Entry) : Bool :=
  !(e.name.isEmpty || e.name == ['.'] || e.name == ['.', '.'])

/-- The entry that a path names. -/
def entry (files : Files) (here : Place) (path : Text) : Except PathFault Entry := do
  if path = [] then throw .missing
  let trimmed := Text.trimEnd (· == '/') path
  let name := (trimmed.reverse.takeWhile (· != '/')).reverse
  let above := trimmed.take (trimmed.length - name.length)
  let above := if above = [] && path.head? != some '/' then ['.'] else if above = [] then ['/']
    else above
  if pathLimit < byteLength path || nameLimit < byteLength name then throw .tooLong
  match ← files.find here above with
  | .folder mode =>
    if !isExecutable mode then throw .denied
    let ⟨folder, _⟩ ← files.walk true here above
    pure { folder, name, isSlashed := trimmed.length < path.length }
  | _ => throw .notFolder

/-- The files without the file that a path names. -/
def removeFile (files : Files) (here : Place) (path : Text) : Except PathFault Files := do
  let e ← files.entry here path
  if !e.isOwn then throw .isFolder
  match files.get? e.place with
  | none => throw .missing
  | some node =>
    if e.isSlashed then throw (if node.isFolder then .isFolder else .notFolder)
    if !files.mayChange e.folder then throw .denied
    if node.isFolder then throw .isFolder
    pure (files.erase e.place)

/-- The files without the empty folder that a path names. -/
def removeFolder (files : Files) (here : Place) (path : Text) : Except PathFault Files := do
  let e ← files.entry here path
  if e.name = [] then throw .busy
  if e.name = ['.'] then throw .invalid
  if e.name = ['.', '.'] then throw .notEmpty
  match files.get? e.place with
  | none => throw .missing
  | some node =>
    if !files.mayChange e.folder then throw .denied
    if !node.isFolder then throw .notFolder
    if !(files.namesIn e.place).isEmpty then throw .notEmpty
    pure (files.erase e.place)

/-- Whether the permission bits of a folder let the user bring it to another one. -/
def mayLeave (files : Files) (folder : Place) : Bool :=
  match files.get? folder with
  | some (.folder mode) => isWritable mode
  | _ => true

/-- The files after what one path names came to have the name of another path, in place of what had
it, which has to be of the same kind, and empty if it is a folder. With `keeps` there may be
nothing. -/
def rename (files : Files) (keeps : Bool) (here : Place) (source path : Text) :
    Except PathFault Files := do
  let old ← files.entry here source
  let new ← files.entry here path
  if !old.isOwn then throw .busy
  if !new.isOwn then throw (if keeps then .exists else .busy)
  match files.get? old.place, files.get? new.place with
  | none, _ => throw .missing
  | some node, taken =>
    if keeps && taken.isSome then throw .exists
    if !node.isFolder && (old.isSlashed || new.isSlashed) then throw .notFolder
    if old.place.isPrefixOf new.folder then throw .invalid
    if new.place.isPrefixOf old.folder then throw .notEmpty
    if files.isSame old.place new.place then return files
    if !files.mayChange old.folder || !files.mayChange new.folder then throw .denied
    let isStuck := node.isFolder && old.folder != new.folder && !files.mayLeave old.place
    match taken with
    | none => if isStuck then throw .denied else pure (files.move old.place new.place)
    | some taken =>
      if node.isFolder && !taken.isFolder then throw .notFolder
      if !node.isFolder && taken.isFolder then throw .isFolder
      if isStuck then throw .denied
      if !(files.namesIn new.place).isEmpty then throw .notEmpty
      pure (files.move old.place new.place)

/-! ## Whole folders -/

mutual

/-- What is left when all is removed that the user can remove, given whether names can be removed in
the folder above. A folder is left as it is if it cannot be read or looked into. -/
def leftOf (files : Files) (isFree : Bool) : NameTree → Option NameTree
  | .node number held =>
    match files.node? number with
    | some (.folder mode) =>
      if !isReadable mode || !isExecutable mode then some (.node number held)
      else
        let held := leftOfHeld files (isWritable mode) held
        if isFree && held.isEmpty then none else some (.node number held)
    | _ => if isFree then none else some (.node number held)

/-- What is left of what a folder holds. -/
def leftOfHeld (files : Files) (isFree : Bool) : List (Text × NameTree) → List (Text × NameTree)
  | [] => []
  | (name, t) :: rest =>
    let others := leftOfHeld files isFree rest
    match leftOf files isFree t with
    | some t => (name, t) :: others
    | none => others

end

/-- The files without a folder and all that it holds, as far as the user can remove that. What is no
folder stays. -/
def eraseFolder (files : Files) (place : Place) : Files :=
  match files.get? place, files.names.at? place with
  | some (.folder _), some t =>
    match leftOf files (files.mayChange place.dropLast) t with
    | some left => { files with names := (files.names.without place).add place left }
    | none => files.erase place
  | _, _ => files

/-- The files without what lies where a path leads; a link is removed itself, a folder with all that
it holds. -/
def remove (files : Files) (here : Place) (path : Text) : Except PathFault Files := do
  match ← files.walk false here path with
  | ⟨_, none⟩ => .error .missing
  | ⟨place, some _⟩ =>
    match (files.names.at? place).bind (leftOf files (files.mayChange place.dropLast)) with
    | some _ => .error .denied
    | none => .ok (files.erase place)

end JarLens.Files
