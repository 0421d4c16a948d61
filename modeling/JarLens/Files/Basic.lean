import JarLens.Files.Tree

/-!
# Files

The files of a machine: a tree of names, and what is known by the numbers in it. The root, which has
the number 0, is always a folder. Several places can be names of one file: what is put at one of
them lies at all.
-/

namespace JarLens

/-- What can lie at a place. -/
inductive Node where
  /-- A regular file with its permission bits. -/
  | file (content : ByteArray) (mode : Nat)
  /-- A folder with its permission bits. -/
  | folder (mode : Nat)
  /-- A symbolic link. -/
  | link (target : Text)
  /-- A device from which nothing comes. What is written there is gone, or refused if it is full. -/
  | device (isFull : Bool)

/-- Whether it is a regular file. -/
def Node.isFile : Node → Bool
  | .file _ _ => true
  | _ => false

/-- Whether it is a folder. -/
def Node.isFolder : Node → Bool
  | .folder _ => true
  | _ => false

/-- Whether permission bits let the owner of a file read it, or tell what a folder holds. All files
belong to the user of the machine, for whom no exception is made. -/
def isReadable (mode : Nat) : Bool :=
  mode &&& 0o400 != 0

/-- Whether permission bits let the owner of a file write it, or change what a folder holds. -/
def isWritable (mode : Nat) : Bool :=
  mode &&& 0o200 != 0

/-- Whether permission bits let the owner of a file run it, or look for a name in a folder. -/
def isExecutable (mode : Nat) : Bool :=
  mode &&& 0o100 != 0

/-- Whether the user can read what lies somewhere. -/
def Node.isReadable : Node → Bool
  | .file _ mode | .folder mode => JarLens.isReadable mode
  | _ => true

/-- Whether the user can look for names in what lies somewhere. -/
def Node.isSearchable : Node → Bool
  | .folder mode => isExecutable mode
  | _ => false

/-- Whether the user can change what is held by what lies somewhere. -/
def Node.isChangeable : Node → Bool
  | .folder mode => isExecutable mode && isWritable mode
  | _ => false

/-- The permission bits of a new folder. -/
def newFolderMode : Nat := 0o755

/-- The moment at which everything starts. -/
def firstMoment : Nat := 1750000000000000

/-- What is known by a number. -/
structure Item where
  node : Node
  /-- When it was changed. -/
  changed : Nat := firstMoment

/-- The files of a machine. -/
structure Files where
  names : NameTree := .node 0 []
  /-- What the numbers stand for. What has no name any more is still known by its number. -/
  items : Array Item := #[{ node := .folder newFolderMode }]
  /-- The present moment, in microseconds since the start of 1970. -/
  clock : Nat := firstMoment

namespace Files

/-- The number of what lies at a place. -/
def number? (files : Files) (place : Place) : Option Nat :=
  (files.names.at? place).map (·.number)

/-- What is known by a number. -/
def node? (files : Files) (number : Nat) : Option Node :=
  files.items[number]?.map (·.node)

/-- What lies at a place. -/
def get? (files : Files) (place : Place) : Option Node :=
  (files.number? place).bind files.node?

/-- Whether two places are names of one file. -/
def isSame (files : Files) (place other : Place) : Bool :=
  place == other || (files.number? place).isSome && files.number? place == files.number? other

/-- How many names that has which lies at a place. -/
def nameCount (files : Files) (place : Place) : Nat :=
  ((files.number? place).map fun k => files.names.count k).getD 0

/-- The files with `node` at a place, and at all places that are names of the same file. -/
def withNode (files : Files) (place : Place) (node : Node) : Files :=
  match files.number? place with
  | some k => { files with items := files.items.modify k ({ · with node }) }
  | none =>
    { files with
      names := files.names.add place (.node files.items.size [])
      items := files.items.push { node } }

/-- How far apart two moments are at least that are told apart in what is known of changes. -/
def tick : Nat := 4000

/-- When what lies at a place was changed. -/
def changedAt (files : Files) (place : Place) : Nat :=
  (((files.number? place).bind (files.items[·]?)).map (·.changed)).getD firstMoment

/-- The files where what lies at a place was changed at a moment. -/
def withChange (files : Files) (place : Place) (moment : Nat) : Files :=
  match files.number? place with
  | some k => { files with items := files.items.modify k ({ · with changed := moment }) }
  | none => files

/-- The files where what lies at a place was changed just now. -/
def touch (files : Files) (place : Place) : Files :=
  files.withChange place (files.clock / tick * tick)

/-- The files with `node` at a place, and at all places that are names of the same file, which is a
change of it, and of its folder if nothing lay there. -/
def put (files : Files) (place : Place) (node : Node) : Files :=
  let files := if (files.get? place).isSome then files else files.touch place.dropLast
  (files.withNode place node).touch place

/-- The files with `node` known by a number, which is a change of it. -/
def putKnown (files : Files) (number : Nat) (node : Node) : Files :=
  { files with
    items := files.items.modify number fun _ => { node, changed := files.clock / tick * tick } }

/-- The place now of what is known by a number and lay at `place` before. None if it has no place
any more. -/
def placeNow? (files : Files) (number : Nat) (place : Place) : Option Place :=
  if files.number? place = some number then some place else files.names.find? number

/-- The files without a place and all that lies beneath it. -/
def erase (files : Files) (place : Place) : Files :=
  let files := files.touch place.dropLast
  { files with names := files.names.without place }

/-- The files with `new`, where nothing lies, as another name of what lies at `place`. -/
def share (files : Files) (place new : Place) : Files :=
  match files.names.at? place with
  | some t =>
    let files := files.touch new.dropLast
    { files with names := files.names.add new t }
  | none => files

/-- The files after all that lies at `place` and beneath it came to lie at `goal`, and what lay
there before is gone. -/
def move (files : Files) (place goal : Place) : Files :=
  match files.names.at? place with
  | some t =>
    let files := (files.erase goal).touch place.dropLast
    { files with names := (files.names.without place).add goal t }
  | none => files

/-- Whether the user can make and remove names in a folder. -/
def mayChange (files : Files) (folder : Place) : Bool :=
  (files.get? folder).any Node.isChangeable

/-- The names in a folder. -/
def namesIn (files : Files) (folder : Place) : List Text :=
  ((files.names.at? folder).map fun t => t.held.map (·.1)).getD []

/-- The files with a folder at every place on the way to `place`, and there too, where nothing lies
yet. -/
def makeFolders (files : Files) (place : Place) : Files :=
  (List.range place.length).foldl (fun files k =>
    let above := place.take (k + 1)
    if (files.get? above).isSome then files else files.put above (.folder newFolderMode)) files

end Files

end JarLens
