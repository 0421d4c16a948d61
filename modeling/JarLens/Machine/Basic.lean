import JarLens.Archive.Listing
import JarLens.Archive.Lookup
import JarLens.Failure
import JarLens.Files.Edit
import JarLens.Machine.Environment
import JarLens.Shell.System

/-!
# The machine

Everything around the program that it can see: the files, the processes of other programs, the
environment and the folder it works in. `Machine.place` finds the place that a path given by a
caller names.
-/

namespace JarLens

/-- What programs change when they run. -/
structure Site where
  files : Files
  processes : Shell.System := {}

/-- What the program sees of the machine it runs on. -/
structure Machine extends Site where
  environment : Environment
  /-- The folder that relative paths start from, none once it was removed. -/
  folder : Option Place
  /-- The folder in which scratch folders are made. -/
  scratch : Place
  /-- The folders that belong to the program. -/
  programFolders : List Place
  /-- The home folders of users, the program's own first. -/
  homes : List (Text × Text)
  /-- The greatest position that files can be read from. The one given here is that of a file of
  2 ^ 32 - 1 blocks of 4096 bytes; other file systems have other limits. -/
  positionLimit : Nat := 17592186040320
  /-- How many links may lead to one another before the program gives up following them. -/
  linkDepth : Nat := 900

namespace Machine

/-- The machine with other files. It works in the same folder as before, wherever that is now. If
the folder is gone it stays gone, even if another one comes to lie at its place. -/
def withFiles (m : Machine) (files : Files) : Machine :=
  { m with
    files
    folder := m.folder.bind fun place => (m.files.number? place).bind (files.placeNow? · place) }

/-- The machine after other programs ran. -/
def withSite (m : Machine) (site : Site) : Machine :=
  { m.withFiles site.files with processes := site.processes }

/-- Whether a path names nothing but the folder it starts from, or those above. -/
def staysPut (path : Text) : Bool :=
  path != [] && (Text.splitOn '/' path).all fun name =>
    name == [] || name == ['.'] || name == ['.', '.']

/-- What lies where a path leads. A folder that was removed holds nothing but itself. -/
def find (m : Machine) (path : Text) : Except PathFault Node :=
  match m.folder with
  | some here => m.files.find here path
  | none =>
    if path.head? = some '/' then m.files.find [] path
    else if staysPut path then .ok (.folder newFolderMode)
    else .error .missing

/-- The first path along the search path at which a command lies that the user can run. Along an
empty search path there is none. -/
def findProgram? (m : Machine) (command : Text) : Option Text :=
  if m.environment.get? "PATH".toList = some [] then none
  else
    (m.environment.programPaths command).find? fun path =>
      match m.find path with
      | .ok (.file _ mode) => isExecutable mode
      | _ => false

/-- The bytes of the file that a path leads to. -/
def readFile (m : Machine) (path : Text) : Except PathFault ByteArray := do
  match ← m.find path with
  | .file content mode => if isReadable mode then .ok content else .error .denied
  | _ => .error .isFolder

/-- The home folder of a user by name, and of the program's own user for an empty name. That one may
be set in the environment. -/
def home? (m : Machine) (user : Text) : Option Text :=
  if user = [] then m.environment.get? "HOME".toList <|> m.homes.head?.map (·.2)
  else m.homes.lookup user

/-- The path with the home folder that a leading tilde stands for. -/
def expandHome (m : Machine) (path : PathName) : Except PathTrouble PathName :=
  match path.slashes, path.parts with
  | 0, ('~' :: user) :: parts =>
    if '\x00' ∈ user then .error .nul
    else match m.home? user with
      | none => .error .unknownHome
      | some home =>
        if home.head? = some '~' then .error .unknownHome
        else
          let home := Text.trimEnd (· == '/') home
          .ok (PathName.ofText (if home = [] then ['/'] else home) ++ ⟨0, parts⟩)
  | _, _ => .ok path

/-- The place that a path names, whether or not anything lies there. -/
def place (m : Machine) (path : Text) : Except PathTrouble Place := do
  let name ← m.expandHome (PathName.ofText path)
  if name.parts.any ('\x00' ∈ ·) then throw .nul
  let here ← match if name.isAbsolute then some [] else m.folder with
    | some here => pure here
    | none => throw .folderGone
  match m.files.resolve m.linkDepth here name with
  | none => throw .deepLinks
  | some found =>
    let place := found.place here
    match m.files.find [] place.toText with
    | .error .linkLoop => throw (.linkLoop place.toText)
    | _ => pure place

/-- Whether a path leads to a regular file. -/
def isFile (m : Machine) (path : Text) : Except PathTrouble Bool :=
  if '\x00' ∈ path then .ok false
  else match m.find path with
    | .ok node => .ok node.isFile
    | .error .tooLong => .error (.tooLong path)
    | .error .denied => .error (.denied path)
    | .error _ => .ok false

/-- Whether the user can read what a path leads to. -/
def canRead (m : Machine) (path : Text) : Bool :=
  match m.find path with
  | .ok node => node.isReadable
  | .error _ => false

/-- The place of the archive that a path names, which has to be a regular file that can be read. -/
def archivePlace (m : Machine) (path : Text) : Except Failure Place := do
  match m.place path with
  | .error trouble => throw (.badPath trouble)
  | .ok place =>
    match m.isFile place.toText with
    | .error trouble => throw (.badPath trouble)
    | .ok isFile =>
      if isFile && m.canRead place.toText then pure place
      else throw (.notFound (.archive place.toText))

/-- The archive at a path. -/
def openArchive (m : Machine) (path : Text) : Except Failure Archive := do
  let place ← m.archivePlace path
  match m.files.read [] place.toText with
  | .error _ => throw (.notFound (.archive place.toText))
  | .ok bytes =>
    match Archive.ofBytes m.positionLimit bytes with
    | .ok archive => pure archive
    | .error fault =>
      if fault.isMalformed then throw (.notFound (.unreadable place.toText fault))
      else throw (.badArchive fault)

/-- The listing of a folder in the archive at a path, and the archive's place. -/
def list (m : Machine) (limit : Int) (path folder : Text) : Except Failure (Text × Listing) := do
  let place ← m.archivePlace path
  let archive ← m.openArchive path
  pure (place.toText, Archive.list archive.members limit folder)

/-- Whether an entry path leads to a file in the archive at a path. -/
def hasEntry (m : Machine) (path entry : Text) : Except Failure Bool := do
  pure ((← m.openArchive path).hasEntry entry)

/-- The text of an entry in the archive at a path. -/
def readText (m : Machine) (path entry : Text) : Except Failure (Option Text) := do
  match (← m.openArchive path).readText entry with
  | .ok text => pure text
  | .error fault => throw (.badMember fault)

end Machine

end JarLens
