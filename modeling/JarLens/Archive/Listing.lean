import JarLens.Archive.Directory

/-!
# Listings

An archive is shown one folder at a time. Whatever lies deeper than the folder's own members shows
as the folder on the way to it, once. Folders come first, then files, each by code point, and a name
that is both shows as a folder.
-/

namespace JarLens

/-- One row of a listing. -/
structure Row where
  name : Text
  isFolder : Bool
  size : Nat
  compressedSize : Nat
  deriving DecidableEq

/-- A listing of one folder, cut to a number of rows. -/
structure Listing where
  /-- The folder, a slash for the archive itself. -/
  folder : Text
  /-- The number of rows before the cut. -/
  total : Nat
  truncated : Bool
  rows : List Row
  deriving DecidableEq

namespace Archive

/-- What one member adds to a listing. -/
inductive Contribution where
  | folder (name : Text)
  | file (name : Text) (member : Member)

/-- The rest of a normalized path that lies beneath `folder`; all of it lies beneath the archive's
root. -/
def beneath? (folder path : Text) : Option Text :=
  if folder = [] then some path else Text.dropPrefix? (folder ++ ['/']) path

/-- What a member adds to the listing of `folder`: nothing unless its path lies beneath, the folder
that its rest starts with when the rest goes deeper or the member is a folder, and a file otherwise.
-/
def contribution? (folder : Text) (m : Member) : Option Contribution := do
  let rest ← beneath? folder m.path
  if rest = [] then none
  else
    let head := rest.takeWhile (· != '/')
    if rest.contains '/' || m.isFolder then some (.folder head) else some (.file head m)

/-- The folders among contributions. -/
def folderNames (cs : List Contribution) : List Text :=
  cs.filterMap fun | .folder name => some name | .file _ _ => none

/-- The files among contributions, each by its name. -/
def fileMembers (cs : List Contribution) : List (Text × Member) :=
  cs.filterMap fun | .folder _ => none | .file name m => some (name, m)

/-- The row of a folder. -/
def folderRow (name : Text) : Row :=
  { name, isFolder := true, size := 0, compressedSize := 0 }

/-- The row of a file, with the sizes of the first member that goes by its name. -/
def fileRow? (files : List (Text × Member)) (name : Text) : Option Row :=
  (files.lookup name).map fun m =>
    { name, isFolder := false, size := m.size, compressedSize := m.compressedSize }

/-- All rows of a folder, given in its one spelling. -/
def rows (members : List Member) (folder : Text) : List Row :=
  let cs := members.filterMap (contribution? folder)
  let folders := sortTexts (distinct (folderNames cs))
  let files := sortTexts (distinct ((fileMembers cs).map (·.1)))
  folders.map folderRow ++
    (files.filter (!folders.contains ·)).filterMap (fileRow? (fileMembers cs))

/-- The first `limit` rows; a negative limit leaves out that many at the end. -/
def takeRows (limit : Int) (rows : List Row) : List Row :=
  match limit with
  | .ofNat n => rows.take n
  | .negSucc n => rows.take (rows.length - (n + 1))

/-- The listing of a folder, given in any spelling, with at most `limit` rows. -/
def list (members : List Member) (limit : Int) (folder : Text) : Listing :=
  let folder := Entry.normalize folder
  let all := rows members folder
  { folder := if folder = [] then ['/'] else folder
    total := all.length
    truncated := limit < all.length
    rows := takeRows limit all }

end Archive

end JarLens
