import JarLens.Archive.Data
import JarLens.Text.Limit

/-!
# Looking up an entry

An entry is looked up by its normalized path: first among the names as written, where the last of
equal ones counts, then among the normalized names, where the first does. A folder is no entry.
-/

namespace JarLens.Archive

/-- The member that goes by a name as written, the last one of several. -/
def lastNamed? (members : List Member) (name : Text) : Option Member :=
  members.reverse.find? (·.name == name)

/-- The first member whose name has the given spelling once it is normalized. -/
def firstAt? (members : List Member) (path : Text) : Option Member :=
  members.find? (·.path == path)

/-- The member that an entry path leads to, of any kind. -/
def candidate? (members : List Member) (path : Text) : Option Member :=
  if path = [] then none else lastNamed? members path <|> firstAt? members path

/-- The file that an entry path, in any spelling, leads to. -/
def find? (members : List Member) (entry : Text) : Option Member :=
  (candidate? members (Entry.normalize entry)).filter (!·.isFolder)

/-- Whether an entry path leads to a file. -/
def hasEntry (archive : Archive) (entry : Text) : Bool :=
  (find? archive.members entry).isSome

/-- The text of an entry as shown to a reader, none when the path leads to no file. -/
def readText (archive : Archive) (entry : Text) : Except MemberFault (Option Text) :=
  match find? archive.members entry with
  | none => .ok none
  | some m => do
    let data ← read archive m
    pure (some (Text.shown (Text.decodeUtf8 data)))

end JarLens.Archive
