import JarLens.Text.LowerCase

/-!
# Path names

A path as a caller writes it: relative, or anchored at the root by one slash. Two leading slashes
are kept as two, more count as one. Parts that are empty or a single dot say nothing and vanish;
`..` stays, since what it leads to depends on the files.
-/

namespace JarLens

/-- A path in parts. -/
structure PathName where
  /-- How many slashes it starts with: none, one or two. -/
  slashes : Nat
  parts : List Text
  deriving DecidableEq

namespace PathName

/-- The number of slashes kept of the leading ones. -/
def leadingSlashes (t : Text) : Nat :=
  match (t.takeWhile (· == '/')).length with
  | 0 => 0
  | 2 => 2
  | _ => 1

/-- Reads a path. -/
def ofText (t : Text) : PathName where
  slashes := leadingSlashes t
  parts := (Text.splitOn '/' t).filter fun part => part != [] && part != ['.']

/-- Whether the path starts at the root. -/
def isAbsolute (p : PathName) : Bool :=
  p.slashes != 0

/-- Writes a path; the one without parts is a single dot. -/
def toText (p : PathName) : Text :=
  if p.slashes = 0 && p.parts.isEmpty then ['.']
  else List.replicate p.slashes '/' ++ Text.join ['/'] p.parts

/-- The last part, none for a path without parts. -/
def name? (p : PathName) : Option Text :=
  p.parts.getLast?

/-- The path `q` as seen from `p`, which an absolute `q` ignores. -/
def append (p q : PathName) : PathName :=
  if q.isAbsolute then q else { p with parts := p.parts ++ q.parts }

instance : Append PathName := ⟨append⟩

/-- The root. -/
def root : PathName := ⟨1, []⟩

/-- The path with one more part. -/
def concat (p : PathName) (part : Text) : PathName :=
  { p with parts := p.parts ++ [part] }

/-- The path one part up, where a relative path may lead up from its start. -/
def up (p : PathName) : PathName :=
  match p.parts.getLast? with
  | none => if p.isAbsolute then p else p.concat ['.', '.']
  | some part =>
    if part = ['.', '.'] then p.concat part else { p with parts := p.parts.dropLast }

/-- The path and what is written after it, in pieces. Where that starts with a slash of its own, it
is taken for a path from the root. -/
def withRest (p : PathName) : (rest : List Text) → PathName
  | [] :: piece :: rest => ⟨1, piece :: rest⟩
  | rest => { p with parts := p.parts ++ rest }

/-- The path with another last part. -/
def withName (p : PathName) (name : Text) : PathName :=
  { p with parts := p.parts.dropLast ++ [name] }

/-- The archive name without its suffix `.jar`, in any letter case. -/
def archiveStem (name : Text) : Text :=
  if Text.endsWith (Text.lower name) ".jar".toList then name.take (name.length - 4) else name

/-- The archive next to this one that holds the source texts, none for a path without a name. -/
def sourceSibling? (p : PathName) : Option PathName :=
  p.name?.map fun name => p.withName (archiveStem name ++ "-sources.jar".toList)

end PathName

end JarLens
