import JarLens.Files.Basic
import JarLens.Files.PathName

/-!
# Following a path

How the system follows a path from a folder: dots stay and go up, links are followed, and every name
but the last has to lead to a folder. `walk` does this by the path's text; `resolve` replaces the
links in a path, as far as the system lets it see them, without asking that anything lies there.
-/

namespace JarLens

/-- Why the system refuses a path. -/
inductive PathFault where
  | missing
  | notFolder
  | isFolder
  | tooLong
  | linkLoop
  | exists
  | denied
  /-- A folder holds something. -/
  | notEmpty
  /-- What a path names is in use. -/
  | busy
  /-- What is asked for makes no sense. -/
  | invalid
  | notProgram
  /-- What a program would be started with takes too much room. -/
  | tooBig
  deriving DecidableEq, Repr

/-- Where a path leads. The last name of a path may lead to nothing. -/
structure Spot where
  place : Place
  node : Option Node

namespace Files

/-- The number of links that are followed on one path. -/
def linkLimit : Nat := 40

/-- The greatest number of bytes in a name. -/
def nameLimit : Nat := 255

/-- The greatest number of bytes in a path. -/
def pathLimit : Nat := 4095

/-- The number of bytes that a text takes. -/
def byteLength (t : Text) : Nat :=
  t.foldl (fun n c => n + c.utf8Size) 0

/-- The folders from one up to the root, which is left out, each with its name. -/
abbrev Way := List (Text × NameTree)

/-- The place that a way leads to. -/
def Way.place (way : Way) : Place :=
  (way.map (·.1)).reverse

/-- The way on from `tree` to a place. What is not there holds nothing. -/
def wayFrom : (tree : NameTree) → (above : Way) → Place → Way
  | _, above, [] => above
  | tree, above, name :: rest =>
    let next := (tree.held.lookup name).getD (.node 0 [])
    wayFrom next ((name, next) :: above) rest

/-- The folder that a way from `root` leads to. -/
def Way.folder (root : NameTree) (way : Way) : NameTree :=
  (way.head?.map (·.2)).getD root

/-- Follows names from the end of a way, and links by `onLink`, which is given the way to start from
and the names to follow. A link that comes last is followed if `follow` is set. Nothing can lie in a
folder that is gone. -/
def walkWith (files : Files) (follow : Bool) (onLink : Way → List Text → Except PathFault Spot) :
    (above : Way) → (names : List Text) → Except PathFault Spot
  | above, [] => .ok ⟨Way.place above, files.node? (Way.folder files.names above).number⟩
  | above, name :: rest =>
    let folder := Way.folder files.names above
    if name = [] then walkWith files follow onLink above rest
    else if !(files.node? folder.number).any Node.isSearchable then .error .denied
    else if name = ['.'] then walkWith files follow onLink above rest
    else if name = ['.', '.'] then walkWith files follow onLink above.tail rest
    else if nameLimit < byteLength name then .error .tooLong
    else
      let spot := fun node => Spot.mk (Way.place ((name, folder) :: above)) node
      match folder.held.lookup name with
      | none =>
        if rest = [] && (files.names.at? (Way.place above)).isSome then .ok (spot none)
        else .error .missing
      | some tree =>
        match files.node? tree.number with
        | some (.link target) =>
          if rest = [] && !follow then .ok (spot (some (.link target)))
          else
            onLink (if target.head? = some '/' then [] else above) (Text.splitOn '/' target ++ rest)
        | some (.folder _) => walkWith files follow onLink ((name, tree) :: above) rest
        | node => if rest = [] then .ok (spot node) else .error .notFolder

/-- Follows names from the end of a way, with at most `links` links on the way. -/
def walkNames (files : Files) (follow : Bool) :
    (links : Nat) → (above : Way) → (names : List Text) → Except PathFault Spot
  | 0 => walkWith files follow fun _ _ => .error .linkLoop
  | links + 1 => walkWith files follow (walkNames files follow links)

/-- Follows a path from the folder `here`. -/
def walk (files : Files) (follow : Bool) (here : Place) (path : Text) : Except PathFault Spot :=
  if path = [] then .error .missing
  else if pathLimit < byteLength path then .error .tooLong
  else walkNames files follow linkLimit
    (if path.head? = some '/' then [] else wayFrom files.names [] here) (Text.splitOn '/' path)

/-- What lies where a path leads. -/
def find (files : Files) (here : Place) (path : Text) : Except PathFault Node :=
  match files.walk true here path with
  | .ok ⟨_, some node⟩ => .ok node
  | .ok ⟨_, none⟩ => .error .missing
  | .error fault => .error fault

/-- Whether anything that can be read is found at a path. There is no answer for a path that is too
long, or that leads through a folder which cannot be looked into. -/
def has (files : Files) (path : Text) : Except PathFault Bool :=
  match files.find [] path with
  | .ok node => .ok node.isReadable
  | .error .tooLong => .error .tooLong
  | .error .denied => .error .denied
  | .error _ => .ok false

/-- Where the link leads that lies at a path, followed from `here`. What the system does not let
see is no link. -/
def linkAt? (files : Files) (here : Place) (path : PathName) : Option Text :=
  match files.walk false here path.toText with
  | .ok ⟨_, some (.link target)⟩ => some target
  | _ => none

/-- The links that were met, each with the path that it leads to once this is known. -/
abbrev MetLinks := List (PathName × Option PathName)

/-- What a path is resolved to. -/
structure Resolved where
  path : PathName
  /-- Nothing is left as it was written because a link leads back to itself. -/
  isWhole : Bool
  links : MetLinks

/-- The path that names lead to after `path`: dots are worked out and links replaced by where they
lead, whether or not anything lies there. Where a link leads is worked out by `onLink`, and once for
each link. From a link on that leads back to itself, the names are left as they are. -/
def resolveWith (files : Files) (here : Place)
    (onLink : MetLinks → PathName → List Text → Option Resolved) :
    MetLinks → (path : PathName) → (names : List Text) → Option Resolved
  | links, path, [] => some ⟨path, true, links⟩
  | links, path, name :: rest =>
    if name = [] || name = ['.'] then resolveWith files here onLink links path rest
    else if name = ['.', '.'] then resolveWith files here onLink links path.up rest
    else
      let next := path.concat name
      match files.linkAt? here next with
      | none => resolveWith files here onLink links next rest
      | some target =>
        match links.lookup next with
        | some (some goal) => resolveWith files here onLink links goal rest
        | some none => some ⟨next.withRest rest, false, links⟩
        | none =>
          match onLink ((next, none) :: links)
              (if target.head? = some '/' then .root else path) (Text.splitOn '/' target) with
          | none => none
          | some found =>
            if found.isWhole then
              resolveWith files here onLink ((next, some found.path) :: found.links) found.path rest
            else some { found with path := found.path.withRest rest }

/-- The path that names lead to after `path`. None when more than `depth` links lead to one
another. -/
def resolveNames (files : Files) (here : Place) :
    (depth : Nat) → MetLinks → (path : PathName) → (names : List Text) → Option Resolved
  | 0 => resolveWith files here fun _ _ _ => none
  | depth + 1 => resolveWith files here (resolveNames files here depth)

/-- What a path is resolved to from `here`. -/
def resolve (files : Files) (depth : Nat) (here : Place) (path : PathName) : Option Resolved :=
  files.resolveNames here depth [] (if path.isAbsolute then .root else ⟨0, []⟩) path.parts

/-- The place that a resolved path names. Dots that are left in it go up whatever lies there. -/
def Resolved.place (found : Resolved) (here : Place) : Place :=
  Place.follow (if found.path.isAbsolute then [] else here) found.path.parts

end Files

end JarLens
