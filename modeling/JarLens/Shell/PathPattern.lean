import JarLens.Shell.Pattern
import JarLens.Shell.Variables
import JarLens.Shell.Opening

/-!
# Patterns of paths

A field with pattern characters stands for all paths that match it, in the order of their bytes.
Each part between slashes is matched against the names in a folder; a name that starts with a dot
only matches a part that does.
-/

namespace JarLens.Shell

/-- The first part of a pattern, and the pattern after the slash that ends it. -/
def cutPart : Text → Text × Option Text
  | [] => ([], none)
  | '/' :: p => ([], some p)
  | '\\' :: '/' :: p => ([], some p)
  | '\\' :: c :: p =>
    let (part, rest) := cutPart p
    ('\\' :: c :: part, rest)
  | c :: p =>
    let (part, rest) := cutPart p
    (c :: part, rest)

/-- A pattern without its backslashes. -/
def literalText : Text → Text
  | '\\' :: c :: p => c :: literalText p
  | c :: p => c :: literalText p
  | [] => []

/-- Whether brackets are closed, after at least one character in them. -/
def closesBracket : Text → Bool
  | [] => false
  | '\\' :: _ :: p => p.head? == some ']' || closesBracket p
  | _ :: p => p.head? == some ']' || closesBracket p

/-- Whether a part of a pattern can match more than one name. -/
def isOpenPart : Text → Bool
  | [] => false
  | '\\' :: _ :: p => isOpenPart p
  | c :: p =>
    c == '*' || c == '?' ||
      (c == '[' && closesBracket (if p.head? == some '!' then p.drop 1 else p)) || isOpenPart p

/-- Whether a part of a pattern starts with a dot. -/
def matchesHidden (part : Text) : Bool :=
  let part := if part.head? == some '\\' then part.drop 1 else part
  part.head? == some '.'

/-- The names in the folder that a path leads to, the current one for an empty path. None are told
of a folder that cannot be read. -/
def namesIn (p : Process) (path : Text) : List Text :=
  match Run.walk p true (if path.isEmpty then ['.'] else path) with
  | .ok ⟨place, some (.folder mode)⟩ =>
    if isReadable mode then ['.'] :: ['.', '.'] :: (p.files.namesIn place).map encoded else []
  | _ => []

/-- Whether something lies at a path, a link itself included. -/
def isThere (p : Process) (path : Text) : Bool :=
  match Run.walk p false path with
  | .ok ⟨_, some _⟩ => true
  | _ => false

/-- The paths that start with `start` and go on as a pattern says. Without any open part there is
nothing to match if nothing was matched before. -/
def matchingPaths (p : Process) : (steps : Nat) → (start pattern : Text) → (hasMatched : Bool) →
    List Text
  | 0, _, _, _ => []
  | steps + 1, start, pattern, hasMatched =>
    let (part, rest) := cutPart pattern
    if isOpenPart part then
      let names := (namesIn p start).filter fun name =>
        (name.head? != some '.' || matchesHidden part) && isMatch part name
      match rest with
      | none => names.map (start ++ ·)
      | some rest =>
        names.flatMap fun name => matchingPaths p steps (start ++ name ++ ['/']) rest true
    else
      match rest with
      | some rest => matchingPaths p steps (start ++ literalText part ++ ['/']) rest hasMatched
      | none =>
        let path := start ++ literalText part
        if hasMatched && isThere p path then [path] else []

/-- What a field stands for: the paths that match it, and itself if there is none. -/
def expandPath (p : Process) (field : List Glyph) : List Text :=
  let t := textOf field
  if p.options.any (· == 'f') || !t.any (fun c => c == '*' || c == '?' || c == '[') then [t]
  else
    let pattern := patternOf false field
    match matchingPaths p (pattern.length + 1) [] pattern false with
    | [] => [t]
    | paths => sortTexts paths

end JarLens.Shell
