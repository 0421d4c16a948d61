import JarLens.Text.Lines
import JarLens.Dependency.Record

/-!
# Maven listings

Maven writes a resolved artifact as

    group:artifact:type[:classifier]:version:scope:path

after an optional log label, and newer versions add ` -- module` and a remark. Groups may hold
colons, so fields are counted from the right; the path is the last field, or what follows the first
colon that a drive letter comes after.
-/

namespace JarLens.Dependency

/-- The log label `[INFO]` and the white space after it, at least one character, taken off. -/
def dropLogLabel (line : Text) : Text :=
  match Text.dropPrefix? "[INFO]".toList line with
  | some (c :: rest) => if Text.isBlank c then Text.trimStart Text.isBlank rest else line
  | _ => line

/-- Whether what follows white space is a module remark: two dashes, white space, the word `module`,
white space, and then no line feed up to the end. -/
def isModuleRemark (t : Text) : Bool :=
  match Text.dropPrefix? "--".toList t with
  | some (c :: rest) =>
    Text.isBlank c &&
    match Text.dropPrefix? "module".toList (Text.trimStart Text.isBlank rest) with
    | some (d :: remark) => Text.isBlank d && '\n' ∉ Text.trimStart Text.isBlank remark
    | _ => false
  | _ => false

/-- The text before the first white space that a module remark follows. -/
def dropModuleRemark : Text → Text
  | [] => []
  | c :: rest =>
    if Text.isBlank c && isModuleRemark (Text.trimStart Text.isBlank rest) then []
    else c :: dropModuleRemark rest

/-- Whether a text starts with a drive letter, a colon and a slash of either kind. -/
def startsWithDrive (t : Text) : Bool :=
  match t with
  | letter :: ':' :: slash :: _ => letter.isAlpha && (slash == '/' || slash == '\\')
  | _ => false

/-- The parts around the first colon that a drive letter follows, with no line feed after it. -/
def cutAtDrive? : Text → Option (Text × Text)
  | [] => none
  | c :: rest =>
    if c = ':' && startsWithDrive rest && '\n' ∉ rest then some ([], rest)
    else (cutAtDrive? rest).map fun (before, path) => (c :: before, path)

/-- The fields of a line before its path, and the path. -/
def cutPath? (line : Text) : Option (Text × Text) :=
  cutAtDrive? line <|> Text.cutLast? ':' line

/-- The record whose fields before the path are `fields`, the last ones first. -/
def recordOfFields? (path : Text) : List Text → Option Record
  | scope :: version :: classifier :: packaging :: artifact :: group :: groups =>
    some { group := Text.join [':'] (group :: groups).reverse, artifact, packaging,
           classifier := some classifier, version, scope, path }
  | [scope, version, packaging, artifact, group] =>
    some { group, artifact, packaging, classifier := none, version, scope, path }
  | _ => none

/-- Whether a line is one of the headings that Maven prints around a listing. -/
def isHeading (line : Text) : Bool :=
  Text.startsWith line "---".toList || Text.startsWith line "The following".toList

/-- The record of one line, none when the line lists no artifact. -/
def Record.ofMavenLine? (line : Text) : Option Record :=
  let line := Text.strip (dropLogLabel line)
  if isHeading line then none
  else do
    let (fields, path) ← cutPath? (dropModuleRemark line)
    recordOfFields? (Text.strip path) (Text.splitOn ':' fields).reverse

/-- The records of a listing, one for each path. -/
def recordsOfMaven (listing : Text) : List Record :=
  firstByPath ((Text.lines listing).filterMap Record.ofMavenLine?)

end JarLens.Dependency
