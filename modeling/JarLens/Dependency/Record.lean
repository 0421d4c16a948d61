import JarLens.Text.LowerCase
import JarLens.Text.Blank
import Std.Data.HashSet

/-!
# Dependency records

One resolved artifact and where its file lies. A query keeps the records that mention it; a path
that several lines report belongs to the first of them.
-/

namespace JarLens.Dependency

/-- A resolved artifact. -/
structure Record where
  group : Text
  artifact : Text
  /-- The packaging, such as `jar`. -/
  packaging : Text
  classifier : Option Text
  version : Text
  /-- The scope, or the configuration, that asked for it. -/
  scope : Text
  /-- Where the artifact's file lies. -/
  path : Text
  deriving DecidableEq

/-- Group and artifact with a colon between. -/
def Record.coordinates (r : Record) : Text :=
  r.group ++ ':' :: r.artifact

/-- A query as it is searched for. -/
def needle (query : Option Text) : Text :=
  Text.lower (Text.strip (query.getD []))

/-- Whether a record mentions a needle in its coordinates or its path, in any letter case. -/
def Record.mentions (r : Record) (needle : Text) : Bool :=
  Text.occursIn needle (Text.lower r.coordinates) || Text.occursIn needle (Text.lower r.path)

/-- The records that mention the query, all of them when it is blank. -/
def matching (query : Option Text) (records : List Record) : List Record :=
  if (needle query).isEmpty then records else records.filter (·.mentions (needle query))

/-- Texts are hashed by their characters in order. -/
instance : Hashable Text where
  hash t := t.foldl (fun code c => mixHash code c.val.toUInt64) 7

/-- The records whose paths are not `seen` yet, and of equal paths only the first. -/
def firstByUnseenPath (seen : Std.HashSet Text) : List Record → List Record
  | [] => []
  | r :: records =>
    if seen.contains r.path then firstByUnseenPath seen records
    else r :: firstByUnseenPath (seen.insert r.path) records

/-- The records without those whose path an earlier one has. -/
def firstByPath (records : List Record) : List Record :=
  firstByUnseenPath ∅ records

end JarLens.Dependency
