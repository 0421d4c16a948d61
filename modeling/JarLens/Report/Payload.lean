import JarLens.Archive.Listing
import JarLens.Dependency.Cache
import JarLens.Report.Json

/-!
# Reports in JSON

The fields under which listings and scans are reported, in order.
-/

namespace JarLens

/-- A row of a listing. -/
def Row.toJson (r : Row) : Json :=
  .ofFields [("path", .text r.name), ("directory", .bool r.isFolder), ("size", .number r.size),
    ("compressedSize", .number r.compressedSize)]

/-- A listing of a folder in the archive at a path. -/
def Listing.toJson (archive : Text) (l : Listing) : Json :=
  .ofFields [("jarPath", .text archive), ("innerPath", .text l.folder), ("total", .number l.total),
    ("truncated", .bool l.truncated), ("entries", .array (l.rows.map Row.toJson))]

namespace Dependency

/-- A resolved artifact. -/
def Record.toJson (r : Record) : Json :=
  .ofFields [("groupId", .text r.group), ("artifactId", .text r.artifact),
    ("type", .text r.packaging), ("classifier", .ofText? r.classifier),
    ("version", .text r.version),
    ("scope", .text r.scope), ("path", .text r.path)]

/-- The result of a scan; the log tail is left out when there is none. -/
def ScanResult.toJson (r : ScanResult) : Json :=
  .ofFields ([("projectPath", .text r.projectPath), ("projectRoot", .text r.projectRoot),
    ("projectType", .text r.kind.label),
    ("dependencies", .array (r.dependencies.map Record.toJson)), ("cached", .bool r.cached)] ++
    match r.logTail with
    | some tail => [("logTail", .text tail)]
    | none => [])

end Dependency

end JarLens
