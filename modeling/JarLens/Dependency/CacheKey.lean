import JarLens.Dependency.GroovyLiteral

/-!
# Cache keys

Everything that changes what a scan resolves: the project and the options, the query left out. Names
are kept in their one spelling.
-/

namespace JarLens.Dependency

/-- What a caller asks of a scan. -/
structure ScanOptions where
  excludeTransitive : Bool := false
  configurations : List (Option Text) := []
  includeLogTail : Bool := false
  query : Option Text := none
  deriving DecidableEq

/-- The part of a scan that its result depends on, the query apart. -/
structure CacheKey where
  root : Text
  excludeTransitive : Bool
  configurations : List Text
  includeLogTail : Bool
  deriving DecidableEq

/-- The key of a scan of the project at `root`. -/
def ScanOptions.key (options : ScanOptions) (root : Text) : CacheKey where
  root
  excludeTransitive := options.excludeTransitive
  configurations := normalizeNames options.configurations
  includeLogTail := options.includeLogTail

end JarLens.Dependency
