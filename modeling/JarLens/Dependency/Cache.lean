import JarLens.Dependency.CacheKey
import JarLens.Dependency.Record
import JarLens.Project.Kind

/-!
# The cache of scans

Results are kept by key for as long as the program runs, and never change. Each key has one lock,
made when it is first asked for, so that scans of one key wait for each other.
-/

namespace JarLens.Dependency

/-- The result of a scan. -/
structure ScanResult where
  /-- The place that the caller asked about. -/
  projectPath : Text
  /-- The root of the project that owns it. -/
  projectRoot : Text
  kind : ProjectKind
  dependencies : List Record
  /-- Whether the result was there before the scan. -/
  cached : Bool
  /-- The last lines that the build tool wrote, if they were asked for. -/
  logTail : Option Text
  deriving DecidableEq

/-- Results and locks by key. -/
structure Cache where
  results : List (CacheKey × ScanResult) := []
  /-- The keys that have a lock; a lock is known by its position. -/
  locks : List CacheKey := []
  deriving DecidableEq

namespace Cache

/-- The number of results. -/
def size (c : Cache) : Nat :=
  c.results.length

/-- The result for a key. -/
def get? (c : Cache) (key : CacheKey) : Option ScanResult :=
  c.results.lookup key

/-- The cache with a result for a key, in place of an earlier one. -/
def put (c : Cache) (key : CacheKey) (result : ScanResult) : Cache :=
  { c with
    results :=
      if (c.get? key).isSome then
        c.results.map fun entry => if entry.1 = key then (key, result) else entry
      else c.results ++ [(key, result)] }

/-- The cache in which a key has a lock. -/
def withLock (c : Cache) (key : CacheKey) : Cache :=
  if key ∈ c.locks then c else { c with locks := c.locks ++ [key] }

/-- The lock of a key, once it has one. -/
def lock? (c : Cache) (key : CacheKey) : Option Nat :=
  c.locks.idxOf? key

/-- The lock that a key has, or else the one that is made next. -/
def lockOf (c : Cache) (key : CacheKey) : Nat :=
  (c.lock? key).getD c.locks.length

end Cache

end JarLens.Dependency
