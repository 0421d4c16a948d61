/-!
# Prefix codes

A prefix code in canonical form is given by the lengths of its codes alone: codes of one length
follow each other in the order of their symbols, and after those of all shorter lengths.
-/

namespace JarLens.Archive

/-- A prefix code in canonical form: for each length how many codes have it, and the symbols by code
length and then by number. -/
structure PrefixCode where
  counts : List Nat
  symbols : Array Nat
  deriving DecidableEq

namespace PrefixCode

/-- The code in which symbol `i` has the `i`-th length, zero meaning that it has no code, counted up
to the length `longest`. -/
def ofLengths (longest : Nat) (lengths : List Nat) : PrefixCode where
  counts := (List.range longest).map fun k => lengths.count (k + 1)
  symbols := ((List.range longest).flatMap fun k =>
    lengths.zipIdx.filterMap fun (length, symbol) =>
      if length = k + 1 then some symbol else none).toArray

/-- The number of codes of the last length that are left over, none when there are too few. -/
def spare? (code : PrefixCode) : Option Nat :=
  code.counts.foldlM
    (fun left count => if count ≤ 2 * left then some (2 * left - count) else none) 1

/-- Whether some bits belong to no symbol. -/
def isComplete (code : PrefixCode) : Bool :=
  code.spare? = some 0

/-- Whether the lengths fit together: they leave nothing over, or there is at most one code and it
has one bit. -/
def isUsable (code : PrefixCode) : Bool :=
  code.isComplete || (code.spare?.isSome && (code.counts.drop 1).all (· == 0))

end PrefixCode

end JarLens.Archive
