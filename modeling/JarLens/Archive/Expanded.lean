/-!
# Expanding

What is common to the formats in which the data of a member can be packed: `Expanded` is what comes
out, and `Halt` why expanding stops before the end. Data that ends early gives what was expanded up
to there; data that no encoder writes gives what is wrong with it.
-/

namespace JarLens.Archive

/-- Why expanding stops before the end of the packed data. -/
inductive Halt (Corruption : Type) where
  /-- The data is used up. -/
  | starved
  | corrupt (corruption : Corruption)
  deriving DecidableEq

/-- Expanded data, and whether its end was reached. -/
structure Expanded where
  data : ByteArray
  isComplete : Bool

/-- The bytes with `count` more, each the one that lies `distance` bytes back at its turn. -/
def withRepeated (distance : Nat) : (count : Nat) → ByteArray → ByteArray
  | 0, out => out
  | count + 1, out =>
    withRepeated distance count (out.push (out[out.size - distance]?.getD 0))

end JarLens.Archive
