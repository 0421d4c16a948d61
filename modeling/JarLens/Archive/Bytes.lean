/-!
# Numbers in bytes

Archives write their numbers with the lowest byte first. A position beyond the end reads as zero;
readers check lengths before.
-/

namespace JarLens.Archive

/-- The byte at a position. -/
def byteAt (bytes : ByteArray) (i : Nat) : Nat :=
  (bytes[i]?.getD 0).toNat

/-- The number in `width` bytes from a position on. -/
def numberAt (bytes : ByteArray) : (width i : Nat) → Nat
  | 0, _ => 0
  | width + 1, i => byteAt bytes i + 256 * numberAt bytes width (i + 1)

/-- Up to `count` bytes from a position on, fewer at the end. -/
def slice (bytes : ByteArray) (i count : Nat) : ByteArray :=
  bytes.extract i (min (i + count) bytes.size)

/-- Whether the bytes from a position on start with the two letters of all records and the record's
own two bytes. -/
def hasSignature (bytes : ByteArray) (i : Nat) (kind version : Nat) : Bool :=
  byteAt bytes i == 0x50 && byteAt bytes (i + 1) == 0x4b && byteAt bytes (i + 2) == kind &&
    byteAt bytes (i + 3) == version

end JarLens.Archive
