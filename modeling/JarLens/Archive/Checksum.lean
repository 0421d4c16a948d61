/-!
# Checksums

The cyclic redundancy check of 32 bits that archives keep of each member's data, with the reflected
polynomial 0xEDB88320.
-/

namespace JarLens.Archive

/-- The check of one byte, as the remainder after eight shifts. -/
def checksumEntry (b : UInt32) : UInt32 :=
  (List.range 8).foldl (fun r _ => if r &&& 1 = 1 then (r >>> 1) ^^^ 0xedb88320 else r >>> 1) b

/-- The checks of all bytes. -/
def checksumTable : Array UInt32 :=
  ((List.range 256).map fun b => checksumEntry b.toUInt32).toArray

/-- The check of bytes. -/
def checksum (bytes : ByteArray) : UInt32 :=
  (bytes.foldl (fun r b =>
    (checksumTable[((r ^^^ b.toUInt32) &&& 0xff).toNat]?.getD 0) ^^^ (r >>> 8)) 0xffffffff)
    ^^^ 0xffffffff

end JarLens.Archive
