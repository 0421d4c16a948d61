import JarLens.Archive.BlockSort
import JarLens.Archive.Checksum
import JarLens.Archive.Directory
import JarLens.Archive.Inflate
import JarLens.Archive.RangeCode

/-!
# The data of a member

`Archive.read` checks a member's own header against the directory, expands the data if it is
packed, cuts it to the size in the directory and compares the checksum. Data may be stored as it is,
deflated, block-sorted or range-coded.
-/

namespace JarLens.Archive

/-- The position after the header and its texts, where the member's data starts. -/
def dataStart (bytes : ByteArray) (header : Nat) : Nat :=
  min (header + headerLength + numberAt bytes 2 (header + 26) + numberAt bytes 2 (header + 28))
    bytes.size

/-- The first number that is no position at all. The negative of it is the least that is one. -/
def positionRange : Int := 9223372036854775808

/-- Checks the header of a member and gives the position of its data. -/
def openMember (archive : Archive) (m : Member) : Except MemberFault Nat := do
  let bytes := archive.bytes
  if positionRange ≤ m.offset || m.offset < -positionRange then throw .offsetRange
  if m.offset < 0 || archive.positionLimit < m.offset then throw .offsetOutside
  let header := m.offset.toNat
  if bytes.size < header + headerLength then throw .headerCutShort
  if !hasSignature bytes header 3 4 then throw .headerSignature
  if hasFlag m.flags 5 then throw .patched
  if hasFlag m.flags 6 then throw .stronglyEncrypted
  let nameBytes := slice bytes (header + headerLength) (numberAt bytes 2 (header + 26))
  let name ← (nameText? (numberAt bytes 2 (header + 6)) nameBytes).mapError .nameEncoding
  if name ≠ m.storedName then throw (.nameMismatch m.storedName nameBytes.toList)
  let start := dataStart bytes header
  if m.limit < start + m.compressedSize then throw (.overlap m.storedName)
  if hasFlag m.flags 0 then throw (.encrypted m.label)
  pure start

/-- The data behind compressed bytes. Stored data does not show where it ends. -/
def expand (method : Nat) (compressed : ByteArray) : Except MemberFault Expanded :=
  match method with
  | 0 => .ok ⟨compressed, false⟩
  | 8 => (inflate compressed).mapError .deflate
  | 12 => (unsort? compressed).elim (.error .blockSort) .ok
  | 14 => (unrange compressed).mapError .rangeCode
  | _ => .error .method

/-- The data of a member. Where the file ends before the member's compressed bytes do, what there is
of them has to hold the whole member. -/
def read (archive : Archive) (m : Member) : Except MemberFault ByteArray := do
  let start ← openMember archive m
  let compressed := slice archive.bytes start m.compressedSize
  let isCut := compressed.size < m.compressedSize
  let expanded ← expand m.method compressed
  let data := slice expanded.data 0 m.size
  if isCut && (compressed.isEmpty || (!expanded.isComplete && data.size < m.size)) then
    throw .dataCutShort
  if (checksum data).toNat ≠ m.checksum then throw (.checksum m.name)
  pure data

end JarLens.Archive
