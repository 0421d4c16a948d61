import JarLens.Proofs.Archive.Outcomes

/-!
# Archives of two files

The bytes of an archive with two stored files, and what opening them comes to (`opens_pair`): the
members in the order of the directory, the first with its limit where the second one's header
starts, and the second with its limit where the directory does.
-/

namespace JarLens

open Archive

/-- A file as it is stored in an archive: its name, the checksum of its content, and the content. -/
structure StoredFile where
  name : List UInt8
  checksum : List UInt8
  content : List UInt8

namespace StoredFile

/-- An empty file. -/
def empty (name : List UInt8) : StoredFile :=
  { name, checksum := [0, 0, 0, 0], content := [] }

/-- What both the header and the directory tell of a file. -/
def told (f : StoredFile) : List UInt8 :=
  let size := UInt8.ofNat f.content.length
  f.checksum ++ [size, 0, 0, 0, size, 0, 0, 0, UInt8.ofNat f.name.length, 0]

/-- The header of a file, and its content. -/
def entry (f : StoredFile) : List UInt8 :=
  [80, 75, 3, 4, 20, 0, 0, 0, 0, 0, 0, 0, 33, 0] ++ f.told ++ [0, 0] ++ f.name ++ f.content

/-- The directory record of a file whose header starts at a position. -/
def record (f : StoredFile) (offset : Nat) : List UInt8 :=
  [80, 75, 1, 2, 20, 0, 20, 0, 0, 0, 0, 0, 0, 0, 33, 0] ++ f.told ++ List.replicate 12 0 ++
    [UInt8.ofNat offset, 0, 0, 0] ++ f.name

/-- The member that a file is in an archive. -/
def member (f : StoredFile) (offset limit : Int) : Member :=
  { storedName := Text.ofCodepage f.name, flags := 0, method := 0
    checksum := numberAt ⟨f.checksum.toArray⟩ 4 0, compressedSize := f.content.length
    size := f.content.length, attributes := 0, offset, limit }

end StoredFile

section Pairs

variable {bytes : ByteArray}

/-- The bytes of an archive with two files, one after the other. -/
def pairArchive (f g : StoredFile) : ByteArray :=
  let directory := f.record 0 ++ g.record f.entry.length
  ⟨(f.entry ++ g.entry ++ directory ++ [80, 75, 5, 6, 0, 0, 0, 0, 2, 0, 2, 0,
    UInt8.ofNat directory.length, 0, 0, 0, UInt8.ofNat (f.entry ++ g.entry).length, 0, 0, 0, 0,
    0]).toArray⟩

/-- The first member ends where the second one's header starts, and that one at the directory. -/
theorem setLimits_pair {a b : Member} (h : a.offset < b.offset) (start : Int) :
    setLimits start [a, b] = [{ a with limit := b.offset }, { b with limit := start }] := by
  have hlt : ¬b.offset ≤ a.offset := Int.not_le.2 h
  simp [setLimits, List.mergeSort, List.MergeSort.Internal.splitInTwo, limitsFrom, List.zipIdx, hlt]

/-- An archive of two members, the first of which may reach up to the second one only. -/
theorem ofBytes_pair {last : EndRecord} (limit start : Nat) (a b : Member)
    (hlast : EndRecord.ofBytes bytes = .ok last)
    (hstart : (last.place : Int) - last.size - last.between = start)
    (hmembers : membersFrom (slice bytes start last.size) (start - last.offset)
      (slice bytes start last.size).size 0 = .ok [a, b])
    (hoffset : a.offset < b.offset) :
    Archive.ofBytes limit bytes =
      .ok ⟨bytes, [{ a with limit := b.offset }, { b with limit := start }], limit⟩ := by
  unfold Archive.ofBytes
  simp only [hlast, bind, Except.bind, hstart]
  rw [if_neg (by omega)]
  simp only [pure, Except.pure, Int.toNat_natCast, hmembers, setLimits_pair hoffset]

/-- On this machine opening the archive is reading its bytes. -/
theorem opens_archiveMachine {archive : Archive} :
    (archiveMachine bytes).openArchive "/a.jar".toList = .ok archive ↔
      Archive.ofBytes (archiveMachine bytes).positionLimit bytes = .ok archive :=
  (isReadableFile_archiveMachine bytes).openArchive_eq_ok_iff rfl

/-- The end record of an archive with two files. -/
def pairEnd (f g : StoredFile) : EndRecord :=
  let size := (f.record 0 ++ g.record f.entry.length).length
  let offset := (f.entry ++ g.entry).length
  { size, offset, place := offset + size, between := 0 }

/-- An archive with two files opens with both of them, if its directory is read as it was written.
-/
theorem opens_pair (f g : StoredFile)
    (hlast : EndRecord.ofBytes (pairArchive f g) = .ok (pairEnd f g))
    (hmembers : membersFrom
      (slice (pairArchive f g) (f.entry ++ g.entry).length (pairEnd f g).size) 0
      (slice (pairArchive f g) (f.entry ++ g.entry).length (pairEnd f g).size).size 0 =
        .ok [f.member 0 0, g.member f.entry.length 0]) :
    (archiveMachine (pairArchive f g)).openArchive "/a.jar".toList =
      .ok ⟨pairArchive f g, [f.member 0 f.entry.length,
        g.member f.entry.length (f.entry ++ g.entry).length],
        (archiveMachine (pairArchive f g)).positionLimit⟩ := by
  refine opens_archiveMachine.2 (ofBytes_pair _ (f.entry ++ g.entry).length (f.member 0 0)
    (g.member f.entry.length 0) hlast ?_ ?_ ?_)
  · simp [pairEnd]
  · simpa [pairEnd] using hmembers
  · simp [StoredFile.member, StoredFile.entry]
    omega

end Pairs

/-! ## Files that go by one path -/

/-- The empty file `/a`. -/
def slashedFile : StoredFile :=
  .empty [47, 97]

/-- The empty file `a`. -/
def plainFile : StoredFile :=
  .empty [97]

/-- The file `a` with one character. -/
def letterFile : StoredFile :=
  { name := [97], checksum := [0x83, 0x16, 0xdc, 0x8c], content := [120] }

/-- The folder `a/`. -/
def plainFolder : StoredFile :=
  .empty [97, 47]

end JarLens
