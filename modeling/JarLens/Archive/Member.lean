import JarLens.Archive.Bytes
import JarLens.Archive.Fault
import JarLens.Entry.Path
import JarLens.Text.Codepage
import JarLens.Text.Utf8

/-!
# Members

What the directory of an archive tells about one member, and the layout of the records that hold it:
the directory record of 46 bytes and the header of 30 bytes in front of the data, each with texts of
variable length after it.
-/

namespace JarLens.Archive

/-- One member as the directory describes it. -/
structure Member where
  /-- The name with all its characters. -/
  storedName : Text
  /-- The bits that say how name and data are to be read. -/
  flags : Nat
  method : Nat
  checksum : Nat
  compressedSize : Nat
  size : Nat
  /-- The type and permissions of the file, and other marks of the system that wrote it. -/
  attributes : Nat
  /-- Where the member's header starts. -/
  offset : Int
  /-- Where the next header, or the directory, starts. -/
  limit : Int
  deriving DecidableEq

/-- The name, which ends before the first NUL. -/
def Member.name (m : Member) : Text :=
  m.storedName.takeWhile (· != '\x00')

/-- Whether the member stands for a folder: its name ends with a slash. -/
def Member.isFolder (m : Member) : Bool :=
  m.name.getLast? = some '/'

/-- The one spelling of the member's name. -/
def Member.path (m : Member) : Text :=
  Entry.normalize m.name

/-- The names of compression methods. -/
def methodNames : List (Nat × Text) :=
  [(1, "shrink"), (2, "reduce"), (3, "reduce"), (4, "reduce"), (5, "reduce"), (6, "implode"),
    (7, "tokenize"), (8, "deflate"), (9, "deflate64"), (10, "implode"), (12, "bzip2"),
    (14, "lzma"), (18, "terse"), (19, "lz77"), (97, "wavpack"), (98, "ppmd")].map
      fun (method, name) => (method, String.toList name)

/-- The letters of the kinds of files, by the highest four of sixteen bits. -/
def kindLetters : List (Nat × Char) :=
  [(12, 's'), (10, 'l'), (8, '-'), (6, 'b'), (4, 'd'), (2, 'c'), (1, 'p')]

/-- The letter of a kind of file. -/
def kindLetter (kind : Nat) : Char :=
  (kindLetters.lookup kind).getD '?'

/-- Three permissions, the last of them with its letters for a special mark. -/
def permissionLetters (bits : Nat) (special : Bool) (both only : Char) : Text :=
  [if bits.testBit 2 then 'r' else '-', if bits.testBit 1 then 'w' else '-',
    if special then if bits.testBit 0 then both else only
    else if bits.testBit 0 then 'x' else '-']

/-- The kind and permissions of a file in letters. -/
def modeLetters (mode : Nat) : Text :=
  kindLetter (mode / 4096) ::
    permissionLetters (mode / 64 % 8) (mode.testBit 11) 's' 'S' ++
    permissionLetters (mode / 8 % 8) (mode.testBit 10) 's' 'S' ++
    permissionLetters (mode % 8) (mode.testBit 9) 't' 'T'

/-- All that the directory tells about a member, in one line. -/
def Member.label (m : Member) : Text :=
  let mode := m.attributes / 65536
  let marks := m.attributes % 65536
  "<ZipInfo filename=".toList ++ Text.quoted m.name ++
    (if m.method = 0 then []
      else " compress_type=".toList ++ (methodNames.lookup m.method).getD (Text.ofNat m.method)) ++
    (if mode = 0 then [] else " filemode=".toList ++ Text.quoted (modeLetters mode)) ++
    (if marks = 0 then [] else " external_attr=0x".toList ++ Text.ofHex 1 marks) ++
    (if m.isFolder && m.size = 0 then [] else " file_size=".toList ++ Text.ofNat m.size) ++
    (if (m.isFolder && m.compressedSize = 0) || (m.method = 0 && m.size = m.compressedSize) then []
      else " compress_size=".toList ++ Text.ofNat m.compressedSize) ++ ['>']

/-- Whether bit `n` of the flags is set. -/
def hasFlag (flags n : Nat) : Bool :=
  flags.testBit n

/-- The text of a name, in UTF-8 if bit 11 of the flags says so and in code page 437 otherwise. -/
def nameText? (flags : Nat) (bytes : ByteArray) : Except Text.Utf8Fault Text :=
  if hasFlag flags 11 then Text.decodeUtf8? bytes else .ok (Text.ofCodepage bytes.toList)

/-- The length of a directory record before its texts. -/
def recordLength : Nat := 46

/-- The length of a member's header before its texts. -/
def headerLength : Nat := 30

/-- The greatest version of the format that is read, in tenths. -/
def greatestVersion : Nat := 63

/-- The sizes and the offset of a member while extra fields may still replace them. -/
structure Extent where
  size : Nat
  compressedSize : Nat
  offset : Nat
  deriving DecidableEq

/-- The number that stands for one held by a 64-bit extension. -/
def widened : Nat := 0xffffffff

/-- The first eight bytes as a number, and the bytes after them. -/
def takeWide (field : WideField) (data : ByteArray) : Except OpenFault (Nat × ByteArray) :=
  if data.size < 8 then .error (.wideField field)
  else .ok (numberAt data 8 0, data.extract 8 data.size)

/-- The extent with the numbers of a 64-bit extension, which lists those that did not fit. -/
def Extent.widen (e : Extent) (data : ByteArray) : Except OpenFault Extent := do
  let (size, data) ←
    if e.size = widened ∨ e.size = 0xffffffffffffffff then takeWide .size data
    else pure (e.size, data)
  let (compressedSize, data) ←
    if e.compressedSize = widened then takeWide .compressedSize data
    else pure (e.compressedSize, data)
  let (offset, _) ←
    if e.offset = widened then takeWide .offset data else pure (e.offset, data)
  pure { size, compressedSize, offset }

/-- The extent after the extra fields from position `i` on. Each takes at least the four bytes of
its tag and length, so that `steps` beyond a quarter of the bytes suffice. -/
def Extent.applyExtras (extras : ByteArray) :
    (steps i : Nat) → Extent → Except OpenFault Extent
  | 0, _, e => .ok e
  | steps + 1, i, e =>
    if extras.size < i + 4 then .ok e
    else
      let tag := numberAt extras 2 i
      let length := numberAt extras 2 (i + 2)
      if extras.size < i + 4 + length then .error (.extraField tag length)
      else do
        let e ← if tag = 1 then e.widen (slice extras (i + 4) length) else pure e
        applyExtras extras steps (i + 4 + length) e

/-- The member whose directory record starts at position `i`, and the record's whole length. `shift`
is how much farther back everything lies than the offsets say. -/
def Member.ofRecord (directory : ByteArray) (shift : Int) (i : Nat) :
    Except OpenFault (Member × Nat) := do
  if directory.size < i + recordLength then throw .directoryCutShort
  if !hasSignature directory i 1 2 then throw .directorySignature
  let nameLength := numberAt directory 2 (i + 28)
  let extraLength := numberAt directory 2 (i + 30)
  let commentLength := numberAt directory 2 (i + 32)
  let flags := numberAt directory 2 (i + 8)
  let name ← (nameText? flags (slice directory (i + recordLength) nameLength)).mapError
    .nameEncoding
  let version := byteAt directory (i + 6)
  if greatestVersion < version then throw (.version version)
  let extras := slice directory (i + recordLength + nameLength) extraLength
  let extent ← Extent.applyExtras extras (extras.size / 4 + 1) 0
    { size := numberAt directory 4 (i + 24)
      compressedSize := numberAt directory 4 (i + 20)
      offset := numberAt directory 4 (i + 42) }
  pure
    ({ storedName := name, flags, method := numberAt directory 2 (i + 10),
       checksum := numberAt directory 4 (i + 16), compressedSize := extent.compressedSize,
       size := extent.size,
       attributes := numberAt directory 4 (i + 38), offset := extent.offset + shift, limit := 0 },
     recordLength + nameLength + extraLength + commentLength)

end JarLens.Archive
