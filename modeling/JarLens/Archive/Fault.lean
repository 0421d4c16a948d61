import JarLens.Archive.Inflate
import JarLens.Archive.RangeCode
import JarLens.Text.Quoted
import JarLens.Text.Utf8

/-!
# What is wrong with an archive

One constructor for each cause, first for the archive as a whole, then for the data of one member.
A cause is malformed when the bytes contradict the format; the others are features that this library
does not read, or that the archive's bytes cannot be read as asked.
-/

namespace JarLens.Archive

/-- A field of a directory record that a 64-bit extension may hold. -/
inductive WideField where
  | size
  | compressedSize
  | offset
  deriving DecidableEq

/-- The name of the field in messages. -/
def WideField.label : WideField → Text
  | .size => "File size".toList
  | .compressedSize => "Compress size".toList
  | .offset => "Header offset".toList

/-- Why the directory of an archive cannot be read. -/
inductive OpenFault where
  /-- No end record. -/
  | notArchive
  | severalDisks
  /-- The directory would start before the file. -/
  | directoryOffset
  | directoryCutShort
  | directorySignature
  /-- An extra field is longer than what is left of them. -/
  | extraField (tag length : Nat)
  /-- A 64-bit extension lacks a field. -/
  | wideField (field : WideField)
  /-- A member needs a later version of the format, given in tenths. -/
  | version (tenths : Nat)
  /-- A member's name is marked as UTF-8 and is not. -/
  | nameEncoding (fault : Text.Utf8Fault)
  deriving DecidableEq

/-- Whether the bytes contradict the format. -/
def OpenFault.isMalformed : OpenFault → Bool
  | .version _ => false
  | .nameEncoding _ => false
  | _ => true

/-- What is told of an archive that cannot be opened. -/
def OpenFault.message : OpenFault → Text
  | .notArchive => "File is not a zip file".toList
  | .severalDisks => "zipfiles that span multiple disks are not supported".toList
  | .directoryOffset => "Bad offset for central directory".toList
  | .directoryCutShort => "Truncated central directory".toList
  | .directorySignature => "Bad magic number for central directory".toList
  | .extraField tag length =>
    "Corrupt extra field ".toList ++ Text.ofHex 4 tag ++ " (size=".toList ++ Text.ofNat length ++
      [')']
  | .wideField field =>
    "Corrupt zip64 extra field. ".toList ++ field.label ++ " not found.".toList
  | .version tenths =>
    "zip file version ".toList ++ Text.ofNat (tenths / 10) ++ '.' :: Text.ofNat (tenths % 10)
  | .nameEncoding fault => fault.message

/-- Why the data of a member cannot be read. -/
inductive MemberFault where
  | headerCutShort
  | headerSignature
  /-- The directory and the member's own header name it differently. -/
  | nameMismatch (inDirectory : Text) (inHeader : List UInt8)
  /-- The data runs into the next member or the directory. -/
  | overlap (name : Text)
  | checksum (name : Text)
  | patched
  | stronglyEncrypted
  /-- The member is encrypted; the label tells all of it that the directory does. -/
  | encrypted (label : Text)
  | method
  | nameEncoding (fault : Text.Utf8Fault)
  /-- The deflated data is corrupt. -/
  | deflate (corruption : Corruption)
  /-- The block-sorted data is corrupt. -/
  | blockSort
  /-- The range-coded data is corrupt. -/
  | rangeCode (corruption : RangeCorruption)
  /-- The file ends before the member's data does. -/
  | dataCutShort
  /-- The member would start before the file or where no file can be read. -/
  | offsetOutside
  /-- Where the member would start is no position that a file can have. -/
  | offsetRange
  deriving DecidableEq

/-- Whether the bytes contradict the format in a way that has a message of its own. -/
def MemberFault.isMalformed : MemberFault → Bool
  | .headerCutShort | .headerSignature | .nameMismatch _ _ | .overlap _ | .checksum _ => true
  | _ => false

/-- What is told of a member that cannot be read. -/
def MemberFault.message : MemberFault → Text
  | .headerCutShort => "Truncated file header".toList
  | .headerSignature => "Bad magic number for file header".toList
  | .nameMismatch inDirectory inHeader =>
    "File name in directory ".toList ++ Text.quoted inDirectory ++ " and header ".toList ++
      Text.quotedBytes inHeader ++ " differ.".toList
  | .overlap name =>
    "Overlapped entries: ".toList ++ Text.quoted name ++ " (possible zip bomb)".toList
  | .checksum name => "Bad CRC-32 for file ".toList ++ Text.quoted name
  | .patched => "compressed patched data (flag bit 5)".toList
  | .stronglyEncrypted => "strong encryption (flag bit 6)".toList
  | .encrypted label =>
    "File ".toList ++ label ++ " is encrypted, password required for extraction".toList
  | .method => "That compression method is not supported".toList
  | .nameEncoding fault => fault.message
  | .deflate corruption => "Error -3 while decompressing data: ".toList ++ corruption.message
  | .blockSort => "Invalid data stream".toList
  | .rangeCode corruption => corruption.message
  | .dataCutShort => []
  | .offsetOutside => "[Errno 22] Invalid argument".toList
  | .offsetRange => "cannot fit \x27int\x27 into an offset-sized integer".toList

end JarLens.Archive
