import JarLens.Archive.Member

/-!
# The directory of an archive

An archive is read from its end: the end record tells where the directory lies and how long it is,
and the directory lists the members. `Archive.ofBytes` reads both. Bytes in front of the archive do
no harm: all offsets are counted from where the directory's place shows the archive to start.
-/

namespace JarLens

namespace Archive

/-- What the end record, or its 64-bit form, tells. -/
structure EndRecord where
  /-- The length of the directory. -/
  size : Nat
  /-- Where the directory starts, as written. -/
  offset : Nat
  /-- Where the end record itself lies. -/
  place : Nat
  /-- The length of the records between the directory and the end record. -/
  between : Nat
  deriving DecidableEq

/-- The length of an end record without its comment. -/
def endLength : Nat := 22

/-- The length of the record that says where the 64-bit end record lies. -/
def wideLocatorLength : Nat := 20

/-- The length of a 64-bit end record. -/
def wideEndLength : Nat := 56

/-- The greatest length of a comment, one more than its length field holds. -/
def commentReach : Nat := 65536

/-- The last position at or below `i` at which an end record starts, down to `least`. -/
def lastEndFrom (bytes : ByteArray) (least : Nat) : (i : Nat) → Option Nat
  | 0 => if least = 0 ∧ hasSignature bytes 0 5 6 then some 0 else none
  | i + 1 =>
    if i + 1 < least then none
    else if hasSignature bytes (i + 1) 5 6 then some (i + 1)
    else lastEndFrom bytes least i

/-- Where the end record lies: at the very end, or with a comment after it. -/
def endPlace? (bytes : ByteArray) : Option Nat :=
  if bytes.size < endLength then none
  else
    let final := bytes.size - endLength
    if hasSignature bytes final 5 6 && numberAt bytes 2 (final + 20) == 0 then some final
    else
      match lastEndFrom bytes (final - commentReach) (bytes.size - 4) with
      | some i => if i + endLength ≤ bytes.size then some i else none
      | none => none

/-- The end record, in its 64-bit form if there is one in front of it. -/
def EndRecord.ofBytes (bytes : ByteArray) : Except OpenFault EndRecord := do
  let some place := endPlace? bytes | throw .notArchive
  let short : EndRecord :=
    { size := numberAt bytes 4 (place + 12), offset := numberAt bytes 4 (place + 16), place,
      between := 0 }
  if place < wideLocatorLength then return short
  let locator := place - wideLocatorLength
  if !hasSignature bytes locator 6 7 then return short
  if numberAt bytes 4 (locator + 4) ≠ 0 || 1 < numberAt bytes 4 (locator + 16) then
    throw .severalDisks
  if locator < wideEndLength then throw .notArchive
  let wide := locator - wideEndLength
  if !hasSignature bytes wide 6 6 then return short
  return { size := numberAt bytes 8 (wide + 40), offset := numberAt bytes 8 (wide + 48), place,
           between := wideEndLength + wideLocatorLength }

/-- The members listed from position `i` on. Every record has more than one byte, so that as many
`steps` as there are bytes suffice. -/
def membersFrom (directory : ByteArray) (shift : Int) :
    (steps i : Nat) → Except OpenFault (List Member)
  | 0, _ => .ok []
  | steps + 1, i =>
    if directory.size ≤ i then .ok []
    else do
      let (member, length) ← Member.ofRecord directory shift i
      let others ← membersFrom directory shift steps (i + length)
      pure (member :: others)

/-- The members in the order of their headers from the last one on, each with its limit: the header
after it, or `limit` for the last. -/
def limitsFrom (limit : Int) : List (Nat × Member) → List (Nat × Member)
  | [] => []
  | (i, m) :: rest => (i, { m with limit }) :: limitsFrom m.offset rest

/-- The members with their limits, in the order given. -/
def setLimits (start : Int) (members : List Member) : List Member :=
  let numbered := members.zipIdx.map fun (m, i) => (i, m)
  let byOffset := numbered.mergeSort fun a b => b.2.offset ≤ a.2.offset
  ((limitsFrom start byOffset).mergeSort fun a b => a.1 ≤ b.1).map (·.2)

end Archive

/-- An archive: its bytes and the members that its directory lists. -/
structure Archive where
  bytes : ByteArray
  members : List Archive.Member
  /-- The greatest position that the file of the archive can be read from. -/
  positionLimit : Nat

namespace Archive

/-- Reads the directory of an archive whose file has no position beyond `positionLimit`. -/
def ofBytes (positionLimit : Nat) (bytes : ByteArray) : Except OpenFault Archive := do
  let last ← EndRecord.ofBytes bytes
  let start : Int := (last.place : Int) - last.size - last.between
  if start < 0 then throw .directoryOffset
  let directory := slice bytes start.toNat last.size
  let members ← membersFrom directory (start - last.offset) directory.size 0
  pure { bytes, members := setLimits start members, positionLimit }

end Archive

end JarLens
