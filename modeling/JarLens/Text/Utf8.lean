import JarLens.Text.Number

/-!
# UTF-8

`decodeUtf8` reads every byte sequence: each maximal beginning of a character that is not completed
becomes one replacement character. `decodeUtf8?` refuses such sequences and tells the first of them,
and `encodeUtf8` writes.
-/

namespace JarLens.Text

/-- The character that stands for undecodable bytes. -/
def replacement : Char := '\ufffd'

/-- Why bytes are no character. -/
inductive Utf8Reason where
  | start
  | continuation
  | ending
  deriving DecidableEq

/-- The reason in messages. -/
def Utf8Reason.label : Utf8Reason → Text
  | start => "invalid start byte".toList
  | continuation => "invalid continuation byte".toList
  | ending => "unexpected end of data".toList

/-- The first bytes of a sequence that are no character. -/
structure Utf8Fault where
  position : Nat
  /-- How many bytes there are, at least one. -/
  count : Nat
  /-- The first of them. -/
  byte : UInt8
  reason : Utf8Reason
  deriving DecidableEq

/-- What is told of undecodable bytes. -/
def Utf8Fault.message (f : Utf8Fault) : Text :=
  let place :=
    if f.count = 1 then
      "byte 0x".toList ++ ofHex 2 f.byte.toNat ++ " in position ".toList ++ ofNat f.position
    else "bytes in position ".toList ++ ofNat f.position ++ '-' :: ofNat (f.position + f.count - 1)
  "\x27utf-8\x27 codec can\x27t decode ".toList ++ place ++ ':' :: ' ' :: f.reason.label

/-- What a first byte promises: how many bytes follow it, the range of the next one, and the bits of
the character that it holds itself. -/
structure Utf8Lead where
  following : Nat
  least : UInt8
  greatest : UInt8
  bits : Nat

/-- The promise of a first byte, none when no character starts with it. The range of the second byte
leaves out overlong forms, surrogates and what lies beyond U+10FFFF. -/
def utf8Lead? (b : UInt8) : Option Utf8Lead :=
  if b < 0x80 then some ⟨0, 0x80, 0xbf, b.toNat⟩
  else if b < 0xc2 then none
  else if b < 0xe0 then some ⟨1, 0x80, 0xbf, b.toNat - 0xc0⟩
  else if b < 0xf0 then
    some ⟨2, if b = 0xe0 then 0xa0 else 0x80, if b = 0xed then 0x9f else 0xbf, b.toNat - 0xe0⟩
  else if b < 0xf5 then
    some ⟨3, if b = 0xf0 then 0x90 else 0x80, if b = 0xf4 then 0x8f else 0xbf, b.toNat - 0xf0⟩
  else none

/-- A character of which some bytes are missing. -/
structure Utf8Partial where
  /-- The first byte and how many bytes were read. -/
  first : UInt8
  count : Nat
  /-- How many bytes are missing, at least one, and the range of the next. -/
  owed : Nat
  least : UInt8
  greatest : UInt8
  bits : Nat

/-- The state between two bytes. -/
structure Utf8State where
  /-- How many bytes were read. -/
  position : Nat := 0
  /-- The character begun, if there is one. -/
  begun : Option Utf8Partial := none
  /-- The characters so far, the last one first. -/
  out : Text := []
  /-- The first undecodable bytes so far. -/
  fault : Option Utf8Fault := none

/-- Replaces the `count` bytes read last. -/
def Utf8State.replace (s : Utf8State) (first : UInt8) (count : Nat) (reason : Utf8Reason) :
    Utf8State :=
  { s with
    begun := none
    out := replacement :: s.out
    fault := s.fault <|> some ⟨s.position - count, count, first, reason⟩ }

/-- One byte where a character may start. -/
def Utf8State.start (s : Utf8State) (b : UInt8) : Utf8State :=
  let s := { s with position := s.position + 1 }
  match utf8Lead? b with
  | none => s.replace b 1 .start
  | some lead =>
    if lead.following = 0 then { s with out := Char.ofNat lead.bits :: s.out }
    else { s with begun := some ⟨b, 1, lead.following, lead.least, lead.greatest, lead.bits⟩ }

/-- One byte. A byte that cannot go on with the character begun ends it as undecodable and starts
anew. -/
def Utf8State.step (s : Utf8State) (b : UInt8) : Utf8State :=
  match s.begun with
  | none => s.start b
  | some p =>
    if p.least ≤ b && b ≤ p.greatest then
      let bits := p.bits * 64 + (b.toNat - 0x80)
      let s := { s with position := s.position + 1 }
      if p.owed = 1 then { s with begun := none, out := Char.ofNat bits :: s.out }
      else { s with begun := some ⟨p.first, p.count + 1, p.owed - 1, 0x80, 0xbf, bits⟩ }
    else (s.replace p.first p.count .continuation).start b

/-- The state after all bytes, a character left incomplete counting as undecodable. -/
def Utf8State.finish (s : Utf8State) : Utf8State :=
  match s.begun with
  | none => s
  | some p => s.replace p.first p.count .ending

/-- The text of bytes, with a replacement character for each maximal undecodable part. -/
def decodeUtf8 (bytes : ByteArray) : Text :=
  (bytes.foldl Utf8State.step {}).finish.out.reverse

/-- The text of bytes that are well-formed UTF-8. -/
def decodeUtf8? (bytes : ByteArray) : Except Utf8Fault Text :=
  let s := (bytes.foldl Utf8State.step {}).finish
  match s.fault with
  | none => .ok s.out.reverse
  | some fault => .error fault

/-- The bytes of a text. -/
def encodeUtf8 (t : Text) : ByteArray :=
  (String.ofList t).toUTF8

end JarLens.Text
