import JarLens.Shell.Decimal

/-!
# Printing from scripts

The formats of the `printf` command and the escapes of `echo`. Both can print any bytes.
-/

namespace JarLens.Shell

/-- The byte of an escape letter. -/
def escapeByte? (c : Char) : Option UInt8 :=
  match c with
  | 'a' => some 7 | 'b' => some 8 | 't' => some 9 | 'n' => some 10 | 'v' => some 11
  | 'f' => some 12 | 'r' => some 13 | 'e' => some 27 | '\\' => some 92
  | _ => none

/-- Whether the character is an octal digit. -/
def isOctal (c : Char) : Bool :=
  '0' ≤ c && c ≤ '7'

/-- Up to three octal digits at the start of a text. -/
def octalDigits (t : Text) : Text :=
  (t.take 3).takeWhile isOctal

/-- The byte with an octal number. -/
def octalByte (digits : Text) : UInt8 :=
  ((Text.number? 8 digits).getD 0).toUInt8

/-- The byte that an escape after its backslash stands for, and the text after it. -/
def takeEscape? (t : Text) : Option (UInt8 × Text) :=
  match octalDigits t, t with
  | [], d :: rest => (escapeByte? d).map fun b => (b, rest)
  | [], [] => none
  | digits, _ => some (octalByte digits, t.drop digits.length)

/-- The bytes of an argument with escapes, after those before. The escape `\c` ends all printing,
which the second part tells; a zero before octal digits is left out. -/
def expandEscapes : (steps : Nat) → (done : ByteArray) → Text → ByteArray × Bool
  | 0, done, _ => (done, false)
  | _, done, [] => (done, false)
  | steps + 1, done, c :: t =>
    if c ≠ '\\' then expandEscapes steps (done.push c.toNat.toUInt8) t
    else match t with
      | 'c' :: _ => (done, true)
      | _ =>
        let t := match t with
          | '0' :: d :: rest => if isOctal d then d :: rest else t
          | _ => t
        match takeEscape? t with
        | some (b, rest) => expandEscapes steps (done.push b) rest
        | none => expandEscapes steps (done.push 92) t

/-- A conversion of a format. -/
structure Conversion where
  flags : Text
  width : Nat
  precision : Option Nat
  kind : Char
  /-- The conversion as it stands. -/
  source : Text

/-- The bytes filled up to a width, on the left unless the flags say otherwise. -/
def fill (c : Conversion) (bytes : ByteArray) : ByteArray :=
  let gap : ByteArray := ⟨Array.replicate (c.width - bytes.size) 32⟩
  if '-' ∈ c.flags then bytes ++ gap else gap ++ bytes

/-- The number of numbers that a conversion without sign can print. -/
def unsignedRange : Int := 18446744073709551616

/-- What is wrong with an argument that has to be a number. -/
inductive NumberFault where
  | noNumber
  /-- More follows the number. -/
  | hasRest
  | outOfRange

/-- An argument with which something is wrong. -/
structure Complaint where
  argument : Text
  fault : NumberFault
  /-- How many bytes were printed before, and how many of them are still held back. -/
  printed : Nat := 0
  held : Nat := 0

/-- The code of the byte after a quote, zero where there is none. None for a text without one. -/
def quotedCode? : Text → Option Nat
  | '"' :: rest | '\x27' :: rest => some ((rest.head?.map Char.toNat).getD 0)
  | _ => none

/-- What is wrong with a number before some text. -/
def numberFault? (isOutOfRange : Bool) (rest : Text) : Option NumberFault :=
  if !rest.isEmpty then some .hasRest else if isOutOfRange then some .outOfRange else none

/-- The number that an argument stands for within the bounds, and what is wrong with it. After a
quote it is the code of the byte. -/
def integerOf (least greatest : Int) (t : Text) : Int × Option NumberFault :=
  match quotedCode? t, takeInteger? takeMagnitude? t with
  | some n, _ => (n, none)
  | none, none => (0, if t.isEmpty then none else some .noNumber)
  | none, some (n, rest) =>
    (max least (min n greatest), numberFault? (n < least || greatest < n) rest)

/-- The digits of a number after its sign, filled up with zeros to a least number of digits. -/
def numberBytes (c : Conversion) (least : Nat) (sign digits : Text) : ByteArray :=
  let zeros : ByteArray := ⟨Array.replicate (least - digits.length) 48⟩
  fill c (toBytes sign ++ zeros ++ toBytes digits)

/-- How many digits a width asks for with the flag for zeros. -/
def zeroWidth (c : Conversion) (sign : Text) : Nat :=
  if '0' ∈ c.flags && '-' ∉ c.flags then c.width - sign.length else 0

/-- The digits of an integer after its sign. No digit is printed for zero where none is asked
for. -/
def integerBytes (c : Conversion) (sign digits : Text) : ByteArray :=
  let digits := if c.precision == some 0 && digits == ['0'] then [] else digits
  numberBytes c (c.precision.getD (zeroWidth c sign)) sign digits

/-- The sign of a number. -/
def signText (c : Conversion) (isNegative : Bool) : Text :=
  if isNegative then ['-'] else if '+' ∈ c.flags then ['+'] else
    if ' ' ∈ c.flags then [' '] else []

/-- What is wrong with a conversion of a format. -/
inductive FormatFault where
  /-- Nothing tells its kind. -/
  | noKind (source : Text)
  /-- There is no such kind. -/
  | unknown (source : Text)

/-- How many bytes the shell holds back at most before it writes them. -/
def heldLimit : Nat := 8192

/-- How many bytes are held back after some more. -/
def heldAfter (held count : Nat) : Nat :=
  if held + count ≤ heldLimit then held + count else if count < heldLimit then count else 0

/-- What printing gives. -/
structure Printout where
  bytes : ByteArray := .empty
  /-- How many of the bytes are held back. -/
  held : Nat := 0
  /-- What is wrong with numbers among the arguments. -/
  complaints : List Complaint := []
  /-- Whether nothing more is printed. -/
  isFinal : Bool := false
  /-- What is wrong with the format; printing ends there. -/
  fault : Option FormatFault := none

/-- The complaint about an argument, if anything is wrong with it. -/
def complaintAbout (argument : Text) (wrong : Option NumberFault) : List Complaint :=
  wrong.toList.map fun fault => { argument, fault }

/-- A printout after another, with what is wrong before its bytes. -/
def Printout.append (p q : Printout) : Printout :=
  { q with
    bytes := p.bytes ++ q.bytes
    held := heldAfter p.held q.bytes.size
    complaints := p.complaints ++ q.complaints.map fun c =>
      { c with printed := p.bytes.size, held := p.held } }

/-- The printout with one more byte. -/
def Printout.push (p : Printout) (b : UInt8) : Printout :=
  { p with bytes := p.bytes.push b, held := heldAfter p.held 1 }

/-- The bytes of a signed number. -/
def signedBytes (c : Conversion) (n : Int) : ByteArray :=
  integerBytes c (signText c (n < 0)) (Text.ofNat n.natAbs)

/-- What a conversion of a signed number prints. -/
def convertSigned (c : Conversion) (argument : Text) : Printout :=
  let (n, wrong) := integerOf leastNumber greatestNumber argument
  { bytes := signedBytes c n, complaints := complaintAbout argument wrong }

/-- The number that a conversion without sign prints for an argument, and what is wrong with that.
Negative numbers count from the end of the range. -/
def unsignedOf (argument : Text) : Nat × Option NumberFault :=
  let (n, wrong) := integerOf (-unsignedRange) unsignedRange argument
  if unsignedRange ≤ n.natAbs then
    ((unsignedRange - 1).toNat, wrong <|> some .outOfRange)
  else (if n < 0 then (unsignedRange + n).toNat else n.toNat, wrong)

/-- The bytes of a number in base 8. The flags can ask for a zero in front. -/
def octalBytes (c : Conversion) (n : Nat) : ByteArray :=
  let digits := Nat.toDigits 8 n
  let marked := if n == 0 then digits else '0' :: digits
  let hasRoom := (c.precision.getD 0) < marked.length
  if '#' ∈ c.flags && hasRoom then
    numberBytes c (if c.precision.isSome then 0 else zeroWidth c []) [] marked
  else integerBytes c [] digits

/-- The bytes of a number without sign, in the base that the kind tells. The flags can ask for a
mark in front. -/
def unsignedBytes (c : Conversion) (n : Nat) : ByteArray :=
  let mark := fun (t : Text) => if '#' ∈ c.flags && n != 0 then t else []
  match c.kind with
  | 'x' => integerBytes c (mark ['0', 'x']) (Nat.toDigits 16 n)
  | 'X' => integerBytes c (mark ['0', 'X']) ((Nat.toDigits 16 n).map Char.toUpper)
  | 'o' => octalBytes c n
  | _ => integerBytes c [] (Text.ofNat n)

/-- What a conversion of a number without sign prints. -/
def convertUnsigned (c : Conversion) (argument : Text) : Printout :=
  let (n, wrong) := unsignedOf argument
  { bytes := unsignedBytes c n, complaints := complaintAbout argument wrong }

/-- The number with a fraction that an argument stands for, its sign, and what is wrong with it.
After a quote it is the code of the byte. -/
def fractionOf (t : Text) : Bool × Magnitude × Option NumberFault :=
  match quotedCode? t, takeFraction? double t with
  | some n, _ => (false, double.nearest n 0, none)
  | none, none => (false, double.nearest 0 0, if t.isEmpty then none else some .noNumber)
  | none, some l => (l.isNegative, l.magnitude, numberFault? l.isOutOfRange l.rest)

/-- The mark before the digits of a number with a fraction, and the digits. -/
def fractionText (f : BinaryFormat) (c : Conversion) (m : Nat) (e : Int) : Text × Text :=
  let q := Ratio.ofBinary m e
  let places := c.precision.getD 6
  let keeps := '#' ∈ c.flags
  match c.kind.toLower with
  | 'a' => (['0', 'x'], f.hexText m e c.precision keeps)
  | 'f' => ([], q.fixed places keeps)
  | 'e' => ([], q.scientific places keeps 'e')
  | _ => ([], q.general places keeps 'e')

/-- The bytes of a number with a fraction. -/
def fractionBytes (f : BinaryFormat) (c : Conversion) (isNegative : Bool)
    (magnitude : Magnitude) : ByteArray :=
  let sign := signText c isNegative
  let cased := fun (t : Text) => if c.kind.isUpper then t.map Char.toUpper else t
  match magnitude with
  | .finite m e =>
    let (mark, digits) := fractionText f c m e
    let start := sign ++ cased mark
    numberBytes c (zeroWidth c start) start (cased digits)
  | .infinite => fill c (toBytes (sign ++ cased "inf".toList))
  | .noNumber => fill c (toBytes (sign ++ cased "nan".toList))

/-- What a conversion of a number with a fraction prints. -/
def convertFraction (c : Conversion) (argument : Text) : Printout :=
  let (isNegative, magnitude, wrong) := fractionOf argument
  { bytes := fractionBytes double c isNegative magnitude
    complaints := complaintAbout argument wrong }

/-- The bytes of a text, of which a precision takes the first ones. -/
def textBytes (c : Conversion) (bytes : ByteArray) : ByteArray :=
  fill c (c.precision.elim bytes (bytes.extract 0))

/-- The first byte of a text, or a zero. -/
def letterBytes (c : Conversion) (t : Text) : ByteArray :=
  fill c (toBytes [t.head?.getD '\x00'])

/-- What a conversion makes of an argument. -/
def convert (c : Conversion) (argument : Text) : Printout :=
  match c.kind with
  | 's' => { bytes := textBytes c (toBytes argument) }
  | 'b' =>
    let (bytes, isFinal) := expandEscapes argument.length .empty argument
    { bytes := textBytes c bytes, isFinal }
  | 'c' => { bytes := letterBytes c argument }
  | 'd' | 'i' => convertSigned c argument
  | 'u' | 'x' | 'X' | 'o' => convertUnsigned c argument
  | 'a' | 'A' | 'e' | 'E' | 'f' | 'F' | 'g' | 'G' => convertFraction c argument
  | _ => { fault := some (.unknown c.source), isFinal := true }

/-- The number of values of a count. -/
def countRange : Nat := 4294967296

/-- A count in a format, as digits or as a star that takes an argument: the count if there is one,
the text and the arguments after it, and what is wrong with the argument. Counts wrap around. -/
def takeCount (t : Text) (arguments : List Text) :
    Option Int × Text × List Text × List Complaint :=
  match t with
  | '*' :: rest =>
    let argument := arguments.head?.getD []
    let (n, wrong) := integerOf leastNumber greatestNumber argument
    (some (n.bmod countRange), rest, arguments.drop 1, complaintAbout argument wrong)
  | _ =>
    let digits := t.takeWhile Char.isDigit
    ((Text.number? 10 digits).map Int.ofNat, t.drop digits.length, arguments, [])

/-- The conversion after a percent sign, the text and the arguments after it, and what is wrong with
its counts. None if nothing tells its kind. -/
def takeConversion? (t : Text) (arguments : List Text) :
    Option (Conversion × Text × List Text × List Complaint) :=
  let flags := t.takeWhile fun c => c ∈ ['-', '0', '+', ' ', '#']
  let (width, rest, arguments, first) := takeCount (t.drop flags.length) arguments
  let (precision, rest, arguments, second) := match rest with
    | '.' :: rest =>
      let (precision, rest) := takeCount rest arguments
      (some (precision.getD 0), rest)
    | _ => (none, rest, arguments, [])
  let flags := if width.any (· < 0) then '-' :: flags else flags
  let precision := (precision.filter (0 ≤ ·)).map Int.toNat
  let width := (width.map Int.natAbs).getD 0
  match rest with
  | kind :: rest =>
    let source := '%' :: t.take (t.length - rest.length)
    some (⟨flags, width, precision, kind, source⟩, rest, arguments, first ++ second)
  | [] => none

/-- What one pass over a format prints after `done`, and the arguments left over. -/
def printOnce : (steps : Nat) → (done : Printout) → (format : Text) → (arguments : List Text) →
    Printout × List Text
  | 0, done, _, arguments => (done, arguments)
  | _, done, [], arguments => (done, arguments)
  | steps + 1, done, c :: t, arguments =>
    if c = '%' then
      match t with
      | '%' :: rest => printOnce steps (done.push 37) rest arguments
      | _ =>
        match takeConversion? t arguments with
        | none =>
          (done.append { fault := some (.noKind (c :: t)), isFinal := true }, arguments)
        | some (conversion, rest, arguments, complaints) =>
          let converted := convert conversion (arguments.head?.getD [])
          let next := (done.append { complaints }).append converted
          if converted.isFinal then (next, [])
          else printOnce steps next rest (arguments.drop 1)
    else if c = '\\' then
      match takeEscape? t with
      | some (b, rest) => printOnce steps (done.push b) rest arguments
      | none => printOnce steps (done.push 92) t arguments
    else printOnce steps (done.push c.toNat.toUInt8) t arguments

/-- What a format prints with its arguments after `done`. It is used again while arguments are
left. -/
def printFormat : (steps : Nat) → (done : Printout) → (format : Text) → (arguments : List Text) →
    Printout
  | 0, done, _, _ => done
  | steps + 1, done, format, arguments =>
    let (next, left) := printOnce (format.length + 1) done format arguments
    if next.isFinal || left.isEmpty || left.length = arguments.length then next
    else printFormat steps next format left

end JarLens.Shell
