import JarLens.Shell.Printing
import JarLens.Shell.Utility.Basic

/-!
# Formats of a utility

The utility that prints its arguments in a format reads formats in its own way: a conversion is
refused unless its flags fit its kind, escapes can name characters by number, and what is wrong with
an argument is told where it shows in what is printed. The format is used again while it takes
arguments; those that it never takes are told of.
-/

namespace JarLens.Shell.Utility

/-- A part of what a format gives. -/
inductive FormatPart where
  | bytes (bytes : ByteArray)
  /-- Something to be told, which can be a failure. -/
  | told (isFailure : Bool) (complaint : Message)

/-- What a format gave so far, the last part first, and the arguments that are left. -/
structure Formatted where
  glyphs : Glyphs
  parts : List FormatPart := []
  arguments : List Text := []

/-- A step of formatting. It can end all with a status. -/
abbrev Formatting := EStateM Nat Formatted

namespace Formatting

/-- Adds a part. -/
def add (part : FormatPart) : Formatting Unit :=
  modify fun f => { f with parts := part :: f.parts }

/-- Prints bytes. -/
def print (bytes : ByteArray) : Formatting Unit :=
  add (.bytes bytes)

/-- Prints characters, each of which stands for a byte. -/
def printText (t : Text) : Formatting Unit :=
  print (toBytes t)

/-- Prints a byte. -/
def printByte (b : UInt8) : Formatting Unit :=
  print ⟨#[b]⟩

/-- Tells of a failure, and goes on. -/
def blame (complaint : Message) : Formatting Unit :=
  add (.told true complaint)

/-- Tells of a failure, with which all ends. -/
def refuse {α : Type} (complaint : Message) : Formatting α := do
  blame complaint
  throw 1

/-- The next argument. -/
def next? : Formatting (Option Text) := do
  match (← get).arguments with
  | [] => pure none
  | t :: arguments => do
    modify fun f => { f with arguments }
    pure (some t)

/-! ## Escapes -/

/-- Takes a character by its number, with a number of digits in base 16, from the text after the
letter of the escape. Only a few characters below 160 may be named so. Those that do not print are
printed by their number. -/
def takeCharacter (letter : Char) (count : Nat) (t : Text) : Formatting Text := do
  let digits := (t.take count).takeWhile isHexDigit
  if digits.length < count then refuse "missing hexadecimal number in escape".toList
  else
    let n := (Text.number? 16 digits).getD 0
    let isSpecial := n == 0x24 || n == 0x40 || n == 0x60
    if (n ≤ 0x9f && !isSpecial) || (0xd800 ≤ n && n ≤ 0xdfff) then
      refuse ("invalid universal character name \\".toList ++ letter ::
        digits.map Char.toLower)
    else
      let shown := Nat.toDigits 16 n |>.map Char.toUpper
      let width := if n < 0x10000 then 4 else 8
      let zeros := List.replicate (width - shown.length) '0'
      if isSpecial then printByte n.toUInt8
      else if (← get).glyphs == .unicode then print (Text.encodeUtf8 [Char.ofNat n])
      else printText ('\\' :: (if n < 0x10000 then 'u' else 'U') :: zeros ++ shown)
      pure (t.drop count)

/-- Prints what an escape stands for, from the text after its backslash, and gives the text after
it. In arguments a zero before octal digits does not count. -/
def takeEscape (isArgument : Bool) (t : Text) : Formatting Text := do
  match t with
  | [] => do
    printByte 92
    pure []
  | c :: rest =>
    if c == 'x' then
      let digits := (rest.take 2).takeWhile isHexDigit
      if digits.isEmpty then refuse "missing hexadecimal number in escape".toList
      else
        printByte ((Text.number? 16 digits).getD 0).toUInt8
        pure (rest.drop digits.length)
    else if isOctal c then
      let t := if isArgument && c == '0' then rest else t
      let digits := octalDigits t
      printByte (octalByte digits)
      pure (t.drop digits.length)
    else if c == 'c' then throw 0
    else if c == 'u' then takeCharacter c 4 rest
    else if c == 'U' then takeCharacter c 8 rest
    else
      match if c == '"' then some 34 else escapeByte? c with
      | some b => printByte b
      | none => printText ['\\', c]
      pure rest

/-- Prints an argument with escapes. -/
def printEscapes : (steps : Nat) → Text → Formatting Unit
  | 0, _ => pure ()
  | _, [] => pure ()
  | steps + 1, c :: t => do
    if c == '\\' then
      printEscapes steps (← takeEscape true t)
    else
      printText [c]
      printEscapes steps t

/-! ## Numbers -/

/-- Tells what is wrong with an argument that has to be a number. -/
def blameNumber (argument : Text) (isOutOfRange isNumber : Bool) (rest : Text) :
    Formatting Unit := do
  let blameIt := fun (words : String) => blame (inMarks (decoded argument) ++ words.toList)
  if isOutOfRange then blameIt ": Numerical result out of range"
  else if !isNumber then
    if !argument.isEmpty then blameIt ": expected a numeric value"
  else if !rest.isEmpty then blameIt ": value not completely converted"

/-- The code of the byte after a quote. What follows it is told of. -/
def quotedCode? : Text → Option (Formatting Nat)
  | quote :: c :: rest =>
    if quote != '"' && quote != '\x27' then none
    else some do
      if !rest.isEmpty then
        add (.told false ("warning: ".toList ++ decoded rest ++
          ": character(s) following character constant have been ignored".toList))
      pure c.toNat
  | _ => none

/-- The integer that an argument stands for, unless it is out of range. -/
def integer? (isOutOfRange : Int → Bool) (t : Text) : Formatting (Option Int) := do
  match quotedCode? t with
  | some code => do pure (some (Int.ofNat (← code)))
  | none =>
    match takeInteger? takeMagnitude? t with
    | none => do
      blameNumber t false false []
      pure (some 0)
    | some (n, rest) => do
      blameNumber t (isOutOfRange n) true rest
      pure (if isOutOfRange n then none else some n)

/-- The number with a sign that an argument stands for, the nearest one that there is. -/
def signed (t : Text) : Formatting Int := do
  let nearest := match takeInteger? takeMagnitude? t with
    | some (n, _) => max leastNumber (min n greatestNumber)
    | none => 0
  pure ((← integer? (fun n => n < leastNumber || greatestNumber < n) t).getD nearest)

/-- The number without sign that an argument stands for. Negative ones count from the end of the
range. -/
def unsigned (t : Text) : Formatting Nat := do
  match ← integer? (fun n => unsignedRange ≤ n.natAbs) t with
  | some n => pure (if n < 0 then unsignedRange + n else n).toNat
  | none => pure (unsignedRange - 1).toNat

/-- The number with a fraction that an argument stands for, and its sign. -/
def fraction (t : Text) : Formatting (Bool × Magnitude) := do
  match quotedCode? t with
  | some code => do pure (false, extended.nearest (← code) 0)
  | none =>
    match takeFraction? extended t with
    | none => do
      blameNumber t false false []
      pure (false, extended.nearest 0 0)
    | some l => do
      blameNumber t l.isOutOfRange true l.rest
      pure (l.isNegative, l.magnitude)

/-! ## Conversions -/

/-- Whether flags, or a precision, fit the kind of a conversion. -/
def isKind (flags : Text) (hasPrecision : Bool) (kind : Char) : Bool :=
  let isAmong := fun (letters : String) => letters.toList.any (· == kind)
  let has := fun (letters : String) => flags.any fun c => letters.toList.any (· == c)
  isAmong "aAcdeEfFgGiosuxX" &&
    !(has "\x27I" && isAmong "aAceEosxX") && !(has "#" && isAmong "cdisu") &&
    !(has "0" && isAmong "cs") && !(hasPrecision && kind == 'c')

/-- The greatest width or precision. -/
def countLimit : Int := 2147483647

/-- A count that a star takes from the arguments, or digits tell, and the text after it. -/
def takeCount (name : String) (isLeast : Int → Bool) (t : Text) :
    Formatting (Option Int × Text) := do
  match t with
  | '*' :: rest =>
    match ← next? with
    | none => pure (some 0, rest)
    | some argument => do
      let n ← signed argument
      if isLeast n || countLimit < n then
        refuse ("invalid ".toList ++ name.toList ++ ": ".toList ++
          inMarks (decoded argument))
      pure (some n, rest)
  | _ =>
    let digits := t.takeWhile Char.isDigit
    pure ((Text.number? 10 digits).map Int.ofNat, t.drop digits.length)

/-- Prints an argument by a conversion. -/
def printConverted (c : Conversion) (argument : Text) : Formatting Unit := do
  match c.kind with
  | 's' => print (textBytes c (toBytes argument))
  | 'c' => print (letterBytes c argument)
  | 'd' | 'i' => do print (signedBytes c (← signed argument))
  | 'u' | 'x' | 'X' | 'o' => do print (unsignedBytes c (← unsigned argument))
  | _ => do
    let (isNegative, magnitude) ← fraction argument
    print (fractionBytes extended c isNegative magnitude)

/-- Prints by the conversion that a text after a percent sign starts with, and gives the text after
it. -/
def takeConversion (t : Text) : Formatting Text := do
  match t with
  | '%' :: rest => do
    printByte 37
    pure rest
  | 'b' :: rest => do
    if let some argument ← next? then printEscapes argument.length argument
    pure rest
  | 'q' :: rest => do
    if let some argument ← next? then 
      printText (encoded ((nameShown (decoded argument)).write (← get).glyphs))
    pure rest
  | _ => do
    let flags := t.takeWhile fun c => "-+ #0\x27I".toList.any (· == c)
    let (width, rest) ← takeCount "field width" (· < -countLimit - 1) (t.drop flags.length)
    let hasPrecision := rest.head? == some '.'
    let (precision, rest) ← if hasPrecision then do
        let (count, rest) ← takeCount "precision" (fun _ => false) (rest.drop 1)
        pure (some (count.getD 0), rest)
      else pure (none, rest)
    let rest := rest.dropWhile fun c => "lLhjtz".toList.any (· == c)
    let source := '%' :: t.take (t.length - rest.length + 1)
    match rest with
    | kind :: rest =>
      if isKind flags hasPrecision kind then
        let flags := if width.any (· < 0) then '-' :: flags else flags
        printConverted
          { flags, width := (width.map Int.natAbs).getD 0
            precision := (precision.filter (0 ≤ ·)).map Int.toNat, kind, source }
          ((← next?).getD [])
        pure rest
      else refuse (decoded source ++ ": invalid conversion specification".toList)
    | [] => refuse (decoded source ++ ": invalid conversion specification".toList)

/-! ## Formats -/

/-- Prints by a format once. -/
def once : (steps : Nat) → (format : Text) → Formatting Unit
  | 0, _ => pure ()
  | _, [] => pure ()
  | steps + 1, c :: t => do
    if c == '%' then once steps (← takeConversion t)
    else if c == '\\' then once steps (← takeEscape false t)
    else
      printText [c]
      once steps t

/-- Prints by a format as long as it takes arguments, and tells of the first one that is left. -/
def all (format : Text) : (steps : Nat) → Formatting Unit
  | 0 => pure ()
  | steps + 1 => do
    let before := (← get).arguments
    once format.length format
    match (← get).arguments with
    | [] => pure ()
    | t :: rest =>
      if rest.length + 1 == before.length then
        add (.told false ("warning: ignoring excess arguments, starting with ".toList ++
          inMarks (decoded t)))
      else all format steps

end Formatting

/-- Prints bytes and tells of failures in the order in which they came up, and tells whether there
was no failure. -/
def printFormatted (name : Text) : (held : ByteArray) → List FormatPart → Run Nat
  | held, [] => printBytes name held
  | held, .bytes bytes :: parts => printFormatted name (held ++ bytes) parts
  | held, .told isFailure complaint :: parts => do
    let written ← printBytes name held
    let _ ← refuse name complaint
    let status ← printFormatted name .empty parts
    pure (if isFailure then 1 else max written status)

/-- Prints its arguments in a format. -/
def printf : Utility := fun name arguments => do
  match if arguments.head? == some ['-', '-'] then arguments.drop 1 else arguments with
  | [] => refuseUse name "missing operand".toList
  | format :: arguments =>
    let glyphs ← Run.glyphs
    let (ending, formatted) := match
        (Formatting.all format (arguments.length + 1)).run { glyphs, arguments } with
      | .ok _ formatted => (none, formatted)
      | .error status formatted => (some status, formatted)
    let status ← printFormatted name .empty formatted.parts.reverse
    pure (ending.getD status)

end JarLens.Shell.Utility
