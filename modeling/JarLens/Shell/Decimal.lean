import JarLens.Number.Forms
import JarLens.Shell.Number

/-!
# Fractions in scripts

How scripts write numbers with a fraction: in decimal, in base 16 or as a word. A number is the
nearest one that can be held in binary.
-/

namespace JarLens.Shell

/-- The greatest power of ten that makes a difference. -/
def exponentLimit : Nat := 20000

/-- A number with a fraction at the start of a text. -/
structure LeadingFraction where
  isNegative : Bool := false
  magnitude : Magnitude
  /-- Whether nothing that can be held comes near to it. -/
  isOutOfRange : Bool := false
  /-- The text after it. -/
  rest : Text

/-- The power that an exponent after its mark tells, zero where there is none, and the text
after it. -/
def takePower (isMark : Char → Bool) (t : Text) : Int × Text :=
  match t with
  | c :: more =>
    match if isMark c then takeInteger? (takeDigits? 10) more else none with
    | some (n, rest) => if more.head?.any isNumberSpace then (0, t) else (n, rest)
    | none => (0, t)
  | [] => (0, t)

/-- Digits that a text starts with, those after a point, and the text after them. None if there is
no digit. -/
def takePointed? (isDigit : Char → Bool) (t : Text) : Option (Text × Text × Text) :=
  let whole := t.takeWhile isDigit
  let rest := t.drop whole.length
  let decimals := match rest with
    | '.' :: more => more.takeWhile isDigit
    | _ => []
  if whole.isEmpty && decimals.isEmpty then none
  else
    match rest with
    | '.' :: more => some (whole, decimals, more.drop decimals.length)
    | _ => some (whole, decimals, rest)

/-- A decimal number that a text starts with. -/
def takeDecimal? (f : BinaryFormat) (t : Text) : Option LeadingFraction := do
  let (whole, decimals, rest) ← takePointed? Char.isDigit t
  let (power, rest) := takePower (fun c => c == 'e' || c == 'E') rest
  let digits := (Text.number? 10 (whole ++ decimals)).getD 0
  let power := power - decimals.length
  let limit := Int.ofNat exponentLimit
  let q := Ratio.ofDecimal digits (max (-limit) (min power limit))
  let magnitude := f.nearestTo q
  let isOutOfRange := match magnitude with
    | .finite m _ =>
      m < 1 <<< f.bits && m * q.denominator != q.numerator * (1 <<< f.least.natAbs)
    | _ => true
  pure { magnitude, isOutOfRange, rest }

/-- Whether the character is a digit in base 16. -/
def isHexDigit (c : Char) : Bool :=
  (Text.digitValue? c).any (· < 16)

/-- A number in base 16 that a text starts with, after `0x`. -/
def takeHexadecimal? (f : BinaryFormat) (t : Text) : Option LeadingFraction := do
  let t ← Text.dropPrefix? ['0', 'x'] t <|> Text.dropPrefix? ['0', 'X'] t
  let (whole, decimals, rest) ← takePointed? isHexDigit t
  let (power, rest) := takePower (fun c => c == 'p' || c == 'P') rest
  let digits := (Text.number? 16 (whole ++ decimals)).getD 0
  let limit := Int.ofNat exponentLimit
  let magnitude := f.nearest digits
    (max (-limit) (min power limit) - 4 * Int.ofNat decimals.length)
  let isOutOfRange := match magnitude with
    | .finite m _ => m == 0 && digits != 0
    | _ => true
  pure { magnitude, isOutOfRange, rest }

/-- A word for what is no finite number that a text starts with. -/
def takeNumberWord? (t : Text) : Option LeadingFraction :=
  let after? := fun (word : String) =>
    let n := word.length
    if (t.take n).map Char.toLower == word.toList then some (t.drop n) else none
  match after? "infinity" <|> after? "inf", after? "nan" with
  | some rest, _ => some { magnitude := .infinite, rest }
  | none, some rest =>
    let rest := match rest with
      | '(' :: more =>
        match more.dropWhile fun c => c.isAlphanum || c == '_' with
        | ')' :: more => more
        | _ => rest
      | _ => rest
    some { magnitude := .noNumber, rest }
  | none, none => none

/-- The number that a text starts with after blanks and a sign. -/
def takeFraction? (f : BinaryFormat) (t : Text) : Option LeadingFraction :=
  let t := t.dropWhile isNumberSpace
  let isNegative := t.head? == some '-'
  let t := if isNegative || t.head? == some '+' then t.drop 1 else t
  (takeNumberWord? t <|> takeHexadecimal? f t <|> takeDecimal? f t).map fun l =>
    { l with isNegative }

end JarLens.Shell
