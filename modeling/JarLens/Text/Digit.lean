import JarLens.Text.Blank

/-!
# Decimal digits

The decimal digits of the Unicode standard, version 14, and the integers that they write. The digits
of a script follow one another in the order of their values, so that a script is known by its zero.
-/

namespace JarLens.Text

/-- The zeros of all scripts. -/
def decimalZeros : List Nat :=
  [0x30, 0x0660, 0x06f0, 0x07c0, 0x0966, 0x09e6, 0x0a66, 0x0ae6, 0x0b66, 0x0be6, 0x0c66, 0x0ce6,
   0x0d66, 0x0de6, 0x0e50, 0x0ed0, 0x0f20, 0x1040, 0x1090, 0x17e0, 0x1810, 0x1946, 0x19d0, 0x1a80,
   0x1a90, 0x1b50, 0x1bb0, 0x1c40, 0x1c50, 0xa620, 0xa8d0, 0xa900, 0xa9d0, 0xa9f0, 0xaa50, 0xabf0,
   0xff10, 0x104a0, 0x10d30, 0x11066, 0x110f0, 0x11136, 0x111d0, 0x112f0, 0x11450, 0x114d0, 0x11650,
   0x116c0, 0x11730, 0x118e0, 0x11950, 0x11c50, 0x11d50, 0x11da0, 0x16a60, 0x16ac0, 0x16b50,
   0x1d7ce, 0x1d7d8, 0x1d7e2, 0x1d7ec, 0x1d7f6, 0x1e140, 0x1e2f0, 0x1e950, 0x1fbf0]

/-- The value of a decimal digit of any script. -/
def decimalValue? (c : Char) : Option Nat :=
  (decimalZeros.find? fun n => n ≤ c.toNat && c.toNat < n + 10).map (c.toNat - ·)

/-- Whether the character is a decimal digit of some script. -/
def isDecimal (c : Char) : Bool :=
  (decimalValue? c).isSome

/-- The number that decimal digits write. -/
def ofDecimals (t : Text) : Nat :=
  t.foldl (fun n c => n * 10 + (decimalValue? c).getD 0) 0

/-- The blanks around an integer: those of a text without the information separators. -/
def isIntegerBlank (c : Char) : Bool :=
  isBlank c && !(0x1c ≤ c.toNat && c.toNat < 0x20)

/-- The most digits of an integer. -/
def digitsLimit : Nat := 4300

/-- The integer that a text is, between blanks. Single low lines may stand between digits. -/
def integer? (t : Text) : Option Int :=
  let t := trimEnd isIntegerBlank (trimStart isIntegerBlank t)
  let isNegative := t.head? == some '-'
  let groups := splitOn '_' (if isNegative || t.head? == some '+' then t.drop 1 else t)
  let digits := groups.flatten
  if (groups.all fun group => !group.isEmpty && group.all isDecimal) &&
      digits.length ≤ digitsLimit then
    some (if isNegative then -Int.ofNat (ofDecimals digits) else ofDecimals digits)
  else none

end JarLens.Text
