import JarLens.Text.Basic

/-!
# Numbers in text

Decimal numbers without leading zeros, and hexadecimal and octal ones of a least width.
-/

namespace JarLens.Text

/-- A number in decimal. -/
def ofNat (n : Nat) : Text :=
  Nat.toDigits 10 n

/-- A number in decimal, negative ones after a minus sign. -/
def ofInt : Int → Text
  | .ofNat n => ofNat n
  | .negSucc n => '-' :: ofNat (n + 1)

/-- A number in base 16 with small letters, filled up with zeros to `width` digits. -/
def ofHex (width n : Nat) : Text :=
  let digits := Nat.toDigits 16 n
  List.replicate (width - digits.length) '0' ++ digits

/-- The value of a digit in bases up to 36. -/
def digitValue? (c : Char) : Option Nat :=
  if '0' ≤ c ∧ c ≤ '9' then some (c.toNat - 48)
  else if 'a' ≤ c ∧ c ≤ 'z' then some (c.toNat - 87)
  else if 'A' ≤ c ∧ c ≤ 'Z' then some (c.toNat - 55)
  else none

/-- The value of digits in a base, none when one of them is not a digit there or none is given. -/
def number? (base : Nat) (t : Text) : Option Nat :=
  if t.isEmpty then none
  else t.foldl (fun n c => do
    let n ← n
    let d ← digitValue? c
    if d < base then some (n * base + d) else none) (some 0)

end JarLens.Text
