import JarLens.Number.Binary

/-!
# Forms of numbers

How quotients are printed: with a fixed number of decimals, with a power of ten, in the shorter of
the two forms, or in base 16. They are rounded to a number of digits, to the even neighbour where
two are equally near.
-/

namespace JarLens

/-- Digits with a point before the last `places` of them. -/
def withPoint (places : Nat) (keepsPoint : Bool) (n : Nat) : Text :=
  let digits := Text.ofNat n
  let digits := List.replicate (places + 1 - digits.length) '0' ++ digits
  let cut := digits.length - places
  digits.take cut ++ (if places = 0 && !keepsPoint then [] else '.' :: digits.drop cut)

/-- How many decimals can be other than zero at most, and how many digits after the first. -/
def placesLimit : Nat := 17000

/-- The zeros beyond what can be other than zero. -/
def lateZeros (places : Nat) : Text :=
  List.replicate (places - placesLimit) '0'

/-- A number with a fixed number of decimals. -/
def Ratio.fixed (q : Ratio) (places : Nat) (keepsPoint : Bool) : Text :=
  let near := min places placesLimit
  withPoint near keepsPoint (q.times near).rounded ++ lateZeros places

/-- The power of ten of the first digit, when a number is rounded to `places` more digits. -/
def Ratio.exponent (q : Ratio) (places : Nat) : Int :=
  if q.numerator == 0 then 0
  else if tenTo (places + 1) ≤ (q.times (places - q.leading)).rounded then q.leading + 1
  else q.leading

/-- A number with one digit before the point and a power of ten. -/
def Ratio.scientific (q : Ratio) (places : Nat) (keepsPoint : Bool) (mark : Char) : Text :=
  let near := min places placesLimit
  let e := q.exponent near
  let power := Text.ofNat e.natAbs
  withPoint near keepsPoint (q.times (near - e)).rounded ++ lateZeros places ++
    mark :: (if e < 0 then '-' else '+') :: List.replicate (2 - power.length) '0' ++ power

/-- A number in the shorter of the two forms, without zeros at its end. With zeros kept they are
still lost by a number that only rounding makes too great for the fixed form. -/
def Ratio.general (q : Ratio) (digits : Nat) (keepsZeros : Bool) (mark : Char) : Text :=
  let digits := max digits 1
  let e := q.exponent (min (digits - 1) placesLimit)
  if keepsZeros && e == digits && q.numerator < tenTo digits * q.denominator then
    q.scientific 0 true mark
  else
    let t := if -4 ≤ e && e < digits then q.fixed (digits - 1 - e).toNat keepsZeros
      else q.scientific (digits - 1) keepsZeros mark
    let number := t.takeWhile (· != mark)
    if keepsZeros || !number.any (· == '.') then t
    else Text.trimEnd (· == '.') (Text.trimEnd (· == '0') number) ++ t.drop number.length

/-- The number `m` times a power of two in base 16: a digit, a point, more digits and the power of
two. Without a number of places there are as many as there have to be. -/
def BinaryFormat.hexText (f : BinaryFormat) (m : Nat) (e : Int) (places : Option Nat)
    (keepsPoint : Bool) : Text :=
  let most := f.hexBits / 4
  let exponent := if m == 0 then 0 else e + f.hexBits
  let kept := min (places.getD most) most
  let n := withoutBits m (4 * (most - kept))
  let first := n >>> (4 * kept)
  let (first, exponent) := if first == 16 then (1, exponent + 4) else (first, exponent)
  let digits := Text.ofHex kept (n % (1 <<< (4 * kept)))
  let digits := if kept == 0 then []
    else match places with
      | some p => digits ++ List.replicate (p - most) '0'
      | none => Text.trimEnd (· == '0') digits
  Nat.toDigits 16 first ++ (if digits.isEmpty && !keepsPoint then [] else '.' :: digits) ++
    'p' :: (if exponent < 0 then '-' else '+') :: Text.ofNat exponent.natAbs

end JarLens
