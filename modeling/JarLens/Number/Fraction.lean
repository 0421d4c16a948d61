import JarLens.Number.Binary

/-!
# Fractions

Numbers of 64 bits with their sign. A number in decimal is read as the nearest of them, and one is
written with the fewest digits that are read as the same number.
-/

namespace JarLens

/-- A number of 64 bits. -/
structure Fraction where
  isNegative : Bool
  magnitude : Magnitude

namespace Fraction

/-- No number is as great as ten to this power, and none but zero as small as its inverse. -/
def powerLimit : Nat := 400

/-- What is nearest to the number `n` times a power of ten. -/
def nearest (n : Nat) (power : Int) : Magnitude :=
  let leading := (Text.ofNat n).length + power
  if n = 0 || leading < -powerLimit then .finite 0 double.least
  else if powerLimit < leading then .infinite
  else double.nearestTo (Ratio.ofDecimal n power)

/-- Whether it is zero, of either sign. -/
def isZero (x : Fraction) : Bool :=
  match x.magnitude with
  | .finite m _ => m == 0
  | _ => false

/-- The number that is one, or zero, if it is that. -/
def bit? (x : Fraction) : Option Bool :=
  if x.isZero then some false
  else if !x.isNegative && x.magnitude = nearest 1 0 then some true
  else none

/-- The number of digits with which every number can be told from the others. -/
def mostDigits : Nat := 17

/-- The number of `count` digits, and the power of ten that it is to be taken times, that is read as
a given number. Of the two on either side the nearer one is preferred. -/
def withDigits? (m : Nat) (e : Int) (count : Nat) : Option (Nat × Int) :=
  let q := Ratio.ofBinary m e
  let power := q.leading + 1 - count
  let scaled := q.times (-power)
  let further := if scaled.rounded = scaled.floor then scaled.floor + 1 else scaled.floor
  ([scaled.rounded, further].find? fun n => nearest n power = .finite m e).map (·, power)

/-- The fewest digits that are read as a given number, and the power of ten that they are to be
taken times. -/
def shortest (m : Nat) (e : Int) : Nat × Int :=
  ((List.range' 1 mostDigits).findSome? (withDigits? m e)).getD (0, 0)

/-- Digits with a point `point` places after the start of them. -/
def positional (digits : Text) (point : Int) : Text :=
  let before := point.toNat
  let whole := digits.take before ++ List.replicate (before - digits.length) '0'
  let decimals := List.replicate (-point).toNat '0' ++ digits.drop before
  (if whole.isEmpty then ['0'] else whole) ++ '.' ::
    (if decimals.isEmpty then ['0'] else decimals)

/-- Digits with a point after the first of them, and a power of ten. -/
def scientific (digits : Text) (power : Int) : Text :=
  let (first, others) := digits.splitAt 1
  let exponent := Text.ofNat power.natAbs
  first ++ (if others.isEmpty then [] else '.' :: others) ++
    'e' :: (if power < 0 then '-' else '+') :: List.replicate (2 - exponent.length) '0' ++ exponent

/-- A finite number. A power of ten stands for more than three zeros after the point, and for more
than sixteen digits before it. -/
def finiteText (m : Nat) (e : Int) : Text :=
  if m = 0 then positional ['0'] 1
  else
    let (n, power) := shortest m e
    let digits := Text.ofNat n
    let point := digits.length + power
    let digits := Text.trimEnd (· == '0') digits
    if -4 < point && point ≤ 16 then positional digits point else scientific digits (point - 1)

/-- A number with words for what is not finite. -/
def written (infinity noNumber : String) (x : Fraction) : Text :=
  let sign := if x.isNegative then ['-'] else []
  match x.magnitude with
  | .finite m e => sign ++ finiteText m e
  | .infinite => sign ++ infinity.toList
  | .noNumber => noNumber.toList

end Fraction

end JarLens
