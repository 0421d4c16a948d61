import JarLens.Text.Number

/-!
# Numbers held in binary

Quotients of integers, and the formats that hold the nearest number they can, the even one where two
are equally near.
-/

namespace JarLens

/-- A number that is not negative, as a quotient. -/
structure Ratio where
  numerator : Nat
  denominator : Nat

/-- A power of ten. -/
def tenTo (n : Nat) : Nat :=
  Nat.pow 10 n

/-- A number times a power of ten. -/
def Ratio.ofDecimal (n : Nat) : Int → Ratio
  | .ofNat power => ⟨n * tenTo power, 1⟩
  | .negSucc power => ⟨n, tenTo (power + 1)⟩

/-- A quotient times a power of ten. -/
def Ratio.times (q : Ratio) : Int → Ratio
  | .ofNat power => ⟨q.numerator * tenTo power, q.denominator⟩
  | .negSucc power => ⟨q.numerator, q.denominator * tenTo (power + 1)⟩

/-- The greatest integer that is not above a quotient. -/
def Ratio.floor (q : Ratio) : Nat :=
  q.numerator / q.denominator

/-- The nearest integer to a quotient, the even one of two. -/
def Ratio.rounded (q : Ratio) : Nat :=
  let twice : Nat := 2 * (q.numerator % q.denominator)
  if q.denominator < twice || (twice == q.denominator && q.floor % 2 == 1) then q.floor + 1
  else q.floor

/-- The power of ten of the first digit of a quotient that is not zero. -/
def Ratio.leading (q : Ratio) : Int :=
  let width := fun (n : Nat) => ((Text.ofNat n).length : Int)
  let guess := width q.numerator - width q.denominator
  if q.numerator * tenTo (-guess).toNat < q.denominator * tenTo guess.toNat then guess - 1
  else guess

/-- How numbers with a fraction are held: as integers times powers of two. -/
structure BinaryFormat where
  /-- The number of bits after the first one of an integer. -/
  bits : Nat
  /-- The least and the greatest exponent. -/
  least : Int
  greatest : Int
  /-- The number of bits after the first digit, when it is written in base 16. -/
  hexBits : Nat

/-- Numbers of 64 bits. -/
def double : BinaryFormat := ⟨52, -1074, 971, 52⟩

/-- Numbers of 80 bits. -/
def extended : BinaryFormat := ⟨63, -16445, 16320, 60⟩

/-- What is held, without its sign. -/
inductive Magnitude where
  /-- The number `m` times the power of two with the exponent `e`. -/
  | finite (m : Nat) (e : Int)
  | infinite
  | noNumber
  deriving DecidableEq

/-- The nearest number after its last `count` bits are taken away, the even one of two. -/
def withoutBits (n count : Nat) : Nat :=
  let whole := n >>> count
  let rest := n % (1 <<< count)
  let half := (1 <<< count) / 2
  if half < rest || (rest == half && 0 < count && whole % 2 == 1) then whole + 1 else whole

/-- What is nearest to the number `m` times a power of two. -/
def BinaryFormat.nearest (f : BinaryFormat) (m : Nat) (e : Int) : Magnitude :=
  if m == 0 then .finite 0 f.least
  else
    let shift := max (Int.ofNat (Nat.log2 m) - f.bits) (f.least - e)
    let n := match shift with
      | .ofNat count => withoutBits m count
      | .negSucc count => m <<< (count + 1)
    let (n, e) := if n == 1 <<< (f.bits + 1) then (n / 2, e + shift + 1) else (n, e + shift)
    if f.greatest < e then .infinite else .finite n e

/-- What is nearest to a quotient. A last bit tells whether division leaves a rest, so that rounding
sees on which side of a middle it is. -/
def BinaryFormat.nearestTo (f : BinaryFormat) (q : Ratio) : Magnitude :=
  let shift : Int := f.bits + 3 + Nat.log2 q.denominator - Nat.log2 q.numerator
  let a := q.numerator <<< shift.toNat
  let b := q.denominator <<< (-shift).toNat
  f.nearest (2 * (a / b) + if a % b == 0 then 0 else 1) (-shift - 1)

/-- A number times a power of two. -/
def Ratio.ofBinary (m : Nat) : Int → Ratio
  | .ofNat n => ⟨m <<< n, 1⟩
  | .negSucc n => ⟨m, 1 <<< (n + 1)⟩

end JarLens
