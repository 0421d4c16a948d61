import JarLens.Shell.Bytes

/-!
# Numbers in scripts

How a text is read as a number: after blanks and a sign, in base 16 after `0x`, in base 8 after `0`
and in base 10 otherwise, where the base is not given. What does not belong to the number is kept.
-/

namespace JarLens.Shell

/-- The blanks that a number may follow. -/
def isNumberSpace (c : Char) : Bool :=
  c == ' ' || ('\t' ≤ c && c ≤ '\r')

/-- The least number that a script can count with. -/
def leastNumber : Int := -9223372036854775808

/-- The greatest number that a script can count with. -/
def greatestNumber : Int := 9223372036854775807

/-- The number that digits of a base at the start of a text give, if there is one, and the text
after them. -/
def takeDigits? (base : Nat) (t : Text) : Option (Nat × Text) :=
  let digits := t.takeWhile fun c => (Text.digitValue? c).any (· < base)
  (Text.number? base digits).map fun n => (n, t.drop digits.length)

/-- The size of the number that a text starts with, in the base that its start tells. -/
def takeMagnitude? (t : Text) : Option (Nat × Text) :=
  match t with
  | '0' :: x :: rest =>
    (if x == 'x' || x == 'X' then takeDigits? 16 rest else none) <|> takeDigits? 8 t
  | _ => takeDigits? 10 t

/-- The number that a text starts with after blanks and a sign, and the text after it. -/
def takeInteger? (magnitude : Text → Option (Nat × Text)) (t : Text) : Option (Int × Text) :=
  match t.dropWhile isNumberSpace with
  | '-' :: t => (magnitude t).map fun (n, rest) => (-(n : Int), rest)
  | '+' :: t => (magnitude t).map fun (n, rest) => ((n : Int), rest)
  | t => (magnitude t).map fun (n, rest) => ((n : Int), rest)

/-- The number that a whole text is, with blanks around it. -/
def wholeInteger? (magnitude : Text → Option (Nat × Text)) (t : Text) : Option Int :=
  (takeInteger? magnitude t).bind fun (n, rest) =>
    if rest.all isNumberSpace && leastNumber ≤ n && n ≤ greatestNumber then some n else none

/-- The number that a whole text is in base 10. -/
def decimal? (t : Text) : Option Int :=
  wholeInteger? (takeDigits? 10) t

end JarLens.Shell
