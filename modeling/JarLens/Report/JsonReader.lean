import JarLens.Report.Json
import JarLens.Text.Digit
import JarLens.Text.Utf8

/-!
# Reading JSON

`Json.read` reads a value from its written form. Besides the values of the format it takes `NaN` and
`Infinity` as numbers. Of fields with one name the last one counts, at the place of the first.
Integers and the depth of values are bounded. A surrogate without its partner is read as a
replacement character, and `hasUnpaired` tells whether there is one.
-/

namespace JarLens.Json

/-- Why a text is read as no value. -/
inductive ReadFault where
  | malformed
  /-- An integer has this many digits. -/
  | manyDigits (count : Nat)
  /-- Arrays and objects are too deep within each other, at an object or at an array. -/
  | tooDeep (isObject : Bool)
  deriving DecidableEq

/-- How deep arrays and objects can be within each other. -/
def depthLimit : Nat := 974

/-- What a fault is called. -/
def ReadFault.message : ReadFault → Text
  | malformed => "malformed".toList
  | manyDigits count =>
    "Exceeds the limit (".toList ++ Text.ofNat Text.digitsLimit ++
      " digits) for integer string conversion: value has ".toList ++ Text.ofNat count ++
      " digits; use sys.set_int_max_str_digits() to increase the limit".toList
  | tooDeep isObject =>
    "maximum recursion depth exceeded while decoding a JSON ".toList ++
      (if isObject then "object" else "array").toList ++ " from a unicode string".toList

/-- The blanks between the parts of a value. -/
def isSpace (c : Char) : Bool :=
  c == ' ' || c == '\t' || c == '\n' || c == '\r'

/-- A text without the blanks before it. -/
def pastSpace (t : Text) : Text :=
  Text.trimStart isSpace t

/-- The character of an escape letter. -/
def escaped? (c : Char) : Option Char :=
  match c with
  | '"' => some '"' | '\\' => some '\\' | '/' => some '/' | 'b' => some '\x08'
  | 'f' => some '\x0c' | 'n' => some '\n' | 'r' => some '\r' | 't' => some '\t'
  | _ => none

/-- Whether a code unit is the first of two surrogates, or the second. -/
def isHigh (n : Nat) : Bool :=
  0xd800 ≤ n && n < 0xdc00

/-- Whether a code unit is the second of two surrogates. -/
def isLow (n : Nat) : Bool :=
  0xdc00 ≤ n && n < 0xe000

/-- The second of two surrogates that a text starts with, as an escape. -/
def lowUnit? (t : Text) : Option Nat :=
  match t with
  | '\\' :: 'u' :: a :: b :: c :: d :: _ => (Text.number? 16 [a, b, c, d]).filter isLow
  | _ => none

/-- The string up to the closing quote, after the characters `done` in reverse order, and the text
after it. A surrogate without its partner is replaced. -/
def takeString (done : Text) : Text → Except ReadFault (Text × Text)
  | '"' :: t => .ok (done.reverse, t)
  | '\\' :: 'u' :: a :: b :: c :: d :: t =>
    match Text.number? 16 [a, b, c, d] with
    | none => .error .malformed
    | some unit =>
      match if isHigh unit then lowUnit? t else none with
      | some low =>
        takeString (Char.ofNat (0x10000 + (unit - 0xd800) * 0x400 + (low - 0xdc00)) :: done)
          (t.drop 6)
      | none =>
        let c := if isHigh unit || isLow unit then Text.replacement else Char.ofNat unit
        takeString (c :: done) t
  | '\\' :: e :: t =>
    match escaped? e with
    | some c => takeString (c :: done) t
    | none => .error .malformed
  | c :: t => if c.toNat < 32 || c == '\\' then .error .malformed else takeString (c :: done) t
  | [] => .error .malformed
termination_by t => t.length
decreasing_by all_goals simp_wf; try omega

/-- Whether a text has an escape of a surrogate without its partner. -/
def hasUnpaired : Text → Bool
  | '\\' :: 'u' :: a :: b :: c :: d :: t =>
    match Text.number? 16 [a, b, c, d] with
    | none => hasUnpaired t
    | some unit =>
      if isHigh unit && (lowUnit? t).isSome then hasUnpaired (t.drop 6)
      else isHigh unit || isLow unit || hasUnpaired t
  | '\\' :: _ :: t => hasUnpaired t
  | _ :: t => hasUnpaired t
  | [] => false
termination_by t => t.length
decreasing_by all_goals simp_wf; try omega

/-- The decimals of a number after a point, if there are some, and the text after them. -/
def takeDecimals (t : Text) : Text × Text :=
  match t with
  | '.' :: more =>
    let digits := more.takeWhile Char.isDigit
    if digits.isEmpty then ([], t) else (digits, more.drop digits.length)
  | _ => ([], t)

/-- The power of ten at the end of a number, if there is one, and the text after it. -/
def takePower? (t : Text) : Option (Int × Text) :=
  match t with
  | mark :: more =>
    if mark != 'e' && mark != 'E' then none
    else
      let isNegative := more.head? == some '-'
      let more := if isNegative || more.head? == some '+' then more.drop 1 else more
      let digits := more.takeWhile Char.isDigit
      (Text.number? 10 digits).map fun n =>
        (if isNegative then -Int.ofNat n else n, more.drop digits.length)
  | [] => none

/-- The number that a text starts with, after its sign, and the text after it. -/
def takeNumber (isNegative : Bool) (t : Text) : Except ReadFault (Json × Text) :=
  let digits := match t with
    | '0' :: _ => ['0']
    | _ => t.takeWhile Char.isDigit
  match Text.number? 10 (digits.take Text.digitsLimit), t.drop digits.length with
  | none, _ =>
    match Text.dropPrefix? "Infinity".toList t with
    | some rest => .ok (.fraction ⟨isNegative, .infinite⟩, rest)
    | none => .error .malformed
  | some n, rest =>
    let (decimals, rest) := takeDecimals rest
    match decimals, takePower? rest with
    | [], none =>
      if Text.digitsLimit < digits.length then .error (.manyDigits digits.length)
      else .ok (.number (if isNegative then -Int.ofNat n else n), rest)
    | _, power =>
      let (power, rest) := power.getD (0, rest)
      let n := (Text.number? 10 (digits ++ decimals)).getD 0
      .ok (.fraction ⟨isNegative, Fraction.nearest n (power - decimals.length)⟩, rest)

/-- The words that are values. -/
def words : List (String × Json) :=
  [("null", .null), ("true", .bool true), ("false", .bool false),
    ("NaN", .fraction ⟨false, .noNumber⟩)]

/-- The word or number that a text starts with, and the text after it. -/
def takeScalar (t : Text) : Except ReadFault (Json × Text) :=
  match words.findSome? fun (word, value) =>
      (Text.dropPrefix? word.toList t).map fun rest => (value, rest) with
  | some found => .ok found
  | none =>
    match t with
    | '-' :: t => takeNumber true t
    | _ => takeNumber false t

/-- Fields in reverse order with one more. A name that is there already gets the new value. -/
def putField (name : Text) (value : Json) (done : List (Text × Json)) : List (Text × Json) :=
  if done.any (·.1 == name) then
    done.map fun field => if field.1 == name then (name, value) else field
  else (name, value) :: done

/-- The name that a text starts with, and the text after it and its blanks. -/
def takeName (t : Text) : Except ReadFault (Text × Text) :=
  match t with
  | '"' :: t => (takeString [] t).map fun (name, rest) => (name, pastSpace rest)
  | _ => .error .malformed

mutual

/-- The value that a text starts with, `room` levels being left, and the text after it. -/
def takeValue (room : Nat) : (steps : Nat) → Text → Except ReadFault (Json × Text)
  | 0, _ => .error .malformed
  | steps + 1, t =>
    match t with
    | '"' :: t => (takeString [] t).map fun (s, rest) => (.text s, rest)
    | '[' :: t =>
      match room, pastSpace t with
      | 0, _ => .error (.tooDeep false)
      | _, ']' :: t => .ok (.array [], t)
      | room + 1, t => takeItems room steps [] t
    | '\x7b' :: t =>
      match room, pastSpace t with
      | 0, _ => .error (.tooDeep true)
      | _, '\x7d' :: t => .ok (.object [], t)
      | room + 1, t => takeFields room steps [] t
    | t => takeScalar t

/-- The array of the items `done` in reverse order and of those up to the closing bracket, at least
one. -/
def takeItems (room : Nat) :
    (steps : Nat) → (done : List Json) → Text → Except ReadFault (Json × Text)
  | 0, _, _ => .error .malformed
  | steps + 1, done, t =>
    match takeValue room steps t with
    | .error fault => .error fault
    | .ok (item, t) =>
      match pastSpace t with
      | ']' :: t => .ok (.array (item :: done).reverse, t)
      | ',' :: t => takeItems room steps (item :: done) (pastSpace t)
      | _ => .error .malformed

/-- The object of the fields `done` in reverse order and of those up to the closing brace, at least
one. -/
def takeFields (room : Nat) :
    (steps : Nat) → (done : List (Text × Json)) → Text → Except ReadFault (Json × Text)
  | 0, _, _ => .error .malformed
  | steps + 1, done, t =>
    match takeName t with
    | .ok (name, ':' :: t) =>
      match takeValue room steps (pastSpace t) with
      | .error fault => .error fault
      | .ok (value, t) =>
        match pastSpace t with
        | '\x7d' :: t => .ok (.object (putField name value done).reverse, t)
        | ',' :: t => takeFields room steps (putField name value done) (pastSpace t)
        | _ => .error .malformed
    | _ => .error .malformed

end

/-- The value that a text writes. -/
def read (t : Text) : Except ReadFault Json :=
  match takeValue depthLimit (2 * t.length + 2) (pastSpace t) with
  | .ok (value, rest) => if (pastSpace rest).isEmpty then .ok value else .error .malformed
  | .error fault => .error fault

end JarLens.Json
