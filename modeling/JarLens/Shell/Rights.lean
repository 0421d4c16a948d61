import JarLens.Shell.Number

/-!
# Permission bits in words

Permission bits are told by letters and changed by texts such as `go-w`: users, then operators that
each come before rights, and again after commas. The mask of a process is changed by any text that
can be read up to its end, also where something is left out; utilities take complete changes only,
and tell folders from files in them.
-/

namespace JarLens.Shell.Rights

/-- All bits there are. -/
def allBits : Nat := 0o7777

/-- The rights in three bits. -/
def ofUser (bits : Nat) : Text :=
  (if bits &&& 4 != 0 then ['r'] else []) ++ (if bits &&& 2 != 0 then ['w'] else []) ++
    (if bits &&& 1 != 0 then ['x'] else [])

/-- The rights of each user. -/
def toText (bits : Nat) : Text :=
  "u=".toList ++ ofUser (bits / 64) ++ ",g=".toList ++ ofUser (bits / 8 % 8) ++
    ",o=".toList ++ ofUser (bits % 8)

/-- The rights of all users, with a dash for each that is missing. The last letter of each user
tells also the bit beyond the rights. -/
def inRow (bits : Nat) : Text :=
  [(6, 11, 's'), (3, 10, 's'), (0, 9, 't')].flatMap fun (place, beyond, mark) =>
    let right := fun (k : Nat) (c : Char) => if bits.testBit (place + k) then c else '-'
    let last := match bits.testBit beyond, bits.testBit place with
      | true, true => mark
      | true, false => mark.toUpper
      | false, _ => right 0 'x'
    [right 2 'r', right 1 'w', last]

/-- The bits in octal, in four digits. -/
def inDigits (bits : Nat) : Text :=
  let digits := Nat.toDigits 8 (bits &&& allBits)
  List.replicate (4 - digits.length) '0' ++ digits

/-- Whether a letter names users. -/
def isUser (c : Char) : Bool :=
  c == 'u' || c == 'g' || c == 'o' || c == 'a'

/-- Whether a letter says how bits change. -/
def isOperator (c : Char) : Bool :=
  c == '=' || c == '+' || c == '-'

/-- Where the bits of users are, by their letters. No letters stand for all of them. -/
def places (users : Text) : Nat :=
  if users.isEmpty then 0o111
  else users.foldl (fun n c =>
    n ||| (if c == 'u' then 0o100 else if c == 'g' then 0o010 else if c == 'o' then 0o001
      else 0o111)) 0

/-- The three bits of a right, or those that a user has. -/
def ofLetter (bits : Nat) (c : Char) : Nat :=
  if c == 'r' then 4
  else if c == 'w' then 2
  else if c == 'x' then 1
  else if c == 'X' then (if bits &&& 0o111 != 0 then 1 else 0)
  else if c == 'u' then bits / 64 % 8
  else if c == 'g' then bits / 8 % 8
  else if c == 'o' then bits % 8
  else 0

/-- The three bits of some rights. -/
def ofLetters (bits : Nat) (letters : Text) : Nat :=
  letters.foldl (fun n c => n ||| ofLetter bits c) 0

/-- Bits after one operator, which changes those of some users. -/
def changed (operator : Char) (places value bits : Nat) : Nat :=
  let others := bits &&& (allBits ^^^ (places * 7))
  if operator == '+' then bits ||| places * value
  else if operator == '-' then bits &&& (allBits ^^^ (places * value))
  else others ||| places * value

/-- What a process lets new files have, after changes of what it let them have before. -/
def allowedAfter (before : Nat) (changes : Text) : Option Nat :=
  go (changes.length + 1) [] before changes
where
  /-- The bits after the changes that are left, the next of which concerns the users named so
  far. -/
  go : (steps : Nat) → (users : Text) → (bits : Nat) → Text → Option Nat
    | 0, _, bits, _ => some bits
    | steps + 1, users, bits, t =>
      let named := users ++ t.takeWhile isUser
      match t.dropWhile isUser with
      | [] => some bits
      | operator :: rest =>
        if !isOperator operator then none
        else
          let isRight := fun (c : Char) => "rwxugoXs".toList.any (· == c)
          let value := ofLetters before (rest.takeWhile isRight)
          let bits := changed operator (places named) value bits
          match rest.dropWhile isRight with
          | ',' :: rest => go steps [] bits rest
          | rest => go steps (if named.isEmpty then ['a'] else named) bits rest

/-! ## Changes -/

/-- What a change of permission bits says about them. -/
inductive Value where
  | bits (bits : Nat)
  /-- The bits that some users have, for all users. -/
  | copied (places : Nat)
  /-- Some bits, and those to run a file if it is a folder or somebody may run it. -/
  | runnable (bits : Nat)

/-- A change of permission bits. -/
structure Change where
  operator : Char
  /-- The bits of the users that are named, none if no users are named. -/
  affected : Nat
  value : Value
  /-- The bits that are named. The ones that run a program for its owner, or its group, are kept for
  a folder unless they are. -/
  mentioned : Nat

/-- The bits without some others. -/
def without (bits others : Nat) : Nat :=
  bits &&& (allBits ^^^ (others &&& allBits))

/-- The bits that belong to users, by their letters. -/
def bitsOfUsers (users : Text) : Nat :=
  users.foldl (fun n c =>
    n ||| (if c == 'u' then 0o4700 else if c == 'g' then 0o2070 else if c == 'o' then 0o1007
      else allBits)) 0

/-- The bits of rights, by their letters. -/
def bitsOfRights (rights : Text) : Nat :=
  rights.foldl (fun n c =>
    n ||| (if c == 'r' then 0o444 else if c == 'w' then 0o222 else if c == 'x' then 0o111
      else if c == 's' then 0o6000 else if c == 't' then 0o1000 else 0)) 0

/-- The value that comes after an operator with the bits that it names, and what follows it. Octal
digits come without users, and up to the end of the change. -/
def takeValue (affected : Nat) (t : Text) : Option (Change × Text) :=
  let change := fun (affected : Nat) (value : Value) (bits : Nat) =>
    Change.mk '=' affected value (if affected = 0 then bits else affected &&& bits)
  let digits := t.takeWhile fun c => '0' ≤ c && c ≤ '7'
  match Text.number? 8 digits, t with
  | some bits, _ =>
    let rest := t.drop digits.length
    if allBits < bits || affected != 0 || !(rest.isEmpty || rest.head? == some ',') then none
    else some (change allBits (.bits bits) allBits, rest)
  | none, 'u' :: rest => some (change affected (.copied 0o700) 0o700, rest)
  | none, 'g' :: rest => some (change affected (.copied 0o070) 0o070, rest)
  | none, 'o' :: rest => some (change affected (.copied 0o007) 0o007, rest)
  | none, _ =>
    let letters := t.takeWhile fun c => "rwxXst".toList.contains c
    let bits := bitsOfRights letters
    some (change affected (if letters.contains 'X' then .runnable bits else .bits bits) bits,
      t.drop letters.length)

/-- The changes that a text tells, in octal or by letters. None if it cannot be read. -/
def changesOf (t : Text) : Option (List Change) :=
  if (t.head?).any Char.isDigit then
    match Text.number? 8 t with
    | some bits =>
      let mentioned := if t.length < 5 then bits &&& 0o6000 ||| 0o1777 else allBits
      if bits ≤ allBits then some [⟨'=', allBits, .bits bits, mentioned⟩] else none
    | none => none
  else go (2 * t.length + 1) none t
where
  /-- The changes that are left. Those after users concern all the bits of these. -/
  go : (steps : Nat) → (affected : Option Nat) → Text → Option (List Change)
    | 0, _, _ => none
    | steps + 1, none, t =>
      go steps (some (bitsOfUsers (t.takeWhile isUser))) (t.dropWhile isUser)
    | _, some _, [] => none
    | steps + 1, some affected, operator :: rest =>
      if !isOperator operator then none
      else do
        let (change, rest) ← takeValue affected rest
        let change := { change with operator }
        match rest with
        | [] => pure [change]
        | ',' :: rest => pure (change :: (← go steps none rest))
        | rest => pure (change :: (← go steps (some affected) rest))

/-- Bits that some users have, for all users. -/
def forAll (bits : Nat) : Nat :=
  [0o444, 0o222, 0o111].foldl (fun n right => if bits &&& right != 0 then n ||| right else n) 0

/-- The bits after a change. Where no users are named, the mask of the process tells which bits are
not changed. -/
def Change.apply (c : Change) (isFolder : Bool) (mask bits : Nat) : Nat :=
  let kept := if isFolder then without 0o6000 c.mentioned else 0
  let value := match c.value with
    | .bits n => n
    | .copied places => forAll (places &&& bits)
    | .runnable n => if isFolder || bits &&& 0o111 != 0 then n ||| 0o111 else n
  let changeable := if c.affected = 0 then without allBits mask else c.affected
  let value := without (value &&& changeable) kept
  if c.operator == '+' then bits ||| value
  else if c.operator == '-' then without bits value
  else
    let others := (if c.affected = 0 then 0 else without allBits c.affected) ||| kept
    bits &&& others ||| value

/-- The bits after all changes. -/
def changedBits (changes : List Change) (isFolder : Bool) (mask bits : Nat) : Nat :=
  changes.foldl (fun bits c => c.apply isFolder mask bits) bits

end JarLens.Shell.Rights
