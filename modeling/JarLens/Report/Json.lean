import JarLens.Number.Fraction

/-!
# JSON

Values with their fields in order, and their two written forms: on one line, and spread over lines
with two blanks more for each level. Strings are written in ASCII.
-/

namespace JarLens

/-- A JSON value. -/
inductive Json where
  | null
  | bool (b : Bool)
  | number (n : Int)
  | fraction (x : Fraction)
  | text (t : Text)
  | array (items : List Json)
  | object (fields : List (Text × Json))
  deriving Inhabited

namespace Json

/-- The escape of a code unit of sixteen bits. -/
def unitEscape (n : Nat) : Text :=
  '\\' :: 'u' :: Text.ofHex 4 n

/-- One character of a string. Characters beyond U+FFFF are written as two surrogates. -/
def escapeChar (c : Char) : Text :=
  if c = '"' then ['\\', '"']
  else if c = '\\' then ['\\', '\\']
  else if c = '\n' then ['\\', 'n']
  else if c = '\r' then ['\\', 'r']
  else if c = '\t' then ['\\', 't']
  else if c = '\x08' then ['\\', 'b']
  else if c = '\x0c' then ['\\', 'f']
  else if ' ' ≤ c ∧ c ≤ '~' then [c]
  else if c.toNat < 0x10000 then unitEscape c.toNat
  else
    let n := c.toNat - 0x10000
    unitEscape (0xd800 + n / 0x400) ++ unitEscape (0xdc00 + n % 0x400)

/-- A string between quotes. -/
def string (t : Text) : Text :=
  '"' :: t.flatMap escapeChar ++ ['"']

/-- A value that has no parts. -/
def scalar : Json → Text
  | null => "null".toList
  | bool true => "true".toList
  | bool false => "false".toList
  | number n => Text.ofInt n
  | fraction x => x.written "Infinity" "NaN"
  | text t => string t
  | _ => []

mutual

/-- A value on one line, with a blank after each comma and colon. -/
def compact : Json → Text
  | array items => '[' :: Text.join [',', ' '] (compactItems items) ++ [']']
  | object fields => '\x7b' :: Text.join [',', ' '] (compactFields fields) ++ ['\x7d']
  | value => scalar value

/-- The items of an array on one line. -/
def compactItems : List Json → List Text
  | [] => []
  | item :: items => compact item :: compactItems items

/-- The fields of an object on one line. -/
def compactFields : List (Text × Json) → List Text
  | [] => []
  | (name, value) :: fields =>
    (string name ++ ':' :: ' ' :: compact value) :: compactFields fields

end

/-- The parts of a value on lines of their own, `depth` levels deep, between brackets. -/
def block (opening closing : Char) (depth : Nat) (parts : List Text) : Text :=
  if parts.isEmpty then [opening, closing]
  else
    let lineStart := fun depth => '\n' :: List.replicate (2 * depth) ' '
    opening :: lineStart (depth + 1) ++ Text.join (',' :: lineStart (depth + 1)) parts ++
      lineStart depth ++ [closing]

mutual

/-- A value spread over lines, from `depth` levels deep on. -/
def spread (depth : Nat) : Json → Text
  | array items => block '[' ']' depth (spreadItems (depth + 1) items)
  | object fields => block '\x7b' '\x7d' depth (spreadFields (depth + 1) fields)
  | value => scalar value

/-- The items of an array, each spread over lines. -/
def spreadItems (depth : Nat) : List Json → List Text
  | [] => []
  | item :: items => spread depth item :: spreadItems depth items

/-- The fields of an object, each spread over lines. -/
def spreadFields (depth : Nat) : List (Text × Json) → List Text
  | [] => []
  | (name, value) :: fields =>
    (string name ++ ':' :: ' ' :: spread depth value) :: spreadFields depth fields

end

/-- An object from fields with plain names. -/
def ofFields (fields : List (String × Json)) : Json :=
  object (fields.map fun (name, value) => (name.toList, value))

/-- A text, or null. -/
def ofText? : Option Text → Json
  | some t => text t
  | none => null

end Json

end JarLens
