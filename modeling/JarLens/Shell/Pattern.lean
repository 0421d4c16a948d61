import JarLens.Shell.Bytes

/-!
# Patterns

A star matches any text, a question mark any byte, brackets one of several; a backslash takes away
the meaning of what follows it. An expanded word is a list of glyphs, which know what quotes have
taken the meaning of; `patternOf` writes them with backslashes.
-/

namespace JarLens.Shell

/-- A character of an expanded word. -/
inductive Glyph where
  | bare (c : Char)
  /-- A character that stands for itself. -/
  | guarded (c : Char)
  /-- The place of a quote. It is nothing, but a word that has it is not empty. -/
  | mark
  deriving DecidableEq

/-- The text of glyphs. -/
def textOf (glyphs : List Glyph) : Text :=
  glyphs.filterMap fun
    | .bare c => some c
    | .guarded c => some c
    | .mark => none

/-- The pattern of glyphs. After a bare backslash a character needs no other. -/
def patternOf : (isEscaped : Bool) → List Glyph → Text
  | _, [] => []
  | _, .mark :: glyphs => patternOf false glyphs
  | _, .bare c :: glyphs => c :: patternOf (c == '\\') glyphs
  | isEscaped, .guarded c :: glyphs =>
    (if isEscaped then [c] else ['\\', c]) ++ patternOf false glyphs

/-- The classes of characters by name. -/
def characterClasses : List (Text × (Char → Bool)) :=
  let isGraph := fun (c : Char) => 33 ≤ c.toNat && c.toNat < 127
  let isSpace := fun (c : Char) => c == ' ' || (9 ≤ c.toNat && c.toNat ≤ 13)
  let isHex := fun (c : Char) => c.isDigit || ('a' ≤ c && c ≤ 'f') || ('A' ≤ c && c ≤ 'F')
  [("alnum", Char.isAlphanum), ("alpha", Char.isAlpha), ("blank", isBlank),
    ("cntrl", fun c => c.toNat < 32 || c.toNat == 127), ("digit", Char.isDigit),
    ("graph", isGraph), ("lower", Char.isLower), ("print", fun c => c == ' ' || isGraph c),
    ("punct", fun c => isGraph c && !c.isAlphanum), ("space", isSpace), ("upper", Char.isUpper),
    ("xdigit", isHex)].map fun (name, p) => (String.toList name, p)

/-- The class that a text names after its opening bracket, and the text after it. -/
def takeClass? : Text → Option ((Char → Bool) × Text)
  | ':' :: t =>
    (Text.cut? [':', ']'] t).bind fun (name, rest) =>
      (characterClasses.lookup name).map fun p => (p, rest)
  | _ => none

/-- The order of bytes in a range, in which those from 128 on come first. -/
def rangeKey (c : Char) : Int :=
  if c.toNat < 128 then c.toNat else (c.toNat : Int) - 256

/-- Whether brackets hold a character, and the pattern after them. The first character of what they
hold does not close them. None when nothing does. -/
def takeBracket? (c : Char) : (steps : Nat) → (isFirst found : Bool) → Text → Option (Bool × Text)
  | 0, _, _, _ => none
  | _, _, _, [] => none
  | steps + 1, isFirst, found, d :: p =>
    if d == ']' && !isFirst then some (found, p)
    else
      match if d == '[' then takeClass? p else none with
      | some (isIn, rest) => takeBracket? c steps false (found || isIn c) rest
      | none =>
        let (d, p) := match d, p with
          | '\\', e :: p => (e, p)
          | _, _ => (d, p)
        match p with
        | '-' :: e :: rest =>
          if e == ']' then takeBracket? c steps false (found || c == d) p
          else
            let (high, rest) := match e, rest with
              | '\\', high :: rest => (high, rest)
              | _, _ => (e, rest)
            let isIn := rangeKey d ≤ rangeKey c && rangeKey c ≤ rangeKey high
            takeBracket? c steps false (found || isIn) rest
        | _ => takeBracket? c steps false (found || c == d) p

/-- Whether a pattern matches a text. Every step makes one of the two shorter. -/
def matchesPattern : (steps : Nat) → (pattern t : Text) → Bool
  | 0, _, _ => false
  | _, [], t => t.isEmpty
  | steps + 1, '*' :: p, t =>
    matchesPattern steps p t ||
      match t with
      | _ :: t => matchesPattern steps ('*' :: p) t
      | [] => false
  | _, _ :: _, [] => false
  | steps + 1, '?' :: p, _ :: t => matchesPattern steps p t
  | steps + 1, '\\' :: d :: p, c :: t => c == d && matchesPattern steps p t
  | steps + 1, '[' :: p, c :: t =>
    let isNegated := p.head? == some '!'
    let inside := if isNegated then p.drop 1 else p
    match takeBracket? c (p.length + 1) true false inside with
    | some (found, rest) => found != isNegated && matchesPattern steps rest t
    | none => c == '[' && matchesPattern steps p t
  | steps + 1, d :: p, c :: t => c == d && matchesPattern steps p t

/-- Whether a pattern matches the whole of a text. -/
def isMatch (pattern t : Text) : Bool :=
  matchesPattern (pattern.length + t.length + 1) pattern t

/-- The text up to the first character U+0000, by which parameters are kept apart. Patterns see no
further. -/
def seen (t : Text) : Text :=
  t.takeWhile (· != '\x00')

/-- The text without a part at its start that a pattern matches, the shortest one, or the longest if
`greedy` is set. -/
def dropMatchingStart (greedy : Bool) (pattern t : Text) : Text :=
  let lengths := if greedy then (List.range (t.length + 1)).reverse
    else List.range ((seen t).length + 1)
  match lengths.find? fun n => isMatch pattern (seen (t.take n)) with
  | some n => t.drop n
  | none => t

/-- The text without a part at its end that a pattern matches, the shortest one, or the longest if
`greedy` is set. -/
def dropMatchingEnd (greedy : Bool) (pattern t : Text) : Text :=
  let lengths := if greedy then List.range ((seen t).length + 1)
    else (List.range (t.length + 1)).reverse
  match lengths.find? fun n => isMatch pattern (seen (t.drop n)) with
  | some n => t.take n
  | none => t

end JarLens.Shell
