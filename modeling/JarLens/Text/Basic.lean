/-!
# Text

Text is its list of characters (code points): every length, limit and order of this library counts
them. This module holds the cuts and joins that the rest of the library is written with:

- `splitBy` cuts at every character of a class, and keeps empty pieces;
- `join` puts a separator between pieces;
- `cut?` and `cutLast?` cut at the first or last occurrence of a text or character;
- `dropPrefix?` removes a known beginning.
-/

namespace JarLens

/-- A text, as the list of its characters. -/
abbrev Text := List Char

namespace Text

/-- The pieces between the characters of class `p`, empty ones included. -/
def splitBy (p : Char → Bool) (t : Text) : List Text :=
  t.foldr (fun c pieces =>
    if p c then [] :: pieces
    else match pieces with
      | [] => [[c]]
      | piece :: rest => (c :: piece) :: rest) [[]]

/-- The pieces between occurrences of one character. -/
def splitOn (sep : Char) (t : Text) : List Text :=
  splitBy (· == sep) t

/-- The pieces in order, with `sep` between neighbours. -/
def join (sep : Text) : List Text → Text
  | [] => []
  | [piece] => piece
  | piece :: rest => piece ++ sep ++ join sep rest

/-- What follows `start` in a text that begins with it. -/
def dropPrefix? : (start t : Text) → Option Text
  | [], t => some t
  | _ :: _, [] => none
  | a :: start, b :: t => if a = b then dropPrefix? start t else none

/-- Whether the text begins with `start`. -/
def startsWith (t start : Text) : Bool :=
  (dropPrefix? start t).isSome

/-- Whether the text ends with `final`. -/
def endsWith (t final : Text) : Bool :=
  startsWith t.reverse final.reverse

/-- The parts before and after the first occurrence of `needle`. -/
def cut? (needle : Text) : Text → Option (Text × Text)
  | [] => if needle.isEmpty then some ([], []) else none
  | c :: t =>
    match dropPrefix? needle (c :: t) with
    | some rest => some ([], rest)
    | none => (cut? needle t).map fun (before, after) => (c :: before, after)

/-- The parts before and after the last occurrence of a character. -/
def cutLast? (sep : Char) (t : Text) : Option (Text × Text) :=
  match (splitOn sep t).reverse with
  | [] => none
  | [_] => none
  | last :: front => some (join [sep] front.reverse, last)

/-- Whether `needle` occurs in the text, the empty one everywhere. -/
def occursIn (needle : Text) : Text → Bool
  | [] => needle.isEmpty
  | c :: t => startsWith (c :: t) needle || occursIn needle t

/-- One character in place of another. -/
def replaceChar (old new : Char) (t : Text) : Text :=
  t.map fun c => if c = old then new else c

/-- The text without leading characters of class `p`. -/
def trimStart (p : Char → Bool) (t : Text) : Text :=
  t.dropWhile p

/-- The text without trailing characters of class `p`. -/
def trimEnd (p : Char → Bool) (t : Text) : Text :=
  (t.reverse.dropWhile p).reverse

/-- The text filled up on the right with blanks to `width` characters. -/
def padEnd (width : Nat) (t : Text) : Text :=
  t ++ List.replicate (width - t.length) ' '

/-- The first `limit` characters; a negative limit leaves out that many at the end. -/
def takeSigned (limit : Int) (t : Text) : Text :=
  match limit with
  | .ofNat n => t.take n
  | .negSucc n => t.take (t.length - (n + 1))

end Text

/-- The order of texts by code point, a beginning coming before the whole. -/
def Text.le : Text → Text → Bool
  | [], _ => true
  | _ :: _, [] => false
  | a :: s, b :: t => a.toNat < b.toNat || (a == b && Text.le s t)

/-- The texts in code point order, equal ones side by side. -/
def sortTexts (ts : List Text) : List Text :=
  ts.mergeSort Text.le

/-- The values without repetition, each where it first occurs. -/
def distinct {α : Type} [BEq α] (xs : List α) : List α :=
  xs.foldl (fun seen x => if seen.contains x then seen else seen ++ [x]) []

end JarLens
