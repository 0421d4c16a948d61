import JarLens.Text.Basic

/-!
# Similar names

A mistyped option or command is answered with those that resemble it. Two names resemble each other
as much as the characters of their matching blocks amount to: the longest block they share, and then
the blocks that the parts before it and after it share.
-/

namespace JarLens.CommandLine

/-- The length of the beginning that two texts share. -/
def sharedStart : Text → Text → Nat
  | a :: s, b :: t => if a = b then sharedStart s t + 1 else 0
  | _, _ => 0

/-- A block that two texts share: where it starts in each, and its length. -/
structure Block where
  left : Nat
  right : Nat
  length : Nat

/-- The longest block that two texts share, the first one in the left text and then in the right. -/
def longestBlock (s t : Text) : Block :=
  (List.range s.length).foldl (fun best i =>
    (List.range t.length).foldl (fun best j =>
      let n := sharedStart (s.drop i) (t.drop j)
      if best.length < n then ⟨i, j, n⟩ else best) best) ⟨0, 0, 0⟩

/-- The number of characters in the matching blocks of two texts. Each block shortens both, so that
as many `steps` as the left text has characters suffice. -/
def matchingCount : (steps : Nat) → (s t : Text) → Nat
  | 0, _, _ => 0
  | steps + 1, s, t =>
    let b := longestBlock s t
    if b.length = 0 then 0
    else
      b.length + matchingCount steps (s.take b.left) (t.take b.right) +
        matchingCount steps (s.drop (b.left + b.length)) (t.drop (b.right + b.length))

/-- The matching characters of a name with a word. -/
def matchesWith (word name : Text) : Nat :=
  matchingCount name.length name word

/-- Whether a name resembles a word by at least three fifths. -/
def resembles (word name : Text) : Bool :=
  6 * (word.length + name.length) ≤ 20 * matchesWith word name

/-- The order by resemblance to a word, the more similar name first and of equal ones the later. -/
def moreSimilar (word a b : Text) : Bool :=
  let left := matchesWith word a * (word.length + b.length)
  let right := matchesWith word b * (word.length + a.length)
  right < left || (left == right && Text.le b a)

/-- The greatest number of names that are offered. -/
def offered : Nat := 3

/-- The names that resemble a word most. -/
def similarNames (word : Text) (names : List Text) : List Text :=
  ((names.filter (resembles word)).mergeSort (moreSimilar word)).take offered

end JarLens.CommandLine
