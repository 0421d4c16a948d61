import JarLens.Shell.Pattern

/-!
# Fields

How an expanded word is split. Only what came from values is split, at separators that a variable
tells: blanks among them count as one wherever they stand together, and vanish at the ends; every
other one ends a field. The parameters of a script, each for itself, are kept apart by the character
U+0000, which no value holds.
-/

namespace JarLens.Shell

/-- How a part of an expanded word is split. -/
inductive Splitting where
  | never
  | atSeparators
  /-- Only between parameters. -/
  | betweenParameters
  deriving DecidableEq

/-- A part of an expanded word. -/
structure Region where
  splitting : Splitting
  glyphs : List Glyph

/-- What keeps parameters apart. -/
def parameterEnd : Char := '\x00'

/-- The separators where none are told. -/
def defaultSeparators : Text :=
  [' ', '\t', '\n']

/-- The state between two glyphs. -/
structure Splitter where
  /-- The fields so far, the last one first. -/
  fields : List (List Glyph) := []
  /-- The field begun, in reverse. -/
  current : List Glyph := []
  /-- Whether a blank came last, and more of them are left out. -/
  afterBlank : Bool := false
  /-- Whether the part is split between parameters, and whether the one before was. -/
  inParameters : Bool := false
  afterParameters : Bool := false
  /-- How many fields may still begin, where there is a limit. -/
  limit : Option Nat := none
  /-- How much of the last field is kept if no more of it follows than separators. -/
  kept : Option Nat := none
  /-- Whether any part can be split. -/
  hasParts : Bool := false

namespace Splitter

/-- A glyph in the last field that may begin. -/
def keep (s : Splitter) (g : Glyph) (isSeparator isBlank : Bool) : Splitter :=
  let current := g :: s.current
  if isBlank then { s with current, kept := s.kept <|> some s.current.length }
  else { s with current, afterBlank := false,
                kept := if isSeparator && s.afterBlank then s.kept else none }

/-- The end of a field at a separator. -/
def endField (s : Splitter) (g : Glyph) (isBlank : Bool) : Splitter :=
  let afterBlank := if s.inParameters || s.afterParameters then s.afterBlank else isBlank
  if s.current.isEmpty && afterBlank then { s with afterBlank := false }
  else if s.limit == some 1 then
    { s with limit := some 0, kept := some s.current.length, current := g :: s.current, afterBlank }
  else
    { s with fields := s.current.reverse :: s.fields, current := []
             limit := s.limit.map (· - 1), afterBlank }

/-- One glyph of a part that is split, by what it is. -/
def place (s : Splitter) (g : Glyph) (isSeparator isBlank : Bool) : Splitter :=
  if s.limit == some 0 then s.keep g isSeparator isBlank
  else if s.afterBlank then
    if isBlank then { s with current := [] }
    else { s with current := if isSeparator then [] else [g], afterBlank := false }
  else if isSeparator then s.endField g isBlank
  else { s with current := g :: s.current }

/-- Whether a character ends a field of the part that is split. -/
def separates (s : Splitter) (separators : Text) (c : Char) : Bool :=
  c == parameterEnd || (!s.inParameters && separators.any (· == c))

/-- One glyph of a part that is split. -/
def step (separators : Text) (s : Splitter) : Glyph → Splitter
  | .mark => s.place .mark false false
  | .bare c => placeChar (.bare c) c
  | .guarded c => placeChar (.guarded c) c
where
  /-- One glyph with its character. -/
  placeChar (g : Glyph) (c : Char) : Splitter :=
    let isSeparator := s.separates separators c
    s.place g isSeparator
      (isSeparator && (c == parameterEnd || defaultSeparators.any (· == c)))

/-- One part. -/
def part (separators : Text) (s : Splitter) (r : Region) : Splitter :=
  match r.splitting with
  | .never => { s with current := r.glyphs.reverse ++ s.current }
  | splitting =>
    r.glyphs.foldl (step separators)
      { s with
        inParameters := splitting == .betweenParameters, afterParameters := s.inParameters
        afterBlank := false, hasParts := true }

/-- All fields in the end. What is left counts if it is not empty, or follows a parameter. -/
def finish (s : Splitter) : List (List Glyph) :=
  let last := s.current.reverse
  if s.hasParts && s.inParameters then (last :: s.fields).reverse
  else
    let last := match s.kept with
      | some n => last.take n
      | none => last
    (if last.isEmpty then s.fields else last :: s.fields).reverse

end Splitter

/-- The fields of an expanded word, at most as many as the limit says if there is one. -/
def splitFields (separators : Text) (limit : Option Nat) (regions : List Region) :
    List (List Glyph) :=
  (regions.foldl (Splitter.part separators) { limit }).finish

end JarLens.Shell
