import JarLens.Entry.ClassFilter

/-!
# What a class filter matches

A pattern is read from left to right: a backslash and an operator character stand for that
character, an operator character by itself for an operator, and any other for itself
(`patternTokens`). The escapes of a name combine with nothing around them
(`patternTokens_patternLiteral_append`), so that its filter reads as the name between two anchors
and matches the name alone (`classFilter_denotes`).
-/

namespace JarLens.Entry

/-! ## Reading patterns -/

/-- What a part of a pattern stands for. -/
inductive PatternToken where
  | literal (c : Char)
  | operator (c : Char)
  deriving DecidableEq

/-- What a character that is not escaped stands for. -/
def PatternToken.ofChar (c : Char) : PatternToken :=
  if c ∈ patternOperators then .operator c else .literal c

/-- What a pattern says. A backslash that no operator character follows is an operator itself. -/
def patternTokens : Text → List PatternToken
  | [] => []
  | [c] => [.ofChar c]
  | c :: d :: rest =>
    if c = '\\' ∧ d ∈ patternOperators then .literal d :: patternTokens rest
    else .ofChar c :: patternTokens (d :: rest)

section Reading

variable {c : Char} {name rest : Text}

/-- A character that is no backslash is a token by itself. -/
theorem patternTokens_cons (hc : c ≠ '\\') (rest : Text) :
    patternTokens (c :: rest) = .ofChar c :: patternTokens rest := by
  cases rest with
  | nil => rfl
  | cons d rest => rw [patternTokens, if_neg fun h => hc h.1]

/-- A literal is read as its character, whatever follows. -/
theorem patternTokens_patternLiteral_append (c : Char) (rest : Text) :
    patternTokens (patternLiteral c ++ rest) = .literal c :: patternTokens rest := by
  unfold patternLiteral
  split
  · next hc => exact if_pos ⟨rfl, hc⟩
  · next hc =>
    have hne : c ≠ '\\' := by
      rintro rfl
      exact hc (by decide)
    rw [List.singleton_append, patternTokens_cons hne, PatternToken.ofChar, if_neg hc]

/-- By induction over the name, it is read as its own characters. -/
theorem patternTokens_flatMap_append (name rest : Text) :
    patternTokens (name.flatMap patternLiteral ++ rest) =
      name.map .literal ++ patternTokens rest := by
  induction name with
  | nil => rfl
  | cons c name ih =>
    rw [List.flatMap_cons, List.append_assoc, patternTokens_patternLiteral_append, ih]
    rfl

/-- The filter is read as the two anchors around the name's characters. -/
theorem patternTokens_classFilter (name : Text) :
    patternTokens (classFilter name) =
      .operator '^' :: (name.map .literal ++ [.operator '$']) := by
  rw [classFilter, List.cons_append, patternTokens_cons (by decide), patternTokens_flatMap_append]
  rfl

end Reading

/-! ## Matching -/

/-- A pattern matches from position `i` of a text on. The anchors take no character and stand at the
ends of the text only. Other operators are given no meaning: a filter holds none. -/
inductive MatchesFrom (t : Text) : Nat → List PatternToken → Prop
  | done {i} : MatchesFrom t i []
  | literal {i c ts} (hc : t[i]? = some c) (h : MatchesFrom t (i + 1) ts) :
      MatchesFrom t i (.literal c :: ts)
  | start {ts} (h : MatchesFrom t 0 ts) : MatchesFrom t 0 (.operator '^' :: ts)
  | final {ts} (h : MatchesFrom t t.length ts) : MatchesFrom t t.length (.operator '$' :: ts)

/-- A pattern matches somewhere in a text. -/
def Matches (ts : List PatternToken) (t : Text) : Prop :=
  ∃ i, MatchesFrom t i ts

section Matching

variable {t name : Text} {i : Nat} {ts : List PatternToken}

theorem matchesFrom_start : MatchesFrom t i (.operator '^' :: ts) ↔ i = 0 ∧ MatchesFrom t 0 ts := by
  constructor
  · rintro ⟨⟩
    next h => exact ⟨rfl, h⟩
  · rintro ⟨rfl, h⟩
    exact .start h

theorem matchesFrom_final :
    MatchesFrom t i (.operator '$' :: ts) ↔ i = t.length ∧ MatchesFrom t t.length ts := by
  constructor
  · rintro ⟨⟩
    next h => exact ⟨rfl, h⟩
  · rintro ⟨rfl, h⟩
    exact .final h

/-- A literal character takes itself and goes on behind it. -/
theorem matchesFrom_literal {c : Char} :
    MatchesFrom t i (.literal c :: ts) ↔ t[i]? = some c ∧ MatchesFrom t (i + 1) ts := by
  constructor
  · rintro ⟨⟩
    next hc h => exact ⟨hc, h⟩
  · rintro ⟨hc, h⟩
    exact .literal hc h

theorem cons_isPrefix_drop {c : Char} :
    c :: name <+: t.drop i ↔ t[i]? = some c ∧ name <+: t.drop (i + 1) := by
  by_cases hi : i < t.length
  · rw [List.drop_eq_getElem_cons hi, List.cons_prefix_cons, List.getElem?_eq_getElem hi,
      Option.some.injEq, eq_comm]
  · rw [List.drop_eq_nil_of_le (Nat.le_of_not_lt hi), List.getElem?_eq_none (Nat.le_of_not_lt hi)]
    simp

/-- Literals match where the text goes on with their characters. -/
theorem matchesFrom_literals :
    MatchesFrom t i (name.map .literal ++ ts) ↔
      name <+: t.drop i ∧ MatchesFrom t (i + name.length) ts := by
  induction name generalizing i with
  | nil => simp
  | cons c name ih =>
    rw [List.map_cons, List.cons_append, matchesFrom_literal, ih, cons_isPrefix_drop,
      List.length_cons, Nat.add_right_comm, ← Nat.add_assoc, and_assoc]

theorem matches_classFilter : Matches (patternTokens (classFilter name)) t ↔ t = name := by
  rw [patternTokens_classFilter, Matches]
  simp only [matchesFrom_start, matchesFrom_literals, matchesFrom_final, Nat.zero_add,
    List.drop_zero]
  constructor
  · rintro ⟨-, -, hname, hlength, -⟩
    exact (hname.eq_of_length hlength).symm
  · rintro rfl
    exact ⟨0, rfl, List.prefix_rfl, rfl, .done⟩

end Matching

theorem classFilter_injective : Function.Injective classFilter := by
  intro name name' heq
  exact matches_classFilter.1 (heq ▸ matches_classFilter.2 rfl)

/-- The filter of a name reads as the characters of the name between the anchors, with no other
operator. It matches the name alone, and no two names have one filter. -/
theorem classFilter_denotes (name : Text) :
    patternTokens (classFilter name) =
        .operator '^' :: (name.map .literal ++ [.operator '$']) ∧
      (∀ t, Matches (patternTokens (classFilter name)) t ↔ t = name) ∧
      ∀ name', classFilter name' = classFilter name → name' = name :=
  ⟨patternTokens_classFilter name, fun _ => matches_classFilter,
    fun _ heq => classFilter_injective heq⟩

example : classFilter "x.A$B".toList = "^x\\.A\\$B$".toList := by decide

end JarLens.Entry
