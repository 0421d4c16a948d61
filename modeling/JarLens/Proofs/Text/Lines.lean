import JarLens.Text.Lines
import JarLens.Proofs.Text.Pieces

/-!
# Lines that were written one after the other

What is printed with a line end is the first line of the text (`lines_append`), whatever follows.
Texts of any kind that are put together around a line feed keep their lines, but for empty ones
between them (`lines_append_lineFeed`). Lines that are joined by line feeds are read back, if the
last one is not empty (`lines_join`).
-/

namespace JarLens.Text

/-- Lines are ended by a line feed, with or without a carriage return before it. -/
inductive IsLineEnd : Text → Prop
  | lineFeed : IsLineEnd ['\n']
  | both : IsLineEnd ['\r', '\n']

/-- The text holds no line break of any kind. -/
def IsUnbroken (t : Text) : Prop :=
  ∀ c ∈ t, isLineBreak c = false

instance (t : Text) : Decidable (IsUnbroken t) :=
  List.decidableBAll _ t

theorem IsUnbroken.append {a b : Text} (ha : IsUnbroken a) (hb : IsUnbroken b) :
    IsUnbroken (a ++ b) :=
  fun c hc => (List.mem_append.1 hc).elim (ha c) (hb c)

theorem IsUnbroken.mono {t t' : Text} (h : IsUnbroken t) (hsubset : t' ⊆ t) : IsUnbroken t' :=
  fun c hc => h c (hsubset hc)

theorem unifyBreaks_cons (c : Char) (t : Text) :
    unifyBreaks (c :: t) =
      if c = '\r' ∧ t.head? = some '\n' then unifyBreaks t else c :: unifyBreaks t := by
  cases t <;> rfl

theorem unifyBreaks_singleton (c : Char) : unifyBreaks [c] = [c] := by
  simp [unifyBreaks]

/-- What stands in front without line breaks is left alone. -/
theorem unifyBreaks_append {l : Text} (hl : IsUnbroken l) (t : Text) :
    unifyBreaks (l ++ t) = l ++ unifyBreaks t := by
  induction l with
  | nil => rfl
  | cons c l ih =>
    have hc : c ≠ '\r' := by
      rintro rfl
      have hbreak := hl '\r' List.mem_cons_self
      cases hbreak
    rw [List.cons_append, unifyBreaks_cons, if_neg fun h => hc h.1,
      ih fun d hd => hl d (List.mem_cons_of_mem c hd), List.cons_append]

/-- Every line end counts as one line feed. -/
theorem unifyBreaks_lineEnd {ending : Text} (h : IsLineEnd ending) (t : Text) :
    unifyBreaks (ending ++ t) = '\n' :: unifyBreaks t := by
  cases h <;> simp [unifyBreaks_cons]

theorem dropFinalEmpty_cons {l : Text} {pieces : List Text} (h : pieces ≠ []) :
    dropFinalEmpty (l :: pieces) = l :: dropFinalEmpty pieces := by
  unfold dropFinalEmpty
  rw [List.getLast?_cons_of_ne_nil h, List.dropLast_cons_of_ne_nil h]
  split <;> rfl

/-- A text without line breaks is one line, or none if it is empty. -/
theorem lines_of_isUnbroken {l : Text} (hl : IsUnbroken l) : lines l = dropFinalEmpty [l] := by
  have hunify := unifyBreaks_append hl []
  rw [List.append_nil] at hunify
  rw [lines, hunify, show unifyBreaks [] = [] from rfl, List.append_nil, splitBy_of_forall hl]

/-- A line that ends is the first of the lines. -/
theorem lines_append {l ending : Text} (hl : IsUnbroken l) (hending : IsLineEnd ending)
    (t : Text) : lines (l ++ ending ++ t) = l :: lines t := by
  unfold lines
  rw [List.append_assoc, unifyBreaks_append hl, unifyBreaks_lineEnd hending,
    splitBy_append_sep (by decide), splitBy_of_forall hl, List.singleton_append,
    dropFinalEmpty_cons (splitBy_ne_nil _)]

theorem dropFinalEmpty_append {pieces more : List Text} (h : more ≠ []) :
    dropFinalEmpty (pieces ++ more) = pieces ++ dropFinalEmpty more := by
  induction pieces with
  | nil => rfl
  | cons l pieces ih =>
    rw [List.cons_append, dropFinalEmpty_cons (by simp [h]), ih, List.cons_append]

/-- Nothing but an empty piece is dropped. -/
theorem exists_dropFinalEmpty (pieces : List Text) :
    ∃ gap, (∀ l ∈ gap, l = []) ∧ pieces = dropFinalEmpty pieces ++ gap := by
  unfold dropFinalEmpty
  split
  · next hlast =>
    obtain ⟨front, rfl⟩ := List.getLast?_eq_some_iff.1 hlast
    exact ⟨[[]], by simp, by rw [List.dropLast_concat]⟩
  · exact ⟨[], by simp, (List.append_nil pieces).symm⟩

/-- Breaks are unified on either side of a place that no carriage return and line feed meet at. -/
theorem unifyBreaks_append_of_ne {a b : Text}
    (h : a.getLast? = some '\r' → b.head? ≠ some '\n') :
    unifyBreaks (a ++ b) = unifyBreaks a ++ unifyBreaks b := by
  induction a with
  | nil => rfl
  | cons c a ih =>
    cases a with
    | nil =>
      have hnot : ¬(c = '\r' ∧ b.head? = some '\n') := by
        rintro ⟨rfl, hb⟩
        exact h rfl hb
      rw [List.singleton_append, unifyBreaks_cons, if_neg hnot, unifyBreaks_singleton,
        List.singleton_append]
    | cons d a =>
      have hhead : (d :: a ++ b).head? = (d :: a).head? := rfl
      rw [List.getLast?_cons_cons] at h
      rw [List.cons_append, unifyBreaks_cons, unifyBreaks_cons, hhead, ih h]
      split <;> rfl

/-- Texts that are put together around a line feed keep their lines, with nothing but an empty line
between them. A carriage return before the line feed ends the last line of the first text with it.
-/
theorem lines_append_lineFeed (a b : Text) :
    ∃ gap, (∀ l ∈ gap, l = []) ∧ lines (a ++ '\n' :: b) = lines a ++ gap ++ lines b := by
  by_cases hlast : a.getLast? = some '\r'
  · obtain ⟨front, rfl⟩ := List.getLast?_eq_some_iff.1 hlast
    have hjoined : unifyBreaks (front ++ ['\r'] ++ '\n' :: b) =
        unifyBreaks front ++ '\n' :: unifyBreaks b := by
      rw [List.append_assoc, unifyBreaks_append_of_ne (by simp)]
      exact congrArg _ (unifyBreaks_lineEnd .both b)
    have hfirst : unifyBreaks (front ++ ['\r']) = unifyBreaks front ++ ['\r'] :=
      unifyBreaks_append_of_ne (by simp)
    refine ⟨[], by simp, ?_⟩
    unfold lines
    rw [hjoined, hfirst, splitBy_append_sep (by decide), splitBy_append_sep (by decide),
      splitBy_nil, dropFinalEmpty_append (splitBy_ne_nil _), dropFinalEmpty_append (by simp),
      List.append_nil, show dropFinalEmpty [[]] = [] from rfl, List.append_nil]
  · have hjoined : unifyBreaks (a ++ '\n' :: b) = unifyBreaks a ++ '\n' :: unifyBreaks b := by
      rw [unifyBreaks_append_of_ne fun h => absurd h hlast]
      exact congrArg _ (unifyBreaks_lineEnd .lineFeed b)
    obtain ⟨gap, hgap, hpieces⟩ := exists_dropFinalEmpty (splitBy isLineBreak (unifyBreaks a))
    refine ⟨gap, hgap, ?_⟩
    unfold lines
    rw [hjoined, splitBy_append_sep (by decide), dropFinalEmpty_append (splitBy_ne_nil _),
      ← hpieces]

/-- No line holds a line break. -/
theorem isUnbroken_of_mem_lines {t l : Text} (h : l ∈ lines t) : IsUnbroken l := by
  unfold lines dropFinalEmpty at h
  split at h
  · exact not_sep_of_mem_splitBy (List.dropLast_subset _ h)
  · exact not_sep_of_mem_splitBy h

/-- Lines that are joined are found again, unless the last one is empty. -/
theorem lines_join {ls : List Text} (hls : ∀ l ∈ ls, IsUnbroken l) (hlast : ls.getLast? ≠ some []) :
    lines (join ['\n'] ls) = ls := by
  induction ls with
  | nil => rfl
  | cons l ls ih =>
    have hl := hls l List.mem_cons_self
    by_cases hne : ls = []
    · subst hne
      rw [join, lines_of_isUnbroken hl]
      exact if_neg hlast
    · rw [List.getLast?_cons_of_ne_nil hne] at hlast
      rw [join_cons hne, lines_append hl .lineFeed,
        ih (fun l' hl' => hls l' (List.mem_cons_of_mem l hl')) hlast]

/-- A text that ends with no line break ends with its last line. -/
theorem exists_lines_concat {c : Char} (hc : isLineBreak c = false) (t : Text) :
    ∃ front last, lines (t ++ [c]) = front ++ [last ++ [c]] := by
  have hunify : unifyBreaks (t ++ [c]) = unifyBreaks t ++ [c] := by
    rw [unifyBreaks_append_of_ne, unifyBreaks_singleton]
    intro _ hhead
    obtain rfl : c = '\n' := Option.some.inj hhead
    cases hc
  obtain ⟨front, last, hsplit⟩ := exists_splitBy_append (p := isLineBreak) (unifyBreaks t)
  refine ⟨front, last, ?_⟩
  rw [lines, hunify, hsplit [c] (by simpa using hc), dropFinalEmpty_append (List.cons_ne_nil _ _)]
  exact congrArg (front ++ ·) (if_neg (by simp))

theorem lines_single {l : Text} (h : IsUnbroken l) : lines (l ++ ['\n']) = [l] := by
  have hlines := lines_append h .lineFeed []
  rwa [List.append_nil] at hlines

end JarLens.Text
