import JarLens.Text.Basic

/-!
# Pieces of texts

Cutting at a separator takes apart what is put together around one, and `join` puts pieces together
again. `dropPrefix?` is the way back from putting a beginning in front.
-/

namespace JarLens.Text

/-! ## Cutting -/

section Cutting

variable {p : Char → Bool}

theorem splitBy_nil : splitBy p [] = [[]] := rfl

theorem splitBy_ne_nil (t : Text) : splitBy p t ≠ [] := by
  cases t with
  | nil => simp [splitBy]
  | cons c t =>
    simp only [splitBy, List.foldr_cons]
    split
    · simp
    · split <;> simp

theorem splitBy_cons_sep {c : Char} (hc : p c = true) (t : Text) :
    splitBy p (c :: t) = [] :: splitBy p t := by
  simp [splitBy, hc]

theorem splitBy_cons_of_eq {c : Char} {t piece : Text} {pieces : List Text} (hc : p c = false)
    (ht : splitBy p t = piece :: pieces) : splitBy p (c :: t) = (c :: piece) :: pieces := by
  unfold splitBy at ht ⊢
  simp only [List.foldr_cons, hc, ht]
  rfl

/-- Cutting a text at a separator in it cuts both sides. -/
theorem splitBy_append_sep {c : Char} (hc : p c = true) (a b : Text) :
    splitBy p (a ++ c :: b) = splitBy p a ++ splitBy p b := by
  induction a with
  | nil => rw [List.nil_append, splitBy_cons_sep hc, splitBy_nil, List.singleton_append]
  | cons d a ih =>
    rw [List.cons_append]
    cases hd : p d with
    | true => rw [splitBy_cons_sep hd, splitBy_cons_sep hd, ih, List.cons_append]
    | false =>
      obtain ⟨piece, pieces, ha⟩ := List.exists_cons_of_ne_nil (splitBy_ne_nil (p := p) a)
      rw [ha, List.cons_append] at ih
      rw [splitBy_cons_of_eq hd ih, splitBy_cons_of_eq hd ha, List.cons_append]

/-- A text without separators is one piece. -/
theorem splitBy_of_forall {t : Text} (h : ∀ c ∈ t, p c = false) : splitBy p t = [t] := by
  induction t with
  | nil => rfl
  | cons c t ih =>
    exact splitBy_cons_of_eq (h c List.mem_cons_self)
      (ih fun d hd => h d (List.mem_cons_of_mem c hd))

/-- What stands last in a text without separators belongs to the last piece. -/
theorem exists_splitBy_append (stem : Text) :
    ∃ front last, ∀ t, (∀ c ∈ t, p c = false) → splitBy p (stem ++ t) = front ++ [last ++ t] := by
  induction stem with
  | nil => exact ⟨[], [], fun t ht => splitBy_of_forall ht⟩
  | cons c stem ih =>
    obtain ⟨front, last, hstem⟩ := ih
    cases hc : p c with
    | true =>
      refine ⟨[] :: front, last, fun t ht => ?_⟩
      rw [List.cons_append, splitBy_cons_sep hc, hstem t ht, List.cons_append]
    | false =>
      cases front with
      | nil => exact ⟨[], c :: last, fun t ht => splitBy_cons_of_eq hc (hstem t ht)⟩
      | cons piece front =>
        exact ⟨(c :: piece) :: front, last, fun t ht => splitBy_cons_of_eq hc (hstem t ht)⟩

/-- Where two classes have the same characters of a text, they cut it alike. -/
theorem splitBy_congr {q : Char → Bool} {t : Text} (h : ∀ c ∈ t, p c = q c) :
    splitBy p t = splitBy q t := by
  induction t with
  | nil => rfl
  | cons c t ih =>
    have ht := ih fun d hd => h d (List.mem_cons_of_mem c hd)
    unfold splitBy at ht ⊢
    rw [List.foldr_cons, List.foldr_cons, ht, h c List.mem_cons_self]

/-- No piece holds a separator. -/
theorem not_sep_of_mem_splitBy {t piece : Text} (h : piece ∈ splitBy p t) :
    ∀ c ∈ piece, p c = false := by
  induction t generalizing piece with
  | nil =>
    rw [splitBy_nil, List.mem_singleton] at h
    simp [h]
  | cons d t ih =>
    cases hd : p d with
    | true =>
      rw [splitBy_cons_sep hd, List.mem_cons] at h
      rcases h with rfl | h
      · simp
      · exact ih h
    | false =>
      obtain ⟨first, pieces, ht⟩ := List.exists_cons_of_ne_nil (splitBy_ne_nil (p := p) t)
      rw [splitBy_cons_of_eq hd ht, List.mem_cons] at h
      rw [ht] at ih
      rcases h with rfl | h
      · intro c hc
        rcases List.mem_cons.1 hc with rfl | hc
        · exact hd
        · exact ih List.mem_cons_self c hc
      · exact ih (List.mem_cons_of_mem first h)

end Cutting

/-! ## Joining -/

section Joining

variable {sep : Text}

theorem join_cons {piece : Text} {pieces : List Text} (h : pieces ≠ []) :
    join sep (piece :: pieces) = piece ++ sep ++ join sep pieces := by
  cases pieces with
  | nil => exact absurd rfl h
  | cons _ _ => rfl

theorem join_append {xs ys : List Text} (hx : xs ≠ []) (hy : ys ≠ []) :
    join sep (xs ++ ys) = join sep xs ++ sep ++ join sep ys := by
  induction xs with
  | nil => exact absurd rfl hx
  | cons x xs ih =>
    by_cases hxs : xs = []
    · subst hxs
      exact join_cons hy
    · rw [List.cons_append, join_cons (by simp [hxs]), ih hxs, join_cons hxs]
      simp only [List.append_assoc]

theorem join_concat_append (pieces : List Text) (last t : Text) :
    join sep (pieces ++ [last ++ t]) = join sep (pieces ++ [last]) ++ t := by
  by_cases hpieces : pieces = []
  · subst hpieces
    rfl
  · rw [join_append hpieces (List.cons_ne_nil _ _), join_append hpieces (List.cons_ne_nil _ _),
      List.append_assoc _ _ t]
    rfl

/-- The last of some pieces are joined as the end of all of them. -/
theorem join_suffix {xs ys : List Text} (h : xs <:+ ys) : join sep xs <:+ join sep ys := by
  obtain ⟨front, rfl⟩ := h
  by_cases hfront : front = []
  · subst hfront
    exact List.suffix_rfl
  · by_cases hxs : xs = []
    · rw [hxs]
      exact List.nil_suffix
    · rw [join_append hfront hxs]
      exact List.suffix_append _ _

/-- What is in the joined text comes from a piece or from the separator. -/
theorem mem_join {c : Char} {pieces : List Text} (h : c ∈ join sep pieces) :
    c ∈ sep ∨ ∃ piece ∈ pieces, c ∈ piece := by
  induction pieces with
  | nil => cases h
  | cons piece pieces ih =>
    by_cases hne : pieces = []
    · subst hne
      exact .inr ⟨piece, List.mem_cons_self, h⟩
    · rw [join_cons hne, List.mem_append, List.mem_append] at h
      rcases h with (h | h) | h
      · exact .inr ⟨piece, List.mem_cons_self, h⟩
      · exact .inl h
      · rcases ih h with h | ⟨other, hmem, h⟩
        · exact .inl h
        · exact .inr ⟨other, List.mem_cons_of_mem piece hmem, h⟩

end Joining

/-! ## A known beginning -/

theorem dropPrefix?_eq_some {start t rest : Text} :
    dropPrefix? start t = some rest ↔ t = start ++ rest := by
  induction start generalizing t with
  | nil => simp [dropPrefix?, eq_comm]
  | cons a start ih =>
    cases t with
    | nil => simp [dropPrefix?]
    | cons b t =>
      simp only [dropPrefix?, List.cons_append, List.cons.injEq]
      split
      · next heq => rw [ih]; exact ⟨fun h => ⟨heq.symm, h⟩, fun h => h.2⟩
      · next hne => simp [Ne.symm hne]

end JarLens.Text
