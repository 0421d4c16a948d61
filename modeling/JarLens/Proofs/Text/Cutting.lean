import JarLens.Proofs.Text.Pieces

/-!
# Cutting texts at characters and at texts

`join` puts the pieces of `splitOn` together again, `cutLast?` takes off what follows the last
separator, and `cut?` finds a text where it first occurs (`cut?_eq_some`). What a text begins with
can be told from the part before a separator that does not occur in the beginning.
-/

namespace JarLens.Text

section

variable {c : Char}

theorem splitOn_of_not_mem {t : Text} (h : c ∉ t) : splitOn c t = [t] := by
  refine splitBy_of_forall fun d hd => ?_
  have hne : d ≠ c := fun heq => h (heq ▸ hd)
  simpa using hne

/-- A separator keeps the pieces on its two sides apart. -/
theorem splitOn_append (a b : Text) : splitOn c (a ++ c :: b) = splitOn c a ++ splitOn c b :=
  splitBy_append_sep (p := (· == c)) (beq_self_eq_true c) a b

theorem splitOn_ne_nil (t : Text) : splitOn c t ≠ [] :=
  splitBy_ne_nil t

theorem splitOn_cons_piece {a : Text} (h : c ∉ a) (b : Text) :
    splitOn c (a ++ c :: b) = a :: splitOn c b := by
  rw [splitOn_append, splitOn_of_not_mem h, List.singleton_append]

theorem join_splitOn (t : Text) : join [c] (splitOn c t) = t := by
  induction t with
  | nil => rfl
  | cons d t ih =>
    by_cases hd : d = c
    · subst hd
      rw [show splitOn d (d :: t) = [] :: splitOn d t from splitOn_append [] t,
        join_cons (splitOn_ne_nil t), ih]
      rfl
    · obtain ⟨piece, pieces, ht⟩ := List.exists_cons_of_ne_nil (splitOn_ne_nil (c := c) t)
      have hpiece : splitOn c (d :: t) = (d :: piece) :: pieces :=
        splitBy_cons_of_eq (by simpa using hd) ht
      rw [ht] at ih
      rw [hpiece, ← ih]
      cases pieces <;> rfl

/-- Pieces without the separator are found again. -/
theorem splitOn_join {pieces : List Text} (hne : pieces ≠ []) (h : ∀ piece ∈ pieces, c ∉ piece) :
    splitOn c (join [c] pieces) = pieces := by
  induction pieces with
  | nil => exact absurd rfl hne
  | cons piece pieces ih =>
    have hpiece := h piece List.mem_cons_self
    by_cases hnil : pieces = []
    · subst hnil
      exact splitOn_of_not_mem hpiece
    · rw [join_cons hnil, List.append_assoc, List.singleton_append, splitOn_cons_piece hpiece,
        ih hnil fun other hother => h other (List.mem_cons_of_mem piece hother)]

theorem cutLast?_of_not_mem {t : Text} (h : c ∉ t) : cutLast? c t = none := by
  unfold cutLast?
  rw [splitOn_of_not_mem h]
  rfl

theorem cutLast?_append {a b : Text} (h : c ∉ b) : cutLast? c (a ++ c :: b) = some (a, b) := by
  have hsplit : splitOn c (a ++ c :: b) = splitOn c a ++ [b] := by
    rw [splitOn_append, splitOn_of_not_mem h]
  obtain ⟨last, front, hfront⟩ : ∃ last front, (splitOn c a).reverse = last :: front :=
    List.exists_cons_of_ne_nil (by simpa using splitOn_ne_nil a)
  have hback : (last :: front).reverse = splitOn c a := by rw [← hfront, List.reverse_reverse]
  unfold cutLast?
  rw [hsplit, List.reverse_append, hfront]
  show some (join [c] (last :: front).reverse, b) = some (a, b)
  rw [hback, join_splitOn]

/-- There is one piece more than there are separators. -/
theorem length_splitOn (t : Text) : (splitOn c t).length = t.count c + 1 := by
  induction t with
  | nil => rfl
  | cons d t ih =>
    by_cases hd : d = c
    · subst hd
      have hsplit : splitOn d (d :: t) = [] :: splitOn d t := splitOn_append [] t
      rw [hsplit, List.length_cons, ih, List.count_cons_self]
    · obtain ⟨piece, pieces, ht⟩ := List.exists_cons_of_ne_nil (splitOn_ne_nil (c := c) t)
      have hsplit : splitOn c (d :: t) = (d :: piece) :: pieces :=
        splitBy_cons_of_eq (by simpa using hd) ht
      rw [ht] at ih
      rw [hsplit, List.length_cons, List.count_cons_of_ne hd]
      exact ih

/-- A cut at the last separator is told by what it gives. -/
theorem cutLast?_eq_some {t a b : Text} : cutLast? c t = some (a, b) ↔ t = a ++ c :: b ∧ c ∉ b := by
  constructor
  · intro h
    by_cases hmem : c ∈ t
    · obtain ⟨back, front, hrev, hback⟩ := List.eq_append_cons_of_mem (List.mem_reverse.2 hmem)
      have ht : t = front.reverse ++ c :: back.reverse := by
        rw [← List.reverse_reverse t, hrev]
        simp
      have hlast : c ∉ back.reverse := by simpa using hback
      rw [ht, cutLast?_append hlast] at h
      cases h
      exact ⟨ht, hlast⟩
    · rw [cutLast?_of_not_mem hmem] at h
      cases h
  · rintro ⟨rfl, hb⟩
    exact cutLast?_append hb

end

/-! ## What a text begins with -/

/-- Where `c` does not occur in the beginning, what follows the first `c` does not matter. -/
theorem dropPrefix?_append {c : Char} {start : Text} (h : c ∉ start) (a b : Text) :
    dropPrefix? start (a ++ c :: b) = (dropPrefix? start a).map (· ++ c :: b) := by
  induction start generalizing a with
  | nil => rfl
  | cons x start ih =>
    rw [List.mem_cons, not_or] at h
    cases a with
    | nil => simp [dropPrefix?, Ne.symm h.1]
    | cons y a =>
      simp only [List.cons_append, dropPrefix?]
      split
      · exact ih h.2 a
      · rfl

theorem startsWith_iff {t start : Text} : startsWith t start = true ↔ ∃ rest, t = start ++ rest := by
  rw [startsWith, Option.isSome_iff_exists]
  simp only [dropPrefix?_eq_some]

theorem endsWith_iff {t final : Text} : endsWith t final = true ↔ final <:+ t := by
  rw [endsWith, startsWith_iff, ← List.reverse_prefix]
  exact ⟨fun ⟨rest, h⟩ => ⟨rest, h.symm⟩, fun ⟨rest, h⟩ => ⟨rest, h.symm⟩⟩

/-- Whether a text starts with something without the separator is decided before the separator. -/
theorem startsWith_append {c : Char} {start : Text} (h : c ∉ start) (a b : Text) :
    startsWith (a ++ c :: b) start = startsWith a start := by
  rw [startsWith, dropPrefix?_append h, Option.isSome_map]
  rfl

/-! ## Where a text first occurs -/

/-- The text is `before`, `needle` and `after`, and `needle` occurs nowhere earlier. -/
structure FirstOccurs (needle before after t : Text) : Prop where
  eq : t = before ++ needle ++ after
  first : ∀ u v, t = u ++ needle ++ v → before.length ≤ u.length

theorem cut?_of_firstOccurs {needle before after t : Text}
    (h : FirstOccurs needle before after t) : cut? needle t = some (before, after) := by
  induction before generalizing t with
  | nil =>
    have heq : t = needle ++ after := by simpa using h.eq
    have hdrop : dropPrefix? needle t = some after := dropPrefix?_eq_some.2 heq
    cases t with
    | nil =>
      have hnil : needle = [] ∧ after = [] := by simpa using heq.symm
      simp [cut?, hnil.1, hnil.2]
    | cons c t => simp only [cut?, hdrop]
  | cons c before ih =>
    obtain ⟨t, rfl⟩ : ∃ t', t = c :: t' := ⟨before ++ needle ++ after, by simp [h.eq]⟩
    have hdrop : dropPrefix? needle (c :: t) = none := by
      rw [Option.eq_none_iff_forall_ne_some]
      intro rest hrest
      have hlength := h.first [] rest (by simpa using dropPrefix?_eq_some.1 hrest)
      simp at hlength
    have hrest : FirstOccurs needle before after t := by
      refine ⟨by simpa using h.eq, fun u v huv => ?_⟩
      have hlength := h.first (c :: u) v (by rw [huv]; simp)
      simpa using hlength
    simp only [cut?, hdrop, ih hrest, Option.map_some]

theorem firstOccurs_of_cut? {needle before after t : Text}
    (h : cut? needle t = some (before, after)) : FirstOccurs needle before after t := by
  induction t generalizing before with
  | nil =>
    rw [cut?] at h
    split at h
    · next hempty =>
      cases h
      exact ⟨by simpa using (List.isEmpty_iff.1 hempty).symm, fun _ _ _ => Nat.zero_le _⟩
    · cases h
  | cons c t ih =>
    rw [cut?] at h
    split at h
    · next rest hdrop =>
      cases h
      exact ⟨by simpa using dropPrefix?_eq_some.1 hdrop, fun _ _ _ => Nat.zero_le _⟩
    · next hdrop =>
      obtain ⟨⟨before, after⟩, hrest, heq⟩ := Option.map_eq_some_iff.1 h
      cases heq
      have hfirst := ih hrest
      refine ⟨by rw [hfirst.eq]; simp, fun u v huv => ?_⟩
      cases u with
      | nil =>
        have hsome := dropPrefix?_eq_some.2 (by simpa using huv)
        rw [hdrop] at hsome
        cases hsome
      | cons d u =>
        have hlength := hfirst.first u v (by simpa using (List.cons.inj huv).2)
        simpa using hlength

/-- A cut at a needle is where the needle first occurs. -/
theorem cut?_eq_some {needle before after t : Text} :
    cut? needle t = some (before, after) ↔ FirstOccurs needle before after t :=
  ⟨firstOccurs_of_cut?, cut?_of_firstOccurs⟩

/-! ## The first place with a property -/

/-- The text is `before` and `after`, and of its ends with the property `after` is the longest. -/
structure FirstWhere (p : Text → Prop) (before after t : Text) : Prop where
  eq : t = before ++ after
  holds : p after
  first : ∀ v, v <:+ t → p v → v.length ≤ after.length

section

variable {p : Text → Prop} {before after t : Text} {c : Char}

theorem FirstWhere.here (h : p t) : FirstWhere p [] t t :=
  ⟨rfl, h, fun _ hv _ => hv.length_le⟩

theorem FirstWhere.later (h : FirstWhere p before after t) (hc : ¬p (c :: t)) :
    FirstWhere p (c :: before) after (c :: t) := by
  refine ⟨by rw [h.eq, List.cons_append], h.holds, fun v hv hp => ?_⟩
  rcases List.suffix_cons_iff.1 hv with rfl | hv
  · exact absurd hp hc
  · exact h.first v hv hp

/-- There is one first place. -/
theorem FirstWhere.unique {before' after' : Text} (h : FirstWhere p before after t)
    (h' : FirstWhere p before' after' t) : before = before' ∧ after = after' := by
  have hle := h'.first after ⟨before, h.eq.symm⟩ h.holds
  have hge := h.first after' ⟨before', h'.eq.symm⟩ h'.holds
  exact List.append_inj' (h.eq.symm.trans h'.eq) (Nat.le_antisymm hle hge)

theorem nowhere_cons_iff :
    (∀ v, v <:+ c :: t → ¬p v) ↔ ¬p (c :: t) ∧ ∀ v, v <:+ t → ¬p v := by
  simp only [List.suffix_cons_iff, or_imp, forall_and, forall_eq]

end

end JarLens.Text
