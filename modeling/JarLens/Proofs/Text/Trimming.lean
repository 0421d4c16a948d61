import JarLens.Text.Blank

/-!
# Trimmed texts

A text is trimmed if it neither starts nor ends with white space. `strip` finds it again between any
white space (`strip_between`), and what `strip` finds is trimmed.
-/

namespace JarLens.Text

/-- The text has white space at neither end. -/
structure IsTrimmed (t : Text) : Prop where
  head : ∀ c ∈ t.head?, isBlank c = false
  last : ∀ c ∈ t.getLast?, isBlank c = false

instance (t : Text) : Decidable (IsTrimmed t) :=
  have : Decidable (∀ c ∈ t.head?, isBlank c = false) := Option.decidableForallMem _
  have : Decidable (∀ c ∈ t.getLast?, isBlank c = false) := Option.decidableForallMem _
  decidable_of_iff
    ((∀ c ∈ t.head?, isBlank c = false) ∧ ∀ c ∈ t.getLast?, isBlank c = false)
    ⟨fun h => ⟨h.1, h.2⟩, fun h => ⟨h.head, h.last⟩⟩

/-- The text is white space, or empty. -/
def AllBlank (t : Text) : Prop :=
  ∀ c ∈ t, isBlank c = true

instance (t : Text) : Decidable (AllBlank t) :=
  List.decidableBAll _ t

theorem isTrimmed_of_forall {t : Text} (h : ∀ c ∈ t, isBlank c = false) : IsTrimmed t :=
  ⟨fun c hc => h c (List.mem_of_mem_head? hc), fun c hc => h c (List.mem_of_mem_getLast? hc)⟩

theorem IsTrimmed.append {a b : Text} (ha : IsTrimmed a) (hb : IsTrimmed b) (hne : a ≠ [])
    (hne' : b ≠ []) : IsTrimmed (a ++ b) := by
  refine ⟨fun c hc => ha.head c ?_, fun c hc => hb.last c ?_⟩
  · rwa [List.head?_append, Option.or_of_isSome (by simpa using hne)] at hc
  · rwa [List.getLast?_append, Option.or_of_isSome (by simpa using hne')] at hc

/-- Blanks in front are trimmed, whatever follows. -/
theorem trimStart_append {b : Text} (hb : AllBlank b) (t : Text) :
    trimStart isBlank (b ++ t) = trimStart isBlank t :=
  List.dropWhile_append_of_pos hb

theorem trimStart_of_head {t : Text} (h : ∀ c ∈ t.head?, isBlank c = false) :
    trimStart isBlank t = t := by
  cases t with
  | nil => rfl
  | cons c t =>
    have hc : isBlank c = false := h c rfl
    simp [trimStart, hc]

theorem trimEnd_append {b : Text} (hb : AllBlank b) (t : Text) :
    trimEnd isBlank (t ++ b) = trimEnd isBlank t := by
  unfold trimEnd
  rw [List.reverse_append, List.dropWhile_append_of_pos fun c hc => hb c (List.mem_reverse.1 hc)]

theorem trimEnd_of_last {t : Text} (h : ∀ c ∈ t.getLast?, isBlank c = false) :
    trimEnd isBlank t = t := by
  have hrev : trimStart isBlank t.reverse = t.reverse :=
    trimStart_of_head (by simpa [List.head?_reverse] using h)
  unfold trimStart at hrev
  rw [trimEnd, hrev, List.reverse_reverse]

/-- A trimmed text between white space. -/
theorem strip_between {b t b' : Text} (hb : AllBlank b) (ht : IsTrimmed t) (hb' : AllBlank b') :
    strip (b ++ t ++ b') = t := by
  unfold strip
  rw [List.append_assoc, trimStart_append hb]
  by_cases hne : t = []
  · subst hne
    rw [List.nil_append, ← List.append_nil b', trimStart_append hb']
    rfl
  · have hhead : ∀ c ∈ (t ++ b').head?, isBlank c = false := by
      intro c hc
      rw [List.head?_append, Option.or_of_isSome (by simpa using hne)] at hc
      exact ht.head c hc
    rw [trimStart_of_head hhead, trimEnd_append hb', trimEnd_of_last ht.last]

theorem strip_of_isTrimmed {t : Text} (ht : IsTrimmed t) : strip t = t := by
  have hnil : AllBlank [] := by simp [AllBlank]
  have h := strip_between hnil ht hnil
  rwa [List.nil_append, List.append_nil] at h

/-- A text after the white space that it starts with. -/
theorem exists_trimStart (t : Text) :
    ∃ b back, t = b ++ back ∧ AllBlank b ∧ ∀ c ∈ back.head?, isBlank c = false := by
  refine ⟨t.takeWhile isBlank, t.dropWhile isBlank, ?_, ?_, ?_⟩
  · rw [List.takeWhile_append_dropWhile]
  · intro c hc
    exact List.all_eq_true.1 List.all_takeWhile c hc
  · intro c hc
    have hhead := List.head?_dropWhile_not isBlank t
    rw [hc] at hhead
    simpa using hhead

/-- A text up to the white space that it ends with. -/
theorem exists_trimEnd (t : Text) :
    ∃ front b, t = front ++ b ∧ AllBlank b ∧ ∀ c ∈ front.getLast?, isBlank c = false := by
  obtain ⟨b, back, hrev, hb, hhead⟩ := exists_trimStart t.reverse
  refine ⟨back.reverse, b.reverse, ?_, fun c hc => hb c (List.mem_reverse.1 hc), ?_⟩
  · rw [← List.reverse_append, ← hrev, List.reverse_reverse]
  · rwa [List.getLast?_reverse]

/-- What `strip` removes is white space, and it removes all there is at both ends. -/
theorem exists_strip (t : Text) :
    ∃ before after, AllBlank before ∧ AllBlank after ∧ IsTrimmed (strip t) ∧
      t = before ++ strip t ++ after := by
  obtain ⟨before, back, rfl, hbefore, hhead⟩ := exists_trimStart t
  obtain ⟨middle, after, rfl, hafter, hlast⟩ := exists_trimEnd back
  have htrimmed : IsTrimmed middle := by
    refine ⟨fun c hc => hhead c ?_, hlast⟩
    have hne : middle ≠ [] := by
      rintro rfl
      cases hc
    rwa [List.head?_append, Option.or_of_isSome (by simpa using hne)]
  have hstrip : strip (before ++ (middle ++ after)) = middle := by
    rw [← List.append_assoc]
    exact strip_between hbefore htrimmed hafter
  rw [hstrip]
  exact ⟨before, after, hbefore, hafter, htrimmed, (List.append_assoc ..).symm⟩

theorem strip_subset (t : Text) : strip t ⊆ t := by
  obtain ⟨before, after, -, -, -, hsplit⟩ := exists_strip t
  intro c hc
  rw [hsplit]
  exact List.mem_append_left _ (List.mem_append_right _ hc)

/-- A stripped text is trimmed. -/
theorem isTrimmed_strip (t : Text) : IsTrimmed (strip t) := by
  obtain ⟨_, _, -, -, htrimmed, -⟩ := exists_strip t
  exact htrimmed

/-- Nothing is left exactly of a blank text. -/
theorem strip_eq_nil_iff {t : Text} : strip t = [] ↔ AllBlank t := by
  obtain ⟨before, after, hbefore, hafter, -, hsplit⟩ := exists_strip t
  constructor
  · intro h
    rw [hsplit, h, List.append_nil]
    exact fun c hc => (List.mem_append.1 hc).elim (hbefore c) (hafter c)
  · intro h
    have hnil : AllBlank [] := by simp [AllBlank]
    have hstrip := strip_between h (isTrimmed_of_forall (t := []) (by simp)) hnil
    rwa [List.append_nil, List.append_nil] at hstrip

/-- White space inside of a trimmed text is followed by something else. -/
theorem IsTrimmed.exists_after_blank {t u v : Text} {c : Char} (ht : IsTrimmed t)
    (heq : t = u ++ c :: v) (hc : isBlank c = true) :
    ∃ b w, v = b ++ w ∧ AllBlank b ∧ w ≠ [] ∧ ∀ d ∈ w.head?, isBlank d = false := by
  obtain ⟨b, w, rfl, hb, hhead⟩ := exists_trimStart v
  refine ⟨b, w, rfl, hb, ?_, hhead⟩
  rintro rfl
  have hlast : t.getLast? = some ((c :: b).getLast (List.cons_ne_nil c b)) := by
    rw [heq, List.append_nil, List.getLast?_append,
      List.getLast?_eq_some_getLast (List.cons_ne_nil c b)]
    rfl
  have hblank : AllBlank (c :: b) := by
    intro d hd
    rcases List.mem_cons.1 hd with rfl | hd
    · exact hc
    · exact hb d hd
  have hnot := ht.last _ hlast
  rw [hblank _ (List.getLast_mem _)] at hnot
  cases hnot

end JarLens.Text
