import JarLens.Text.LowerCase
import JarLens.Proofs.Text.Cutting

/-!
# Lower case of a part of a text

Lower-casing looks around at one letter only: whether a capital sigma ends a word depends on the text
on both sides of it. So a part of a text has there the lower case that it has by itself exactly if
its capital sigmas end a word there where they end one in the part alone (`lowerWithin_eq_iff`).
-/

namespace JarLens.Text

/-- The lower case of `t` between the reversed text `before` it and the text `after` it. -/
def lowerWithin : (before t after : Text) → Text
  | _, [], _ => []
  | before, c :: t, after => lowerBetween before c (t ++ after) ++ lowerWithin (c :: before) t after

/-- Whether a capital sigma between the reversed text `before` it and the text `after` it is the last
letter of a word. -/
def endsWord (before after : Text) : Bool :=
  meetsCased before && !meetsCased after

/-- Between `a` and `b`, the capital sigmas of the text end the words that they end in it alone. -/
def EndsAlike (a t b : Text) : Prop :=
  ∀ u v, t = u ++ '\u03a3' :: v → endsWord u.reverse v = endsWord (u.reverse ++ a.reverse) (v ++ b)

theorem lowerAfter_append (before t u : Text) :
    lowerAfter before (t ++ u) = lowerWithin before t u ++ lowerAfter (t.reverse ++ before) u := by
  induction t generalizing before with
  | nil => rfl
  | cons c t ih =>
    rw [List.cons_append, lowerAfter, lowerWithin, ih, List.append_assoc, List.reverse_cons,
      List.append_assoc, List.singleton_append]

theorem lowerAfter_eq (before t : Text) : lowerAfter before t = lowerWithin before t [] := by
  have h := lowerAfter_append before t []
  rwa [List.append_nil, lowerAfter, List.append_nil] at h

/-- A part of a text is lowered within what stands around it. -/
theorem lower_append (a t b : Text) :
    lower (a ++ t ++ b) = lowerWithin [] a (t ++ b) ++ lowerWithin a.reverse t b ++
      lowerAfter ((a ++ t).reverse) b := by
  rw [lower, List.append_assoc, lowerAfter_append, lowerAfter_append, List.append_nil,
    List.append_assoc, List.reverse_append]

/-! ## One letter -/

theorem length_lowerBetween (before before' : Text) (c : Char) (after after' : Text) :
    (lowerBetween before c after).length = (lowerBetween before' c after').length := by
  unfold lowerBetween
  split
  · split <;> split <;> rfl
  · split <;> rfl

/-- A character is lowered alike in two places unless it is a capital sigma, which depends on being
last in its word. -/
theorem lowerBetween_eq_iff {before before' after after' : Text} {c : Char} :
    lowerBetween before c after = lowerBetween before' c after' ↔
      (c = '\u03a3' → endsWord before after = endsWord before' after') := by
  unfold lowerBetween
  split
  · next hc =>
    simp only [hc, true_imp_iff, endsWord]
    cases meetsCased before && !meetsCased after <;> cases meetsCased before' && !meetsCased after' <;>
      decide
  · next hc => simp [hc]

/-! ## A part of a text -/

/-- A part is lowered alike in two places exactly if each capital sigma in it is last in a word in
both or in neither. -/
theorem lowerWithin_eq_iff {before before' t after after' : Text} :
    lowerWithin before t after = lowerWithin before' t after' ↔
      ∀ u v, t = u ++ '\u03a3' :: v →
        endsWord (u.reverse ++ before) (v ++ after) = endsWord (u.reverse ++ before') (v ++ after') := by
  -- By induction on the part: letter by letter it goes over to what stands before it.
  induction t generalizing before before' with
  | nil => simp [lowerWithin]
  | cons c t ih =>
    have hlength := length_lowerBetween before before' c (t ++ after) (t ++ after')
    have hstep : lowerWithin before (c :: t) after = lowerWithin before' (c :: t) after' ↔
        lowerBetween before c (t ++ after) = lowerBetween before' c (t ++ after') ∧
          lowerWithin (c :: before) t after = lowerWithin (c :: before') t after' :=
      ⟨fun h => List.append_inj h hlength, fun h => by rw [lowerWithin, lowerWithin, h.1, h.2]⟩
    rw [hstep, lowerBetween_eq_iff, ih]
    constructor
    · rintro ⟨hfirst, hrest⟩ u v heq
      cases u with
      | nil =>
        obtain ⟨rfl, rfl⟩ := List.cons.inj heq
        exact hfirst rfl
      | cons d u =>
        obtain ⟨rfl, rfl⟩ := List.cons.inj heq
        simpa using hrest u v rfl
    · intro h
      refine ⟨?_, fun u v heq => ?_⟩
      · rintro rfl
        exact h [] t rfl
      · have hrest := h (c :: u) v (by rw [heq, List.cons_append])
        simpa using hrest

/-- A part is lowered as if it stood alone exactly if its capital sigmas end alike. -/
theorem lowerWithin_eq_lower_iff {a t b : Text} :
    lowerWithin a.reverse t b = lower t ↔ EndsAlike a t b := by
  rw [lower, lowerAfter_eq, eq_comm, lowerWithin_eq_iff]
  simp only [List.append_nil]
  rfl

theorem EndsAlike.of_not_mem {a t b : Text} (h : '\u03a3' ∉ t) : EndsAlike a t b := by
  rintro u v rfl
  exact absurd (by simp) h

/-! ## Occurrences -/

theorem occursIn_iff {needle t : Text} : occursIn needle t = true ↔ needle <:+: t := by
  induction t with
  | nil => simp [occursIn]
  | cons c t ih =>
    rw [occursIn, Bool.or_eq_true, ih, startsWith_iff, List.infix_cons_iff]
    exact or_congr_left ⟨fun ⟨rest, h⟩ => ⟨rest, h.symm⟩, fun ⟨rest, h⟩ => ⟨rest, h.symm⟩⟩

/-- A part of a text is found in lower case where its capital sigmas end the same words. -/
theorem EndsAlike.occursIn {a t b : Text} (h : EndsAlike a t b) :
    occursIn (lower t) (lower (a ++ t ++ b)) = true := by
  rw [occursIn_iff, lower_append, lowerWithin_eq_lower_iff.2 h]
  exact List.infix_append _ _ _

end JarLens.Text
