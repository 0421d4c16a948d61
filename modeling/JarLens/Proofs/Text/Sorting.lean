import JarLens.Text.Basic

/-!
# Sorted texts without repetition

`Text.le` is the order of texts by code point. `sortTexts` brings texts into it, and after
`distinct` into strictly increasing order: what comes out depends only on which texts there are.
-/

namespace JarLens

/-! ## The order of texts -/

section Order

theorem Text.le_iff {a b : Text} : Text.le a b = true ↔ a < b ∨ a = b := by
  induction a generalizing b with
  | nil => cases b <;> simp [Text.le]
  | cons c a ih =>
    cases b with
    | nil => simp [Text.le]
    | cons d b =>
      have hlt : c.toNat < d.toNat ↔ c < d := Iff.rfl
      simp only [Text.le, Bool.or_eq_true, Bool.and_eq_true, decide_eq_true_eq, beq_iff_eq, ih,
        hlt, List.cons_lt_cons_iff, List.cons.injEq]
      constructor
      · rintro (h | ⟨h, h' | h'⟩)
        · exact .inl (.inl h)
        · exact .inl (.inr ⟨h, h'⟩)
        · exact .inr ⟨h, h'⟩
      · rintro ((h | ⟨h, h'⟩) | ⟨h, h'⟩)
        · exact .inl h
        · exact .inr ⟨h, .inl h'⟩
        · exact .inr ⟨h, .inr h'⟩

theorem Text.le_total (a b : Text) : (Text.le a b || Text.le b a) = true := by
  induction a generalizing b with
  | nil => simp [Text.le]
  | cons c a ih =>
    cases b with
    | nil => simp [Text.le]
    | cons d b =>
      have h := ih b
      simp only [Text.le, Bool.or_eq_true, Bool.and_eq_true, decide_eq_true_eq, beq_iff_eq] at h ⊢
      rcases Nat.lt_trichotomy c.toNat d.toNat with hlt | heq | hgt
      · exact .inl (.inl hlt)
      · obtain rfl : c = d := Char.toNat_inj.1 heq
        exact h.imp (fun h => .inr ⟨rfl, h⟩) fun h => .inr ⟨rfl, h⟩
      · exact .inr (.inl hgt)

theorem Text.le_trans {a b c : Text} (hab : Text.le a b = true) (hbc : Text.le b c = true) :
    Text.le a c = true := by
  rw [Text.le_iff] at *
  rcases hab with hab | rfl
  · rcases hbc with hbc | rfl
    · exact .inl (List.lt_trans hab hbc)
    · exact .inl hab
  · exact hbc

/-- Two texts that are each before the other are one. -/
theorem Text.le_antisymm {a b : Text} (hab : Text.le a b = true) (hba : Text.le b a = true) :
    a = b := by
  rw [Text.le_iff] at *
  rcases hab with hab | rfl
  · rcases hba with hba | rfl
    · exact absurd (List.lt_trans hab hba) (List.lt_irrefl a)
    · rfl
  · rfl

end Order

/-! ## Without repetition -/

section Distinct

variable {α : Type} [BEq α] [LawfulBEq α]

/-- What `distinct` has collected after some more values. -/
theorem distinct_fold (xs seen : List α) (hseen : seen.Nodup) :
    let all := xs.foldl (fun seen x => if seen.contains x then seen else seen ++ [x]) seen
    all.Nodup ∧ ∀ x, x ∈ all ↔ x ∈ seen ∨ x ∈ xs := by
  induction xs generalizing seen with
  | nil => exact ⟨hseen, by simp⟩
  | cons y xs ih =>
    simp only [List.foldl_cons]
    split
    · next hcontains =>
      obtain ⟨hnodup, hmem⟩ := ih seen hseen
      refine ⟨hnodup, fun x => ?_⟩
      rw [hmem, List.mem_cons]
      have hy : y ∈ seen := List.contains_iff_mem.1 hcontains
      constructor
      · rintro (h | h)
        · exact .inl h
        · exact .inr (.inr h)
      · rintro (h | rfl | h)
        · exact .inl h
        · exact .inl hy
        · exact .inr h
    · next hcontains =>
      have hy : y ∉ seen := fun h => hcontains (List.contains_iff_mem.2 h)
      have hseen' : (seen ++ [y]).Nodup := by
        rw [List.nodup_append]
        refine ⟨hseen, by simp, fun a ha b hb hab => ?_⟩
        rw [List.mem_singleton.1 hb] at hab
        exact hy (hab ▸ ha)
      obtain ⟨hnodup, hmem⟩ := ih (seen ++ [y]) hseen'
      refine ⟨hnodup, fun x => ?_⟩
      rw [hmem, List.mem_append, List.mem_singleton, List.mem_cons, or_assoc]

theorem nodup_distinct (xs : List α) : (distinct xs).Nodup :=
  (distinct_fold xs [] List.nodup_nil).1

theorem mem_distinct {xs : List α} {x : α} : x ∈ distinct xs ↔ x ∈ xs := by
  have h := (distinct_fold xs [] List.nodup_nil).2 x
  simpa [distinct] using h

end Distinct

/-! ## Sorted and without repetition -/

/-- Sorting neither loses nor adds a text. -/
theorem mem_sortTexts {ts : List Text} {t : Text} : t ∈ sortTexts ts ↔ t ∈ ts :=
  (List.mergeSort_perm ts Text.le).mem_iff

theorem pairwise_sortTexts (ts : List Text) :
    (sortTexts ts).Pairwise fun a b => Text.le a b = true :=
  @List.pairwise_mergeSort Text Text.le (fun _ _ _ hab hbc => Text.le_trans hab hbc)
    Text.le_total ts

theorem nodup_sortTexts {ts : List Text} (h : ts.Nodup) : (sortTexts ts).Nodup :=
  (List.mergeSort_perm ts Text.le).nodup_iff.2 h

/-- Distinct texts come in strictly increasing order. -/
theorem pairwise_lt_sortTexts {ts : List Text} (h : ts.Nodup) :
    (sortTexts ts).Pairwise (· < ·) := by
  refine ((pairwise_sortTexts ts).and (nodup_sortTexts h)).imp ?_
  rintro a b ⟨hle, hne⟩
  exact (Text.le_iff.1 hle).resolve_right hne

/-- Sorting distinct texts only depends on which texts there are. -/
theorem sortTexts_distinct_congr {xs ys : List Text} (h : ∀ t, t ∈ xs ↔ t ∈ ys) :
    sortTexts (distinct xs) = sortTexts (distinct ys) := by
  have hperm : (distinct xs).Perm (distinct ys) := by
    rw [List.perm_ext_iff_of_nodup (nodup_distinct xs) (nodup_distinct ys)]
    intro t
    rw [mem_distinct, mem_distinct, h]
  have hsorted : (sortTexts (distinct xs)).Perm (sortTexts (distinct ys)) :=
    (List.mergeSort_perm _ _).trans (hperm.trans (List.mergeSort_perm _ _).symm)
  exact hsorted.eq_of_pairwise (fun a b _ _ => Text.le_antisymm) (pairwise_sortTexts _)
    (pairwise_sortTexts _)

end JarLens
