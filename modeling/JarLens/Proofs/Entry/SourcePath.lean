import JarLens.Proofs.Entry.ClassFile
import JarLens.Proofs.Files.Following

/-!
# Where the source text of a class lies

The path of a class's source text differs from the class's own path in the last name only
(`exists_javaEntry_pieces`), and neither last name is dots, as neither ends with one.
-/

namespace JarLens

open JarLens.Text

/-! ## The last name -/

/-- A name that ends with something other than a dot is no dots. -/
theorem isOwnName_append (s : Text) {t : Text} (hne : t ≠ []) (hlast : t.getLast? ≠ some '.') :
    IsOwnName (s ++ t) := by
  have hends : ∀ u : Text, u.getLast? = some '.' → s ++ t ≠ u := by
    rintro u hu rfl
    rw [List.getLast?_append, Option.or_of_isSome (by simpa using hne)] at hu
    exact hlast hu
  exact ⟨by simp [hne], hends _ rfl, hends _ rfl⟩

/-- The part of a path after its last slash, with what is put behind it. -/
theorem exists_splitOn_append (stem : Text) :
    ∃ front last, ∀ t, '/' ∉ t → splitOn '/' (stem ++ t) = front ++ [last ++ t] := by
  obtain ⟨front, last, hsplit⟩ := exists_splitBy_append (p := (· == '/')) stem
  refine ⟨front, last, fun t ht => hsplit t fun c hc => ?_⟩
  have hne : c ≠ '/' := fun heq => ht (heq ▸ hc)
  simpa using hne

namespace Entry

/-- A class and its source text lie in one folder, and have names that are no dots. -/
theorem exists_javaEntry_pieces {path : Text} (h : isClass path = true) :
    ∃ front x y, splitOn '/' path = front ++ [x] ∧ splitOn '/' (javaEntry path) = front ++ [y] ∧
      IsOwnName x ∧ IsOwnName y := by
  have hnames := namesClass_of_isClass h
  obtain ⟨front, last, hsplit⟩ := exists_splitOn_append (stem path)
  refine ⟨front, last ++ classSuffix path, last ++ ".java".toList, ?_, ?_, ?_, ?_⟩
  · rw [← hsplit _ hnames.suffix.slash_not_mem, ← hnames.eq_append]
  · rw [hnames.javaEntry, hsplit _ (by decide)]
  · exact isOwnName_append last hnames.suffix.ne_nil hnames.suffix.getLast?_ne
  · exact isOwnName_append last (by decide) (by decide)

end Entry

end JarLens
