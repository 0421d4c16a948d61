import JarLens.Proofs.Entry.Segments
import JarLens.Proofs.Text.Cutting

/-!
# The one spelling of a path

Of every path `normalize` makes its segments with single slashes between them. The texts of this form
are the ones that it leaves alone (`normalize_eq_self_iff`), and a path that is put together around a
separator has the segments of both sides (`normalize_append_sep`). The main statement is
`normalize_spells`.
-/

namespace JarLens.Entry

open JarLens.Text

/-- A path in its one spelling. -/
structure IsSpelled (t : Text) : Prop where
  no_backslash : '\\' ∉ t
  /-- Between the slashes there is something everywhere, unless the path is empty. -/
  ne_nil_of_mem : t ≠ [] → ∀ piece ∈ splitOn '/' t, piece ≠ []
  head : t.head? ≠ some '/'
  last : t.getLast? ≠ some '/'

section

variable {t path : Text}

/-- A path without backslashes and without empty pieces is spelled the one way. -/
theorem isSpelled_of_pieces (hback : '\\' ∉ t)
    (hpieces : t ≠ [] → ∀ piece ∈ splitOn '/' t, piece ≠ []) : IsSpelled t := by
  refine ⟨hback, hpieces, fun hhead => ?_, fun hlast => ?_⟩
  · -- A slash at an end has an empty piece next to it.
    obtain ⟨rest, rfl⟩ := List.head?_eq_some_iff.1 hhead
    refine hpieces (List.cons_ne_nil _ _) [] ?_ rfl
    rw [show '/' :: rest = [] ++ '/' :: rest from rfl, splitOn_append]
    exact List.mem_append_left _ (List.mem_singleton_self [])
  · obtain ⟨front, rfl⟩ := List.getLast?_eq_some_iff.1 hlast
    refine hpieces (by simp) [] ?_ rfl
    rw [splitOn_append]
    exact List.mem_append_right _ (List.mem_singleton_self [])

/-- Normalizing spells a path the one way. -/
theorem isSpelled_normalize (path : Text) : IsSpelled (normalize path) := by
  have hsegments : ∀ s ∈ segments path, IsSegment s := fun _ => isSegment_of_mem
  rw [normalize_eq_join]
  apply isSpelled_of_pieces
  · intro hmem
    rcases mem_join hmem with hslash | ⟨s, hs, hmem⟩
    · exact absurd hslash (by decide)
    · have hsep := (hsegments s hs).not_sep '\\' hmem
      cases hsep
  · intro hne piece hpiece
    have hsome : segments path ≠ [] := fun hnil => hne ((join_eq_nil hsegments).2 hnil)
    rw [splitOn_join hsome fun s hs => (hsegments s hs).slash_not_mem] at hpiece
    exact (hsegments piece hpiece).ne_nil

/-- Without a backslash, the slashes are all there is to cut at. -/
theorem splitBy_isSeparator (h : '\\' ∉ t) : splitBy isSeparator t = splitOn '/' t := by
  refine splitBy_congr fun c hc => ?_
  have hne : c ≠ '\\' := fun heq => h (heq ▸ hc)
  simp [isSeparator, hne]

/-- The texts that `normalize` leaves alone are the paths in their one spelling. -/
theorem normalize_eq_self_iff : normalize t = t ↔ IsSpelled t := by
  constructor
  · intro h
    rw [← h]
    exact isSpelled_normalize t
  · intro h
    by_cases hne : t = []
    · rw [hne]
      rfl
    · have hall : (splitOn '/' t).filter (!·.isEmpty) = splitOn '/' t :=
        List.filter_eq_self.2 fun piece hpiece => by simpa using h.ne_nil_of_mem hne piece hpiece
      rw [normalize_eq_join, segments, splitBy_isSeparator h.no_backslash, hall, join_splitOn]

/-- Segments that are put together are spelled as what there is of both sides. -/
theorem join_append_segments {xs ys : List Text} (hx : ∀ s ∈ xs, IsSegment s)
    (hy : ∀ s ∈ ys, IsSegment s) :
    join ['/'] (xs ++ ys) = join ['/'] ([join ['/'] xs, join ['/'] ys].filter (!·.isEmpty)) := by
  have hkept : ∀ {ss : List Text}, (∀ s ∈ ss, IsSegment s) → ss ≠ [] →
      (join ['/'] ss).isEmpty = false := by
    intro ss hs hne
    simpa [join_eq_nil hs] using hne
  by_cases hxs : xs = []
  · subst hxs
    by_cases hys : ys = []
    · subst hys
      rfl
    · rw [List.nil_append, List.filter_cons, List.filter_cons, hkept hy hys]
      rfl
  · by_cases hys : ys = []
    · subst hys
      rw [List.append_nil, List.filter_cons, hkept hx hxs]
      rfl
    · rw [join_append hxs hys, List.filter_cons, List.filter_cons, hkept hx hxs, hkept hy hys]
      rfl

theorem normalize_append_sep {c : Char} (hc : isSeparator c = true) (a b : Text) :
    normalize (a ++ c :: b) = join ['/'] ([normalize a, normalize b].filter (!·.isEmpty)) := by
  rw [normalize_eq_join, normalize_eq_join, normalize_eq_join, segments_append_sep hc]
  exact join_append_segments (fun _ => isSegment_of_mem) fun _ => isSegment_of_mem

end

/-- A path is spelled as its segments with single slashes between them. The result is spelled that
way again, and nothing else is left alone; of two paths around a slash it is what there is of both.
-/
theorem normalize_spells (path other : Text) :
    normalize path = join ['/'] (segments path) ∧ IsSpelled (normalize path) ∧
      normalize (normalize path) = normalize path ∧
      (normalize path = path ↔ IsSpelled path) ∧
      normalize (path ++ '/' :: other) =
        join ['/'] ([normalize path, normalize other].filter (!·.isEmpty)) :=
  ⟨normalize_eq_join path, isSpelled_normalize path, normalize_normalize path,
    normalize_eq_self_iff, normalize_append_sep isSeparator_slash path other⟩

end JarLens.Entry
