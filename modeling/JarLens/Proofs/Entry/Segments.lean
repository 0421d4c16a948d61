import JarLens.Entry.Path
import JarLens.Proofs.Text.Pieces

/-!
# Paths as segments

A path is known by its segments: the non-empty pieces between separators. `normalize` writes them
with single slashes (`normalize_eq_join`), so that paths in their one spelling are the joins of
segments, and a path is beneath another one when its segments go on from there.
-/

namespace JarLens.Entry

open JarLens.Text

/-- A segment of a path: not empty, and without separators. -/
structure IsSegment (h : Text) : Prop where
  ne_nil : h ≠ []
  not_sep : ∀ c ∈ h, isSeparator c = false

theorem isSeparator_slash : isSeparator '/' = true := rfl

theorem IsSegment.slash_not_mem {h : Text} (hh : IsSegment h) : '/' ∉ h := by
  intro hmem
  have hsep := hh.not_sep '/' hmem
  cases hsep

theorem isSegment_of_mem {path h : Text} (hmem : h ∈ segments path) : IsSegment h := by
  rw [segments, List.mem_filter] at hmem
  exact ⟨by simpa using hmem.2, not_sep_of_mem_splitBy hmem.1⟩

/-! ## Segments of what is put together -/

theorem segments_append_sep {c : Char} (hc : isSeparator c = true) (a b : Text) :
    segments (a ++ c :: b) = segments a ++ segments b := by
  rw [segments, splitBy_append_sep hc, List.filter_append]
  rfl

theorem segments_cons_sep {c : Char} (hc : isSeparator c = true) (t : Text) :
    segments (c :: t) = segments t :=
  segments_append_sep hc [] t

theorem segments_of_isSegment {h : Text} (hh : IsSegment h) : segments h = [h] := by
  rw [segments, splitBy_of_forall hh.not_sep]
  simp [hh.ne_nil]

/-- Segments that are joined are found again. -/
theorem segments_join {ss : List Text} (h : ∀ s ∈ ss, IsSegment s) :
    segments (join ['/'] ss) = ss := by
  induction ss with
  | nil => rfl
  | cons s ss ih =>
    have hs := h s List.mem_cons_self
    by_cases hss : ss = []
    · subst hss
      exact segments_of_isSegment hs
    · rw [join_cons hss, List.append_assoc, List.singleton_append,
        segments_append_sep isSeparator_slash, segments_of_isSegment hs,
        ih fun t ht => h t (List.mem_cons_of_mem s ht), List.singleton_append]

/-- A character in front of a path starts a segment of its own if a separator or nothing follows,
and belongs to the first segment otherwise. -/
theorem segments_cons {c : Char} (hc : isSeparator c = false) (t : Text) :
    ((t.head?.all isSeparator = true) ∧ segments (c :: t) = [c] :: segments t) ∨
    ((t.head?.all isSeparator = false) ∧
      ∃ h ss, segments t = h :: ss ∧ segments (c :: t) = (c :: h) :: ss) := by
  cases t with
  | nil => exact .inl ⟨rfl, by simp [segments, splitBy, hc]⟩
  | cons d t =>
    cases hd : isSeparator d with
    | true =>
      refine .inl ⟨by simp [hd], ?_⟩
      simp [segments, splitBy_cons_of_eq hc (splitBy_cons_sep hd t), splitBy_cons_sep hd]
    | false =>
      obtain ⟨piece, pieces, ht⟩ := List.exists_cons_of_ne_nil (splitBy_ne_nil (p := isSeparator) t)
      have hdt := splitBy_cons_of_eq hd ht
      refine .inr ⟨by simp [hd], d :: piece, pieces.filter (!·.isEmpty), ?_, ?_⟩
      · simp [segments, hdt]
      · simp [segments, splitBy_cons_of_eq hc hdt]

/-! ## The one spelling -/

/-- The path with every run of separators as one slash. -/
def squeeze (path : Text) : Text :=
  collapseSlashes (replaceChar '\\' '/' path)

/-- Separators in a row are squeezed into one slash. -/
theorem squeeze_cons (c : Char) (t : Text) :
    squeeze (c :: t) =
      if isSeparator c = true then
        if (squeeze t).head? = some '/' then squeeze t else '/' :: squeeze t
      else c :: squeeze t := by
  by_cases hslash : c = '/'
  · subst hslash
    simp [squeeze, collapseSlashes, replaceChar, isSeparator]
  · by_cases hback : c = '\\'
    · subst hback
      simp [squeeze, collapseSlashes, replaceChar, isSeparator]
    · have hc : isSeparator c = false := by simp [isSeparator, hslash, hback]
      simp [squeeze, collapseSlashes, replaceChar, hc, hslash, hback]

/-- A squeezed path starts with a slash exactly if the path starts with a separator. -/
theorem head_squeeze (t : Text) :
    (squeeze t).head? = some '/' ↔ t.head?.any isSeparator = true := by
  induction t with
  | nil => simp [squeeze, collapseSlashes, replaceChar]
  | cons c t ih =>
    rw [squeeze_cons]
    cases hc : isSeparator c with
    | true =>
      simp only [↓reduceIte, List.head?_cons, Option.any_some, hc, iff_true]
      split
      · next h => exact h
      · rfl
    | false =>
      have hne : c ≠ '/' := by
        rintro rfl
        cases hc
      simp [hc, hne]

theorem squeeze_eq_nil {t : Text} : squeeze t = [] ↔ t = [] := by
  cases t with
  | nil => simp [squeeze, collapseSlashes, replaceChar]
  | cons c t =>
    rw [squeeze_cons]
    split
    · split
      · next h =>
        constructor
        · intro hnil
          rw [hnil] at h
          cases h
        · intro hnil
          cases hnil
      · simp
    · simp

theorem dropFinalSlash_cons {c : Char} {t : Text} (ht : t ≠ []) :
    dropFinalSlash (c :: t) = c :: dropFinalSlash t := by
  unfold dropFinalSlash
  rw [List.getLast?_cons_of_ne_nil ht, List.dropLast_cons_of_ne_nil ht]
  split <;> rfl

/-- What the passes of `normalize` make of a path that may still start with a separator. The
induction is over the path; a leading slash is kept as long as a segment follows. -/
theorem dropFinalSlash_squeeze (path : Text) :
    dropFinalSlash (squeeze path) =
      if path.head?.any isSeparator = true ∧ segments path ≠ [] then
        '/' :: join ['/'] (segments path)
      else join ['/'] (segments path) := by
  induction path with
  | nil => rfl
  | cons c t ih =>
    cases hc : isSeparator c with
    | true =>
      have hsegments := segments_cons_sep hc t
      rw [squeeze_cons, if_pos hc, hsegments]
      simp only [List.head?_cons, Option.any_some, hc, true_and]
      by_cases hhead : (squeeze t).head? = some '/'
      · rw [if_pos hhead, ih]
        simp [(head_squeeze t).1 hhead]
      · rw [if_neg hhead]
        have hleads : ¬t.head?.any isSeparator = true := fun h => hhead ((head_squeeze t).2 h)
        by_cases ht : t = []
        · subst ht
          rfl
        · rw [dropFinalSlash_cons (fun h => ht (squeeze_eq_nil.1 h)), ih, if_neg (by simp [hleads])]
          have hne : segments t ≠ [] := by
            obtain ⟨d, t, rfl⟩ := List.exists_cons_of_ne_nil ht
            have hd : isSeparator d = false := by simpa using hleads
            rcases segments_cons hd t with ⟨-, h⟩ | ⟨-, h, ss, -, h'⟩
            · simp [h]
            · simp [h']
          rw [if_pos hne]
    | false =>
      have hne : c ≠ '/' := by
        rintro rfl
        cases hc
      have hcons : dropFinalSlash (squeeze (c :: t)) = c :: dropFinalSlash (squeeze t) := by
        rw [squeeze_cons, if_neg (by simp [hc])]
        by_cases ht : squeeze t = []
        · simp [ht, dropFinalSlash, hne]
        · exact dropFinalSlash_cons ht
      rw [hcons, ih]
      simp only [List.head?_cons, Option.any_some, hc, Bool.false_eq_true, false_and, if_false]
      -- `c` is a segment of its own where the induction hypothesis leaves the slash in front.
      rcases segments_cons hc t with ⟨hall, hs⟩ | ⟨hall, h, ss, ht, hs⟩
      · rw [hs]
        by_cases hnil : segments t = []
        · simp [hnil, join]
        · rw [join_cons hnil]
          have hleads : t.head?.any isSeparator = true := by
            cases t with
            | nil => exact absurd rfl hnil
            | cons d t => simpa using hall
          rw [if_pos ⟨hleads, hnil⟩]
          rfl
      · rw [hs, ht]
        have hleads : ¬t.head?.any isSeparator = true := by
          cases t with
          | nil => cases hall
          | cons d t => simpa using hall
        rw [if_neg (by simp [hleads])]
        cases ss <;> rfl

theorem segments_trimStart (path : Text) :
    segments (trimStart isSeparator path) = segments path := by
  induction path with
  | nil => rfl
  | cons c t ih =>
    cases hc : isSeparator c with
    | true => rw [segments_cons_sep hc, ← ih]; simp [trimStart, hc]
    | false => simp [trimStart, hc]

/-- The one spelling of a path is its segments with single slashes between them. -/
theorem normalize_eq_join (path : Text) : normalize path = join ['/'] (segments path) := by
  have h := dropFinalSlash_squeeze (trimStart isSeparator path)
  have hleads : (trimStart isSeparator path).head?.any isSeparator = false := by
    cases htrim : trimStart isSeparator path with
    | nil => rfl
    | cons c t =>
      have hc := List.head?_dropWhile_not isSeparator path
      rw [show path.dropWhile isSeparator = c :: t from htrim] at hc
      simpa using hc
  rw [if_neg (by simp [hleads]), segments_trimStart] at h
  exact h

theorem segments_normalize (path : Text) : segments (normalize path) = segments path := by
  rw [normalize_eq_join, segments_join fun _ => isSegment_of_mem]

theorem normalize_normalize (path : Text) : normalize (normalize path) = normalize path := by
  rw [normalize_eq_join (normalize path), segments_normalize, ← normalize_eq_join]

/-! ## Beneath a folder -/

/-- The path that a name has in a folder. -/
def childPath (folder h : Text) : Text :=
  if folder = [] then h else folder ++ '/' :: h

/-- A path lies strictly beneath another one. -/
def LiesBeneath (folder path : Text) : Prop :=
  ∃ rest, rest ≠ [] ∧ path = folder ++ '/' :: rest

section Beneath

variable {fs ps : List Text} {h : Text}

theorem join_eq_nil (hs : ∀ s ∈ fs, IsSegment s) : join ['/'] fs = [] ↔ fs = [] := by
  constructor
  · intro hnil
    have hsegments := segments_join hs
    rw [hnil] at hsegments
    exact hsegments.symm
  · rintro rfl
    rfl

/-- The path of a name in a folder has one more segment. -/
theorem childPath_join (hs : ∀ s ∈ fs, IsSegment s) :
    childPath (join ['/'] fs) h = join ['/'] (fs ++ [h]) := by
  unfold childPath
  by_cases hfs : fs = []
  · subst hfs
    rfl
  · rw [if_neg fun hnil => hfs ((join_eq_nil hs).1 hnil), join_append hfs (by simp),
      List.append_assoc]
    rfl

/-- Paths in their one spelling are equal when their segments are. -/
theorem join_inj (hf : ∀ s ∈ fs, IsSegment s) (hp : ∀ s ∈ ps, IsSegment s) :
    join ['/'] fs = join ['/'] ps ↔ fs = ps := by
  constructor
  · intro heq
    rw [← segments_join hf, heq, segments_join hp]
  · rintro rfl
    rfl

/-- What follows a folder and a slash in a path in its one spelling is the join of the segments that
go on from the folder. -/
theorem join_eq_append_iff (hf : ∀ s ∈ fs, IsSegment s) (hp : ∀ s ∈ ps, IsSegment s)
    (hne : fs ≠ []) {rest : Text} :
    join ['/'] ps = join ['/'] fs ++ '/' :: rest ↔
      ∃ ss, ss ≠ [] ∧ ps = fs ++ ss ∧ rest = join ['/'] ss := by
  constructor
  · intro heq
    have hps : ps = fs ++ segments rest := by
      rw [← segments_join hp, heq, segments_append_sep isSeparator_slash, segments_join hf]
    have hss : segments rest ≠ [] := by
      intro hnil
      rw [hnil, List.append_nil] at hps
      rw [hps] at heq
      have hlength := congrArg List.length heq
      simp at hlength
    refine ⟨segments rest, hss, hps, ?_⟩
    rw [hps, join_append hne hss, List.append_assoc, List.singleton_append] at heq
    exact (List.cons.inj (List.append_cancel_left heq)).2.symm
  · rintro ⟨ss, hss, rfl, rfl⟩
    rw [join_append hne hss, List.append_assoc, List.singleton_append]

/-- One path lies beneath another if its segments go on from the other's. -/
theorem liesBeneath_join_iff (hf : ∀ s ∈ fs, IsSegment s) (hp : ∀ s ∈ ps, IsSegment s)
    (hne : fs ≠ []) :
    LiesBeneath (join ['/'] fs) (join ['/'] ps) ↔ ∃ ss, ss ≠ [] ∧ ps = fs ++ ss := by
  constructor
  · rintro ⟨rest, -, heq⟩
    obtain ⟨ss, hss, hps, -⟩ := (join_eq_append_iff hf hp hne).1 heq
    exact ⟨ss, hss, hps⟩
  · rintro ⟨ss, hss, rfl⟩
    have hs : ∀ s ∈ ss, IsSegment s := fun s hmem => hp s (List.mem_append_right fs hmem)
    exact ⟨join ['/'] ss, fun hnil => hss ((join_eq_nil hs).1 hnil),
      (join_eq_append_iff hf hp hne).2 ⟨ss, hss, rfl, rfl⟩⟩

theorem isSegment_append_singleton (hf : ∀ s ∈ fs, IsSegment s) (hh : IsSegment h) :
    ∀ s ∈ fs ++ [h], IsSegment s := by
  intro s hs
  rcases List.mem_append.1 hs with hs | hs
  · exact hf s hs
  · rw [List.mem_singleton.1 hs]
    exact hh

variable {folder name : Text}

/-- A path is that of a name in a folder when its segments are the folder's and the name. -/
theorem normalize_eq_childPath (hh : IsSegment h) :
    normalize name = childPath (normalize folder) h ↔ segments name = segments folder ++ [h] := by
  rw [normalize_eq_join, normalize_eq_join, childPath_join fun _ => isSegment_of_mem,
    join_inj (fun _ => isSegment_of_mem)
      (isSegment_append_singleton (fun _ => isSegment_of_mem) hh)]

/-- A path lies beneath that of a name in a folder when its segments go on from there. -/
theorem liesBeneath_childPath (hh : IsSegment h) :
    LiesBeneath (childPath (normalize folder) h) (normalize name) ↔
      ∃ ss, ss ≠ [] ∧ segments name = segments folder ++ h :: ss := by
  rw [normalize_eq_join, normalize_eq_join, childPath_join fun _ => isSegment_of_mem,
    liesBeneath_join_iff (isSegment_append_singleton (fun _ => isSegment_of_mem) hh)
      (fun _ => isSegment_of_mem) (by simp)]
  simp only [List.append_assoc, List.singleton_append]

end Beneath

/-! ## Names in a folder -/

section Children

variable {ps : List Text} {h h' folder folder' name path : Text}

/-- What stands before a slash inside a path in its one spelling is one too, and so is the rest. -/
theorem exists_of_join_eq_append {front rest : Text} (hp : ∀ s ∈ ps, IsSegment s)
    (heq : join ['/'] ps = front ++ '/' :: rest) :
    ∃ fs ss, fs ≠ [] ∧ ss ≠ [] ∧ ps = fs ++ ss ∧ front = join ['/'] fs := by
  induction ps generalizing front with
  | nil => simp [join] at heq
  | cons s ps ih =>
    have hs := hp s List.mem_cons_self
    have hps : ∀ t ∈ ps, IsSegment t := fun t ht => hp t (List.mem_cons_of_mem s ht)
    by_cases hnil : ps = []
    · -- A path of one segment has no slash.
      subst hnil
      refine absurd ?_ hs.slash_not_mem
      rw [show s = front ++ '/' :: rest from heq]
      simp
    · rw [join_cons hnil, List.append_assoc, List.singleton_append,
        List.append_eq_append_iff] at heq
      rcases heq with ⟨more, rfl, hmore⟩ | ⟨more, rfl, hmore⟩
      · cases more with
        | nil =>
          exact ⟨[s], ps, List.cons_ne_nil s [], hnil, rfl, List.append_nil s⟩
        | cons c more =>
          obtain ⟨rfl, hjoin⟩ := List.cons.inj hmore
          obtain ⟨fs, ss, hfs, hss, rfl, rfl⟩ := ih hps hjoin
          refine ⟨s :: fs, ss, List.cons_ne_nil s fs, hss, rfl, ?_⟩
          rw [join_cons hfs, List.append_assoc, List.singleton_append]
      · cases more with
        | nil =>
          exact ⟨[front], ps, List.cons_ne_nil _ [], hnil, by rw [List.append_nil]; rfl, rfl⟩
        | cons c more =>
          obtain ⟨rfl, -⟩ := List.cons.inj hmore
          exact absurd (List.mem_append_right front List.mem_cons_self) hs.slash_not_mem

/-- What a path lies beneath is a folder in its one spelling. -/
theorem exists_of_liesBeneath (hbeneath : LiesBeneath folder (normalize name)) :
    normalize folder = folder ∧ ∃ ss, ss ≠ [] ∧ segments name = segments folder ++ ss := by
  obtain ⟨rest, -, heq⟩ := hbeneath
  rw [normalize_eq_join] at heq
  obtain ⟨fs, ss, -, hss, hsegments, rfl⟩ :=
    exists_of_join_eq_append (fun _ => isSegment_of_mem) heq
  have hfs : ∀ s ∈ fs, IsSegment s := fun s hs =>
    isSegment_of_mem (hsegments ▸ List.mem_append_left ss hs)
  rw [normalize_eq_join, segments_join hfs]
  exact ⟨rfl, ss, hss, hsegments⟩

theorem childPath_ne_nil (hh : IsSegment h) : childPath folder h ≠ [] := by
  unfold childPath
  split
  · exact hh.ne_nil
  · simp

theorem childPath_injective (folder : Text) : Function.Injective (childPath folder) := by
  intro h h' heq
  unfold childPath at heq
  split at heq
  · exact heq
  · exact (List.cons.inj (List.append_cancel_left heq)).2

theorem segments_childPath (hh : IsSegment h) :
    segments (childPath folder h) = segments folder ++ [h] := by
  unfold childPath
  split
  · next hnil =>
    subst hnil
    exact segments_of_isSegment hh
  · rw [segments_append_sep isSeparator_slash, segments_of_isSegment hh]

/-- A name in a folder has one spelling, however the folder is spelled. -/
theorem normalize_childPath (hh : IsSegment h) :
    normalize (childPath folder h) = childPath (normalize folder) h :=
  (normalize_eq_childPath hh).2 (segments_childPath hh)

/-- A path tells the folder and the name that it is put together from. -/
theorem childPath_inj (hh : IsSegment h) (hh' : IsSegment h')
    (heq : childPath folder h = childPath folder' h') :
    normalize folder = normalize folder' ∧ h = h' := by
  have hsegments : segments (childPath folder h) = segments folder ++ [h] := segments_childPath hh
  rw [heq, segments_childPath hh'] at hsegments
  obtain ⟨hfolder, hname⟩ := List.append_inj' hsegments rfl
  rw [normalize_eq_join, normalize_eq_join, hfolder]
  exact ⟨rfl, (List.cons.inj hname).1.symm⟩

/-- A path other than the root's is that of a name in a folder. -/
theorem exists_childPath (hnormal : normalize path = path) (hne : path ≠ []) :
    ∃ folder h, normalize folder = folder ∧ IsSegment h ∧ path = childPath folder h := by
  have hsegments : segments path ≠ [] := by
    intro hnil
    rw [normalize_eq_join, hnil] at hnormal
    exact hne hnormal.symm
  obtain ⟨fs, h, hsplit⟩ : ∃ fs h, segments path = fs ++ [h] :=
    ⟨_, _, (List.dropLast_concat_getLast hsegments).symm⟩
  have hfs : ∀ s ∈ fs, IsSegment s := fun s hs =>
    isSegment_of_mem (hsplit ▸ List.mem_append_left [h] hs)
  refine ⟨join ['/'] fs, h, ?_, ?_, ?_⟩
  · rw [normalize_eq_join, segments_join hfs]
  · exact isSegment_of_mem (hsplit ▸ List.mem_append_right fs (List.mem_singleton_self h))
  · rw [childPath_join hfs, ← hsplit, ← normalize_eq_join, hnormal]

end Children

end JarLens.Entry
