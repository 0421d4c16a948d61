import JarLens.Proofs.Files.Resolving

/-!
# Beyond a place

What the system says of a place tells something of what would lie in it, though the marks of a path
are looked for by their own paths. Where a place is refused, so is everything in it
(`find_concat_of_refused`), and nothing lies in a file (`find_concat_of_file`). Both come from what
a single name leads to (`nameLeads`), by induction on the names and on the links that are followed.
-/

namespace JarLens

open JarLens.Text

namespace Files

/-! ## One name -/

/-- What following a name and others after it comes to, by what the name leads to. -/
inductive NameLeads (files : Files) (onLink : Way → List Text → Except PathFault Spot)
    (follow : List Text → Except PathFault Spot) : Prop
  /-- To a folder, from which the others are followed. -/
  | on (way : Way) (h : ∀ rest, follow rest = walkWith files true onLink way rest)
  | link (way : Way) (names : List Text) (h : ∀ rest, follow rest = onLink way (names ++ rest))
  /-- To what holds nothing, so that no other can come after it. -/
  | last (spot : Spot) (fault : PathFault) (h : follow [] = .ok spot)
      (hrest : ∀ name rest, follow (name :: rest) = .error fault)
  | refused (fault : PathFault) (h : ∀ rest, follow rest = .error fault)

section Beyond

variable {files : Files} {onLink : Way → List Text → Except PathFault Spot}

/-- A name leads on, or is the last that can come, or is refused, whatever names come after it. -/
theorem nameLeads (files : Files) (onLink : Way → List Text → Except PathFault Spot) (above : Way)
    (name : Text) :
    NameLeads files onLink fun rest => walkWith files true onLink above (name :: rest) := by
  simp only [walkWith]
  by_cases hnil : name = []
  · exact .on above fun rest => if_pos hnil
  simp only [if_neg hnil]
  split
  · exact .refused .denied fun _ => rfl
  by_cases hdot : name = ['.']
  · exact .on above fun rest => if_pos hdot
  simp only [if_neg hdot]
  by_cases hdots : name = ['.', '.']
  · exact .on above.tail fun rest => if_pos hdots
  simp only [if_neg hdots]
  split
  · exact .refused .tooLong fun _ => rfl
  split
  · cases files.names.at? (Way.place above) with
    | none => exact .refused .missing fun rest => by simp
    | some _ => exact .last _ .missing rfl fun name rest => by simp
  · next tree _ =>
    split
    · next target _ =>
      exact .link (if target.head? = some '/' then [] else above) (splitOn '/' target)
        fun rest => by simp
    · exact .on _ fun rest => rfl
    · exact .last _ .notFolder rfl fun name rest => rfl

/-! ## More names -/

/-- Names that are refused are refused with more names after them. -/
def RefusesOn (follow : Way → List Text → Except PathFault Spot) : Prop :=
  ∀ above names fault, follow above names = .error fault →
    ∀ more, follow above (names ++ more) = .error fault

/-- Nothing can come after a name that leads to a file. -/
def EndsAtFiles (follow : Way → List Text → Except PathFault Spot) : Prop :=
  ∀ above names place content mode, follow above names = .ok ⟨place, some (.file content mode)⟩ →
    ∀ name, name ≠ [] → ∃ fault, follow above (names ++ [name]) = .error fault

/-- What is refused is refused with more names as well, by induction over the names. -/
theorem refusesOn_walkWith (honLink : RefusesOn onLink) :
    RefusesOn (walkWith files true onLink) := by
  intro above names
  induction names generalizing above with
  | nil =>
    intro fault h
    cases h
  | cons name rest ih =>
    intro fault h more
    rw [List.cons_append]
    cases nameLeads files onLink above name with
    | on way hfollow =>
      rw [hfollow] at h ⊢
      exact ih way fault h more
    | link way names hfollow =>
      rw [hfollow] at h
      rw [hfollow, ← List.append_assoc]
      exact honLink way _ fault h more
    | last spot fault' hlast hrest =>
      -- Alone the name is not refused; a name after it is refused whatever comes then.
      cases rest with
      | nil =>
        rw [hlast] at h
        cases h
      | cons other rest =>
        rw [hrest] at h
        rw [← h]
        exact hrest other (rest ++ more)
    | refused fault' hfollow =>
      rw [hfollow] at h ⊢
      exact h

/-- By induction over the links that may be followed, this holds with links on the way. -/
theorem refusesOn_walkNames (files : Files) (links : Nat) :
    RefusesOn (walkNames files true links) := by
  induction links with
  | zero =>
    have hnone : RefusesOn fun _ _ => .error .linkLoop := fun _ _ _ h _ => h
    exact refusesOn_walkWith hnone
  | succ links ih => exact refusesOn_walkWith ih

/-- Where names lead to a file, more names lead nowhere, by induction over the names. -/
theorem endsAtFiles_walkWith (honLink : EndsAtFiles onLink) :
    EndsAtFiles (walkWith files true onLink) := by
  intro above names
  induction names generalizing above with
  | nil =>
    intro place content mode h name hne
    rw [walkWith] at h
    obtain ⟨-, hnode⟩ := Spot.mk.inj (Except.ok.inj h)
    refine ⟨.denied, ?_⟩
    rw [List.nil_append, walkWith, if_neg hne, hnode]
    rfl
  | cons name rest ih =>
    intro place content mode h last hne
    rw [List.cons_append]
    cases nameLeads files onLink above name with
    | on way hfollow =>
      rw [hfollow] at h ⊢
      exact ih way place content mode h last hne
    | link way names hfollow =>
      rw [hfollow] at h
      rw [hfollow, ← List.append_assoc]
      exact honLink way _ place content mode h last hne
    | last spot fault hlast hrest =>
      cases rest with
      | nil => exact ⟨fault, hrest last []⟩
      | cons other rest =>
        rw [hrest] at h
        cases h
    | refused fault hfollow => exact ⟨fault, hfollow _⟩

theorem endsAtFiles_walkNames (files : Files) (links : Nat) :
    EndsAtFiles (walkNames files true links) := by
  induction links with
  | zero => exact endsAtFiles_walkWith fun _ _ _ _ _ h => by cases h
  | succ links ih => exact endsAtFiles_walkWith ih

/-! ## Paths of places -/

variable {place : Place} {name : Text} {fault : PathFault}

/-- The path of what lies in a place is too long, or both paths are followed name by name. -/
theorem walk_concat_cases (files : Files) (h : ∀ other ∈ place ++ [name], IsPlaceName other) :
    files.walk true [] (place ++ [name]).toText = .error .tooLong ∨
      files.walk true [] place.toText = walkNames files true linkLimit [] place ∧
      files.walk true [] (place ++ [name]).toText =
        walkNames files true linkLimit [] (place ++ [name]) := by
  have hplace : ∀ other ∈ place, IsPlaceName other :=
    fun other hother => h other (List.mem_append_left _ hother)
  rw [walk_toText files true h, walk_toText files true hplace]
  by_cases hlong : pathLimit < byteLength (place ++ [name]).toText
  · exact .inl (if_pos hlong)
  · have hshort : ¬pathLimit < byteLength place.toText :=
      fun hlong' => hlong (Nat.lt_of_lt_of_le hlong' (byteLength_toText_le place name))
    exact .inr ⟨if_neg hshort, if_neg hlong⟩

/-- Nothing is looked at beyond a place at which the system refuses to look. -/
theorem find_concat_of_refused (h : ∀ other ∈ place ++ [name], IsPlaceName other)
    (hfind : files.find [] place.toText = .error fault)
    (hfault : fault = .denied ∨ fault = .tooLong) :
    ∃ fault', files.find [] (place ++ [name]).toText = .error fault' ∧
      (fault' = .denied ∨ fault' = .tooLong) := by
  rcases walk_concat_cases files h with hlong | ⟨hplace, hbeyond⟩
  · exact ⟨.tooLong, by rw [find, hlong], .inr rfl⟩
  · refine ⟨fault, ?_, hfault⟩
    rw [find, hplace] at hfind
    rw [find, hbeyond]
    split at hfind
    · cases hfind
    · cases hfind
      simp at hfault
    · next refused hwalk =>
      cases hfind
      rw [refusesOn_walkNames files linkLimit _ _ _ hwalk]

/-- Nothing lies beyond a file. -/
theorem find_concat_of_file (h : ∀ other ∈ place ++ [name], IsPlaceName other)
    {content : ByteArray} {mode : Nat}
    (hfind : files.find [] place.toText = .ok (.file content mode)) :
    ∃ fault, files.find [] (place ++ [name]).toText = .error fault := by
  rcases walk_concat_cases files h with hlong | ⟨hplace, hbeyond⟩
  · exact ⟨.tooLong, by rw [find, hlong]⟩
  · rw [find, hplace] at hfind
    rw [find, hbeyond]
    split at hfind
    · next hwalk =>
      cases hfind
      have hname := h name (List.mem_append_right _ (List.mem_singleton_self name))
      obtain ⟨fault, hrefused⟩ :=
        endsAtFiles_walkNames files linkLimit _ _ _ _ _ hwalk name hname.ne_nil
      exact ⟨fault, by rw [hrefused]⟩
    · cases hfind
    · cases hfind

end Beyond

end Files
end JarLens
