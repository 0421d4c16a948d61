import JarLens.Proofs.Project.Nearest

/-!
# Projects looked for again

The root of a project is looked for once more when something is to run in it, perhaps after the
files have changed. As long as the markers in the root are the same (`Files.SameMarkers`) the same
project is found there (`detect_root`), since the root is the nearest marked folder to itself.
-/

namespace JarLens

open Files

/-! ## What a marker tells -/

section Marks

variable {files files' : Files} {folder : Place} {name : Text}

theorem isThere_eq_ok {there : Bool} (h : isThere files (folder ++ [name]).toText = .ok there) :
    files.refuses folder name = false ∧ files.holds folder name = there := by
  have hrefuses : files.refuses folder name = false := by
    unfold isThere Files.has at h
    unfold refuses
    split
    · next hfind =>
      rw [hfind] at h
      cases h
    · next hfind =>
      rw [hfind] at h
      cases h
    · rfl
  rw [isThere_of_not_refuses hrefuses] at h
  exact ⟨hrefuses, Except.ok.inj h⟩

theorem of_filterAuxM_eq_ok {ε α : Type} {f : α → Except ε Bool} {xs acc out : List α}
    (h : List.filterAuxM f xs acc = .ok out) :
    (∀ x ∈ xs, ∃ b, f x = .ok b) ∧ ∀ x ∈ out, x ∈ acc ∨ x ∈ xs ∧ f x = .ok true := by
  induction xs generalizing acc with
  | nil =>
    cases h
    exact ⟨fun x hx => absurd hx List.not_mem_nil, fun x hx => .inl hx⟩
  | cons x xs ih =>
    rw [List.filterAuxM] at h
    obtain ⟨b, hb, h⟩ := exists_of_bind_eq_ok h
    obtain ⟨hall, hout⟩ := ih h
    refine ⟨List.forall_mem_cons.2 ⟨⟨b, hb⟩, hall⟩, fun y hy => ?_⟩
    rcases hout y hy with hacc | ⟨hmem, htrue⟩
    · cases b with
      | false => exact .inl hacc
      | true =>
        rcases List.mem_cons.1 hacc with rfl | hbefore
        · exact .inr ⟨List.mem_cons_self, hb⟩
        · exact .inl hbefore
    · exact .inr ⟨List.mem_cons_of_mem x hmem, htrue⟩

/-- Markers that are found were looked for without a refusal, and are held. -/
theorem of_markersIn_eq_ok {names found : List Text}
    (h : markersIn files folder names = .ok found) :
    (∀ name ∈ names, files.refuses folder name = false) ∧
      ∀ name ∈ found, name ∈ names ∧ files.holds folder name = true := by
  unfold markersIn List.filterM at h
  obtain ⟨out, hout, h⟩ := exists_of_bind_eq_ok h
  cases h
  obtain ⟨hall, hfound⟩ := of_filterAuxM_eq_ok hout
  constructor
  · intro name hname
    obtain ⟨there, hthere⟩ := hall name hname
    exact (isThere_eq_ok hthere).1
  · intro name hname
    rcases hfound name (List.mem_reverse.1 hname) with hnil | ⟨hmem, htrue⟩
    · exact absurd hnil List.not_mem_nil
    · exact ⟨hmem, (isThere_eq_ok htrue).2⟩

/-- The root of a project is marked, and can be looked into. -/
theorem of_projectAt?_eq_some {found : Detection}
    (h : projectAt? files folder = .ok (some found)) :
    files.refuses folder mavenMarker = false ∧ IsMarked files folder := by
  constructor
  · rw [projectAt?, ProjectKind.markers_eq, List.findSomeM?_cons] at h
    cases hmaven : markersIn files folder [mavenMarker] with
    | error trouble =>
      dsimp only at h
      rw [hmaven] at h
      cases h
    | ok names => exact (of_markersIn_eq_ok hmaven).1 mavenMarker List.mem_cons_self
  · obtain ⟨⟨kind, names⟩, hrule, hkind⟩ := exists_of_findSomeM? h
    dsimp only at hkind
    rcases hmarkers : markersIn files folder names with trouble | _ | ⟨name, more⟩ <;>
      rw [hmarkers] at hkind
    · cases hkind
    · cases hkind
    · obtain ⟨hmem, hholds⟩ := (of_markersIn_eq_ok hmarkers).2 name List.mem_cons_self
      have hname : name ∈ ProjectKind.markers.flatMap (·.2) := List.mem_flatMap.2 ⟨_, hrule, hmem⟩
      exact ⟨name, hname, hholds⟩

end Marks

/-! ## The root of a root -/

/-- The root names a folder where the markers are the same in two states of the files. -/
def Files.SameMarkers (files files' : Files) (root : Text) : Prop :=
  ∃ folder : Place, root = folder.toText ∧ files'.IsReal folder ∧ ∀ name ∈ markerNames,
    isThere files' (folder ++ [name]).toText = isThere files (folder ++ [name]).toText

section Roots

variable {files files' : Files} {folder : Place} {m m' : Machine} {found : Detection}

theorem isProper_of_isReal (h : files.IsReal folder) : folder.IsProper :=
  fun name hname => (h.isPlaceName name hname).ne_nil

theorem filterM_congr {ε α : Type} {f g : α → Except ε Bool} {xs : List α}
    (h : ∀ x ∈ xs, f x = g x) : xs.filterM f = xs.filterM g := by
  have haux : ∀ acc, List.filterAuxM f xs acc = List.filterAuxM g xs acc := by
    induction xs with
    | nil => exact fun acc => rfl
    | cons x xs ih =>
      intro acc
      simp only [List.filterAuxM, h x List.mem_cons_self,
        ih fun y hy => h y (List.mem_cons_of_mem x hy)]
  rw [List.filterM, List.filterM, haux]

/-- The project in a folder is known from what is told of its markers. -/
theorem projectAt?_of_sameMarkers
    (h : ∀ name ∈ markerNames,
      isThere files' (folder ++ [name]).toText = isThere files (folder ++ [name]).toText) :
    projectAt? files' folder = projectAt? files folder := by
  have hmarkers : ∀ names ⊆ markerNames,
      markersIn files' folder names = markersIn files folder names :=
    fun names hnames => filterM_congr fun name hname => h name (hnames hname)
  have hmaven : [mavenMarker] ⊆ markerNames :=
    List.cons_subset.2 ⟨List.mem_cons_self, List.nil_subset _⟩
  have hgradle : gradleMarkers ⊆ markerNames := List.subset_cons_self _ _
  simp only [projectAt?, ProjectKind.markers_eq, List.findSomeM?, hmarkers _ hmaven,
    hmarkers _ hgradle]

/-- A marked folder is the nearest one to itself. -/
theorem projectAbove_of_projectAt? (h : projectAt? files folder = .ok (some found)) :
    projectAbove files folder = .ok found := by
  have hupward : ∃ above, folder.upward = folder :: above := by
    rcases List.eq_nil_or_concat' folder with rfl | ⟨place, name, rfl⟩
    · exact ⟨[], Place.upward_nil⟩
    · exact ⟨_, Place.upward_concat place name⟩
  obtain ⟨above, habove⟩ := hupward
  rw [projectAbove, habove, List.findSomeM?_cons, h]
  rfl

/-- The path of a marked folder leads to the project in it, unless there is a NUL character in
it. -/
theorem detect_of_projectAt? (hreal : m.files.IsReal folder)
    (h : projectAt? m.files folder = .ok (some found)) :
    m.detect folder.toText = .ok found ∨ m.detect folder.toText = .error (.badPath .nul) := by
  by_cases hnul : folder.any ('\x00' ∈ ·) = true
  · right
    have hplace : m.place folder.toText = .error .nul := by
      have hexpand : m.expandHome (PathName.ofText folder.toText) = .ok ⟨1, folder⟩ := by
        rw [PathName.ofText_toText_of_isReal hreal]
        rfl
      unfold Machine.place
      simp only [hexpand, bind, Except.bind, hnul, ↓reduceIte]
      rfl
    unfold Machine.detect
    rw [hplace]
    rfl
  · left
    have hnames : ∀ name ∈ folder, '\x00' ∉ name := by simpa using hnul
    obtain ⟨hlook, hmarked⟩ := of_projectAt?_eq_some h
    obtain ⟨isFile, hfile, hnot⟩ := exists_isFile_eq hreal hlook
    refine detect_eq_ok (place_toText hreal hnames) hfile ?_
    cases isFile with
    | false => exact projectAbove_of_projectAt? h
    | true => exact absurd hmarked (hnot rfl)

/-- While the markers in its root are the same, a project is found there again. -/
theorem detect_root {t root : Text} (h : m.detect ('/' :: t) = .ok found)
    (hroot : found.root = some root) (hsame : m.files.SameMarkers m'.files root) :
    m'.detect root = .ok found ∨ m'.detect root = .error (.badPath .nul) := by
  obtain ⟨folder, hproper, hfolder, hproject⟩ := exists_of_detect h hroot
  obtain ⟨folder', hfolder', hreal, hmarkers⟩ := hsame
  rw [projectAt?_congr hproper (isProper_of_isReal hreal) (hfolder.symm.trans hfolder'),
    ← projectAt?_of_sameMarkers hmarkers] at hproject
  rw [hfolder']
  exact detect_of_projectAt? hreal hproject

end Roots

end JarLens
