import JarLens.Project.Detection
import JarLens.Proofs.Files.Resolving

/-!
# Roots of projects

On one machine the root of a project tells which project it is (`detect_eq_of_root`): what is found
depends on the files and on the paths of the markers, and these are known from the path of the root.
For that no name on the way to a root may be empty, or two places would have one path; the places
that absolute paths resolve to have no such names.
-/

namespace JarLens

open JarLens.Text

/-! ## Names on the way to a place -/

/-- No name on the way to the place is empty. -/
def Place.IsProper (place : Place) : Prop :=
  ∀ name ∈ place, name ≠ []

namespace Place

variable {place place' : Place}

theorem isProper_nil : IsProper [] := fun _ h => absurd h List.not_mem_nil

theorem IsProper.concat (h : place.IsProper) {name : Text} (hname : name ≠ []) :
    IsProper (place ++ [name]) := by
  intro other hother
  rcases List.mem_append.1 hother with hmem | hmem
  · exact h other hmem
  · exact List.mem_singleton.1 hmem ▸ hname

theorem IsProper.take (h : place.IsProper) (k : Nat) : IsProper (place.take k) :=
  fun name hname => h name (List.mem_of_mem_take hname)

theorem IsProper.dropLast (h : place.IsProper) : IsProper place.dropLast :=
  fun name hname => h name (List.dropLast_subset place hname)

theorem toText_eq_slash (h : place.IsProper) : place.toText = ['/'] ↔ place = [] := by
  constructor
  · intro heq
    cases place with
    | nil => rfl
    | cons name rest =>
      have hname := h name List.mem_cons_self
      cases rest <;> simp [toText, join, hname] at heq
  · rintro rfl
    rfl

/-- The path of what lies in a folder is known from the folder's path. -/
theorem toText_concat_congr (h : place.IsProper) (h' : place'.IsProper)
    (heq : place.toText = place'.toText) (name : Text) :
    (place ++ [name]).toText = (place' ++ [name]).toText := by
  by_cases hne : place = []
  · have hne' : place' = [] := by rw [← toText_eq_slash h', ← heq, hne]; rfl
    rw [hne, hne']
  · have hne' : place' ≠ [] := by
      intro hnil
      exact hne ((toText_eq_slash h).1 (by rw [heq, hnil]; rfl))
    rw [toText_concat hne, toText_concat hne', heq]

theorem IsProper.next (h : place.IsProper) (name : Text) : IsProper (place.next name) := by
  unfold Place.next
  split
  · exact h
  · next hstays =>
    split
    · exact h.dropLast
    · exact h.concat fun hnil => hstays (by simp [hnil])

/-- Names lead from such a place to such a place, for an empty name leads nowhere. -/
theorem IsProper.follow (h : place.IsProper) (names : List Text) :
    IsProper (place.follow names) := by
  induction names generalizing place with
  | nil => exact h
  | cons name names ih => exact ih (h.next name)

end Place

/-! ## Where absolute paths lead -/

theorem PathName.slashes_ofText_cons_slash (t : Text) : (ofText ('/' :: t)).slashes ≠ 0 := by
  show leadingSlashes ('/' :: t) ≠ 0
  unfold leadingSlashes
  split <;> simp_all

/-- An absolute path names a place without empty names. -/
theorem isProper_of_place {m : Machine} {t : Text} {place : Place}
    (h : m.place ('/' :: t) = .ok place) : place.IsProper := by
  have hslashes := PathName.slashes_ofText_cons_slash t
  obtain ⟨name, here, found, hname, -, rfl, hhere⟩ := Machine.exists_of_place h
  have hexpand : m.expandHome (PathName.ofText ('/' :: t)) = .ok (PathName.ofText ('/' :: t)) := by
    unfold Machine.expandHome
    split
    · next hzero _ => exact absurd hzero hslashes
    · rfl
  rw [hexpand] at hname
  cases hname
  have hstart : (if found.path.isAbsolute then [] else here : Place) = [] := by
    rw [hhere (by simpa [PathName.isAbsolute] using hslashes), ite_self]
  unfold Files.Resolved.place
  rw [hstart]
  exact Place.isProper_nil.follow _

/-! ## Projects -/

section Projects

variable {files : Files} {folder folder' : Place}

/-- What is found in a folder is known from the folder's path. -/
theorem projectAt?_congr (h : folder.IsProper) (h' : folder'.IsProper)
    (heq : folder.toText = folder'.toText) : projectAt? files folder = projectAt? files folder' := by
  have hmarkers : ∀ names, markersIn files folder names = markersIn files folder' names := by
    intro names
    unfold markersIn
    simp only [Place.toText_concat_congr h h' heq]
  unfold projectAt?
  simp only [hmarkers, heq]

/-- What a search finds was found at one of its places. -/
theorem exists_of_findSomeM? {ε α β : Type} {f : α → Except ε (Option β)} {xs : List α} {b : β}
    (h : xs.findSomeM? f = .ok (some b)) : ∃ x ∈ xs, f x = .ok (some b) := by
  induction xs with
  | nil => cases h
  | cons x xs ih =>
    rw [List.findSomeM?_cons] at h
    rcases hx : f x with e | _ | y <;> rw [hx] at h
    · cases h
    · obtain ⟨z, hz, hb⟩ := ih h
      exact ⟨z, List.mem_cons_of_mem x hz, hb⟩
    · cases h
      exact ⟨x, List.mem_cons_self, hx⟩

/-- A project that is found in a folder has this root, and a kind with markers. -/
theorem root_and_kind_of_projectAt? {found : Detection}
    (h : projectAt? files folder = .ok (some found)) :
    found.root = some folder.toText ∧ ∃ names, (found.kind, names) ∈ ProjectKind.markers := by
  unfold projectAt? at h
  obtain ⟨⟨kind, names⟩, hrule, hkind⟩ := exists_of_findSomeM? h
  dsimp only at hkind
  rcases hmarkers : markersIn files folder names with e | _ | ⟨name, more⟩ <;>
    rw [hmarkers] at hkind
  · cases hkind
  · cases hkind
  · cases hkind
    exact ⟨rfl, names, hrule⟩

end Projects

/-- A project that is found from an absolute path is the one of its root. -/
theorem exists_of_detect {m : Machine} {t root : Text} {found : Detection}
    (h : m.detect ('/' :: t) = .ok found) (hroot : found.root = some root) :
    ∃ folder : Place, folder.IsProper ∧ root = folder.toText ∧
      projectAt? m.files folder = .ok (some found) := by
  unfold Machine.detect at h
  obtain ⟨place, hplace, h⟩ := exists_of_bind_eq_ok (eq_ok_of_mapError h)
  obtain ⟨isFile, -, h⟩ := exists_of_bind_eq_ok h
  obtain ⟨above, habove, h⟩ := exists_of_bind_eq_ok h
  have hstart : Place.IsProper (if isFile then place.dropLast else place) := by
    split
    · exact (isProper_of_place hplace).dropLast
    · exact isProper_of_place hplace
  cases above with
  | none =>
    cases h
    cases hroot
  | some found' =>
    cases h
    obtain ⟨folder, hmem, hfolder⟩ := exists_of_findSomeM? habove
    obtain ⟨k, -, rfl⟩ := List.mem_map.1 hmem
    refine ⟨_, hstart.take _, ?_, hfolder⟩
    exact Option.some.inj (hroot.symm.trans (root_and_kind_of_projectAt? hfolder).1)

/-- Paths with one root are owned by one project. -/
theorem detect_eq_of_root {m : Machine} {t t' root : Text} {found found' : Detection}
    (h : m.detect ('/' :: t) = .ok found) (h' : m.detect ('/' :: t') = .ok found')
    (hroot : found.root = some root) (hroot' : found'.root = some root) : found = found' := by
  obtain ⟨folder, hproper, hfolder, hfound⟩ := exists_of_detect h hroot
  obtain ⟨folder', hproper', hfolder', hfound'⟩ := exists_of_detect h' hroot'
  rw [projectAt?_congr hproper hproper' (hfolder.symm.trans hfolder'), hfound'] at hfound
  cases hfound
  rfl

end JarLens
