import JarLens.Proofs.Files.Beyond
import JarLens.Proofs.Project.Roots
import Mathlib.Data.List.Induction
import Mathlib.Data.List.Infix

/-!
# The nearest project

A folder is marked if something that can be read lies in it by the name of a marker. Going up from a
place leads to the nearest marked folder (`findSomeM?_upward_of_isNearest`), by induction on the
place: a step either ends at the place or leaves the same folder the nearest one above. In each
folder the search looks for Maven's marker, and for those of Gradle only if that one is not found
(`LetsLookIn`). The main statement `detect_nearest` says this of the place that a path names, and
that on the way up to the root every real place belongs to the same project.
-/

namespace JarLens

open Files

/-! ## Marked folders -/

def mavenMarker : Text := "pom.xml".toList

def gradleMarkers : List Text :=
  ["build.gradle".toList, "build.gradle.kts".toList, "settings.gradle".toList,
    "settings.gradle.kts".toList]

theorem ProjectKind.markers_eq : markers = [(maven, [mavenMarker]), (gradle, gradleMarkers)] := rfl

def markerNames : List Text :=
  mavenMarker :: gradleMarkers

/-- Whether something that can be read lies in a folder by a name. -/
def Files.holds (files : Files) (folder : Place) (name : Text) : Bool :=
  match files.find [] (folder ++ [name]).toText with
  | .ok node => node.isReadable
  | .error _ => false

/-- Whether the system refuses to look for a name in a folder. -/
def Files.refuses (files : Files) (folder : Place) (name : Text) : Bool :=
  match files.find [] (folder ++ [name]).toText with
  | .error .denied | .error .tooLong => true
  | _ => false

/-- A marker lies in the folder. -/
def IsMarked (files : Files) (folder : Place) : Prop :=
  ∃ name ∈ markerNames, files.holds folder name = true

/-- The system refuses no look that the search takes in a folder: for Gradle's markers it looks only
if Maven's is not found. -/
structure LetsLookIn (files : Files) (folder : Place) : Prop where
  maven : files.refuses folder mavenMarker = false
  gradle : files.holds folder mavenMarker = false →
    ∀ name ∈ gradleMarkers, files.refuses folder name = false

/-- The project whose root is a marked folder. -/
def projectIn (files : Files) (folder : Place) : Detection :=
  if files.holds folder mavenMarker then
    { kind := .maven, root := some folder.toText, markers := [mavenMarker] }
  else
    { kind := .gradle, root := some folder.toText
      markers := gradleMarkers.filter (files.holds folder) }

section Marks

variable {files : Files} {folder : Place} {name : Text}

theorem isPlaceName_of_mem_markerNames (h : name ∈ markerNames) : IsPlaceName name := by
  have hall : ∀ name ∈ markerNames,
      name ≠ [] ∧ name ≠ ['.'] ∧ name ≠ ['.', '.'] ∧ '/' ∉ name := by
    decide
  obtain ⟨hnil, hdot, hdots, hslash⟩ := hall name h
  exact ⟨⟨hnil, hdot, hdots⟩, hslash⟩

theorem isThere_of_not_refuses (h : files.refuses folder name = false) :
    isThere files (folder ++ [name]).toText = .ok (files.holds folder name) := by
  unfold refuses at h
  unfold isThere Files.has holds
  split
  · next hfind =>
    rw [hfind]
    rfl
  · next hfind =>
    rw [hfind] at h
    cases h
  · next hfind =>
    rw [hfind] at h
    cases h
  · next hfind =>
    rw [hfind]
    rfl

theorem filterAuxM_eq_ok {ε α : Type} {f : α → Except ε Bool} {p : α → Bool} {xs : List α}
    (h : ∀ x ∈ xs, f x = .ok (p x)) (acc : List α) :
    List.filterAuxM f xs acc = .ok ((xs.filter p).reverse ++ acc) := by
  induction xs generalizing acc with
  | nil => rfl
  | cons x xs ih =>
    have hrest := ih fun y hy => h y (List.mem_cons_of_mem x hy)
    rw [List.filterAuxM, h x List.mem_cons_self]
    cases hx : p x with
    | true =>
      show List.filterAuxM f xs (x :: acc) = _
      simp [hrest, hx]
    | false =>
      show List.filterAuxM f xs acc = _
      simp [hrest, hx]

/-- Where no look is refused, the markers that lie in a folder are found in their order. -/
theorem markersIn_eq {names : List Text} (h : ∀ name ∈ names, files.refuses folder name = false) :
    markersIn files folder names = .ok (names.filter (files.holds folder)) := by
  have hthere := filterAuxM_eq_ok (fun name hname => isThere_of_not_refuses (h name hname)) []
  unfold markersIn List.filterM
  rw [hthere]
  simp [pure, Except.pure, bind, Except.bind]

/-- What is found in a folder for one kind of project. -/
def projectOf? (files : Files) (folder : Place) (kind : ProjectKind) (names : List Text) :
    Option Detection :=
  match names.filter (files.holds folder) with
  | [] => none
  | found => some { kind, root := some folder.toText, markers := found }

theorem projectOf?_eq_none_iff {kind : ProjectKind} {names : List Text} :
    projectOf? files folder kind names = none ↔
      ∀ name ∈ names, ¬files.holds folder name = true := by
  rw [projectOf?, ← List.filter_eq_nil_iff]
  split
  · next hnone => exact iff_of_true rfl hnone
  · next hfound => exact iff_of_false (by simp) hfound

/-- Gradle's markers count where Maven's is not found. -/
theorem projectAt?_eq (h : LetsLookIn files folder) :
    projectAt? files folder = .ok ((projectOf? files folder .maven [mavenMarker]).or
      (projectOf? files folder .gradle gradleMarkers)) := by
  have hmaven : ∀ name ∈ [mavenMarker], files.refuses folder name = false :=
    fun name hname => List.mem_singleton.1 hname ▸ h.maven
  rw [projectAt?, ProjectKind.markers_eq, List.findSomeM?_cons]
  dsimp only
  rw [markersIn_eq hmaven]
  cases hholds : files.holds folder mavenMarker with
  | true => simp [projectOf?, hholds, bind, Except.bind, pure, Except.pure]
  | false =>
    rw [List.findSomeM?_cons]
    dsimp only
    rw [markersIn_eq (h.gradle hholds)]
    cases hfound : gradleMarkers.filter (files.holds folder) <;>
      simp [projectOf?, hholds, hfound, bind, Except.bind, pure, Except.pure]

/-- In a marked folder the project of its first kind is found. -/
theorem projectAt?_of_isMarked (h : LetsLookIn files folder) (hmarked : IsMarked files folder) :
    projectAt? files folder = .ok (some (projectIn files folder)) := by
  rw [projectAt?_eq h, projectIn]
  cases hmaven : files.holds folder mavenMarker with
  | true => simp [projectOf?, hmaven]
  | false =>
    have hgradle : gradleMarkers.filter (files.holds folder) ≠ [] := by
      obtain ⟨name, hname, hholds⟩ := hmarked
      rcases List.mem_cons.1 hname with rfl | hmem
      · rw [hmaven] at hholds
        cases hholds
      · exact List.ne_nil_of_mem (List.mem_filter.2 ⟨hmem, hholds⟩)
    have hnone : projectOf? files folder .maven [mavenMarker] = none :=
      projectOf?_eq_none_iff.2 (by simp [hmaven])
    rw [hnone, Option.none_or, projectOf?]
    split
    · next hnil => exact absurd hnil hgradle
    · rfl

/-- In a folder without markers the search goes on. -/
theorem projectAt?_of_not_isMarked (h : LetsLookIn files folder)
    (hmarked : ¬IsMarked files folder) : projectAt? files folder = .ok none := by
  have hnone : ∀ name ∈ markerNames, ¬files.holds folder name = true :=
    fun name hname hholds => hmarked ⟨name, hname, hholds⟩
  obtain ⟨hmaven, hgradle⟩ := List.forall_mem_cons.1 hnone
  have hmaven' : ∀ name ∈ [mavenMarker], ¬files.holds folder name = true :=
    fun name hname => List.mem_singleton.1 hname ▸ hmaven
  rw [projectAt?_eq h, projectOf?_eq_none_iff.2 hmaven', projectOf?_eq_none_iff.2 hgradle]
  rfl

end Marks

/-! ## Going up -/

theorem Place.upward_nil : upward [] = [[]] := rfl

theorem Place.upward_concat (place : Place) (name : Text) :
    upward (place ++ [name]) = (place ++ [name]) :: upward place := by
  unfold upward
  rw [List.length_append, List.length_singleton, List.range_succ_eq_map, List.map_cons,
    List.map_map]
  congr 1
  · exact List.take_of_length_le (by simp)
  · refine List.map_congr_left fun k hk => ?_
    have hle : place.length + 1 - (k + 1) ≤ place.length := by omega
    show (place ++ [name]).take (place.length + 1 - (k + 1)) = _
    rw [List.take_append_of_le_length hle]
    congr 1
    omega

/-- The marked folder that is the nearest one, going up from a place. -/
structure IsNearest (files : Files) (start folder : Place) : Prop where
  above : folder <+: start
  marked : IsMarked files folder
  not_marked : ∀ between, folder <+: between → between <+: start → between ≠ folder →
    ¬IsMarked files between

/-- From a place up to a folder the system refuses no look that the search takes. -/
def LetsLook (files : Files) (start folder : Place) : Prop :=
  ∀ between, folder <+: between → between <+: start → LetsLookIn files between

section Upward

variable {files : Files} {start folder place : Place}

theorem IsNearest.restrict (h : IsNearest files start folder) (habove : folder <+: place)
    (hplace : place <+: start) : IsNearest files place folder where
  above := habove
  marked := h.marked
  not_marked between hfolder hbetween := h.not_marked between hfolder (hbetween.trans hplace)

theorem LetsLook.mono (h : LetsLook files start folder) (hplace : place <+: start) :
    LetsLook files place folder :=
  fun between hfolder hbetween => h between hfolder (hbetween.trans hplace)

/-- There is a nearest marked folder, or none is marked. -/
theorem isNearest_cases (files : Files) (start : Place) :
    (∃ folder, IsNearest files start folder) ∨
      ∀ folder, folder <+: start → ¬IsMarked files folder := by
  induction start using List.reverseRecOn with
  | nil =>
    by_cases hmarked : IsMarked files []
    · refine .inl ⟨[], List.prefix_refl [], hmarked, fun between _ hbetween hne => ?_⟩
      exact absurd (List.prefix_nil.1 hbetween) hne
    · refine .inr fun folder hfolder => ?_
      rwa [List.prefix_nil.1 hfolder]
  | append_singleton place name ih =>
    by_cases hmarked : IsMarked files (place ++ [name])
    · refine .inl ⟨place ++ [name], List.prefix_refl _, hmarked,
        fun between habove hbetween hne => ?_⟩
      exact absurd (habove.eq_of_length_le hbetween.length_le).symm hne
    · refine ih.imp ?_ ?_
      · rintro ⟨folder, h⟩
        refine ⟨folder, h.above.trans (List.prefix_append place [name]), h.marked,
          fun between habove hbetween hne => ?_⟩
        rcases List.prefix_concat_iff.1 hbetween with rfl | hbefore
        · exact hmarked
        · exact h.not_marked between habove hbefore hne
      · intro hnone folder hfolder
        rcases List.prefix_concat_iff.1 hfolder with rfl | hbefore
        · exact hmarked
        · exact hnone folder hbefore

/-- By induction on the place, going up ends at the nearest marked folder. -/
theorem findSomeM?_upward_of_isNearest (h : IsNearest files start folder)
    (hlook : LetsLook files start folder) :
    start.upward.findSomeM? (projectAt? files) = .ok (some (projectIn files folder)) := by
  induction start using List.reverseRecOn with
  | nil =>
    obtain rfl := List.prefix_nil.1 h.above
    rw [Place.upward_nil, List.findSomeM?_cons,
      projectAt?_of_isMarked (hlook [] (List.prefix_refl []) h.above) h.marked]
    rfl
  | append_singleton place name ih =>
    have hhere := hlook (place ++ [name]) h.above (List.prefix_refl _)
    rw [Place.upward_concat, List.findSomeM?_cons]
    -- The nearest marked folder is the place, or the place is not marked and it lies farther up.
    rcases List.prefix_concat_iff.1 h.above with rfl | hbefore
    · rw [projectAt?_of_isMarked hhere h.marked]
      rfl
    · have hne : place ++ [name] ≠ folder := by
        rintro rfl
        have hle := hbefore.length_le
        rw [List.length_append, List.length_singleton] at hle
        omega
      rw [projectAt?_of_not_isMarked hhere (h.not_marked _ h.above (List.prefix_refl _) hne)]
      have hplace := List.prefix_append place [name]
      exact ih (h.restrict hbefore hplace) (hlook.mono hplace)

/-- By induction on the place, going up finds nothing where no folder is marked. -/
theorem findSomeM?_upward_of_not_isMarked (h : ∀ folder, folder <+: start → ¬IsMarked files folder)
    (hlook : LetsLook files start []) :
    start.upward.findSomeM? (projectAt? files) = .ok none := by
  induction start using List.reverseRecOn with
  | nil =>
    rw [Place.upward_nil, List.findSomeM?_cons, projectAt?_of_not_isMarked
      (hlook [] (List.prefix_refl []) (List.prefix_refl [])) (h [] (List.prefix_refl []))]
    rfl
  | append_singleton place name ih =>
    rw [Place.upward_concat, List.findSomeM?_cons, projectAt?_of_not_isMarked
      (hlook _ List.nil_prefix (List.prefix_refl _)) (h _ (List.prefix_refl _))]
    have hplace := List.prefix_append place [name]
    exact ih (fun folder hfolder => h folder (hfolder.trans hplace)) (hlook.mono hplace)

end Upward

/-! ## From the path of a place -/

section Machines

variable {m : Machine} {path : Text} {start folder place : Place}

theorem detect_eq_ok {isFile : Bool} {found : Detection} (hplace : m.place path = .ok place)
    (hfile : m.isFile place.toText = .ok isFile)
    (habove : projectAbove m.files (if isFile then place.dropLast else place) = .ok found) :
    m.detect path = .ok found := by
  unfold Machine.detect
  simp only [hplace, bind, Except.bind, hfile, habove]
  rfl

theorem projectAbove_of_isNearest {files : Files} (h : IsNearest files start folder)
    (hlook : LetsLook files start folder) :
    projectAbove files start = .ok (projectIn files folder) := by
  rw [projectAbove, findSomeM?_upward_of_isNearest h hlook]
  rfl

/-- What lies at a place can be told if the system lets look for a marker there. If it is a file, no
marker lies in it. -/
theorem exists_isFile_eq (hreal : m.files.IsReal place)
    (hlook : m.files.refuses place mavenMarker = false) :
    ∃ isFile, m.isFile place.toText = .ok isFile ∧ (isFile = true → ¬IsMarked m.files place) := by
  have hnames : ∀ name ∈ markerNames, ∀ other ∈ place ++ [name], IsPlaceName other := by
    intro name hname other hother
    rcases List.mem_append.1 hother with hmem | hmem
    · exact hreal.isPlaceName other hmem
    · exact List.mem_singleton.1 hmem ▸ isPlaceName_of_mem_markerNames hname
  unfold Machine.isFile
  by_cases hnul : '\x00' ∈ place.toText
  · exact ⟨false, if_pos hnul, fun h => by cases h⟩
  rw [if_neg hnul, m.find_toText]
  cases hfind : m.files.find [] place.toText with
  | ok node =>
    refine ⟨node.isFile, rfl, fun hfile => ?_⟩
    cases node with
    | file content mode =>
      rintro ⟨name, hname, hholds⟩
      obtain ⟨fault, hbeyond⟩ := find_concat_of_file (hnames name hname) hfind
      rw [holds, hbeyond] at hholds
      cases hholds
    | _ => cases hfile
  | error fault =>
    -- Where the place itself is refused, a marker in it would be refused as well.
    have hfault : ¬(fault = .denied ∨ fault = .tooLong) := by
      intro hrefused
      have hmaven : mavenMarker ∈ markerNames := List.mem_cons_self
      obtain ⟨fault', hbeyond, hfault'⟩ :=
        find_concat_of_refused (hnames mavenMarker hmaven) hfind hrefused
      rw [refuses, hbeyond] at hlook
      rcases hfault' with rfl | rfl <;> cases hlook
    refine ⟨false, ?_, fun h => by cases h⟩
    cases fault <;> first | rfl | simp at hfault

/-- From a place on the way up to the nearest marked folder, that folder is found again. -/
theorem detect_toText (hreal : m.files.IsReal place) (hnul : ∀ name ∈ place, '\x00' ∉ name)
    (h : IsNearest m.files place folder) (hlook : LetsLook m.files place folder) :
    m.detect place.toText = .ok (projectIn m.files folder) := by
  obtain ⟨isFile, hfile, hnot⟩ := exists_isFile_eq hreal
    (hlook place h.above (List.prefix_refl _)).maven
  refine detect_eq_ok (place_toText hreal hnul) hfile ?_
  cases isFile with
  | false => exact projectAbove_of_isNearest h hlook
  | true =>
    -- The folder is marked, and a file is not: the folder lies above it.
    have hbefore : folder <+: place.dropLast := by
      obtain ⟨rest, rfl⟩ := h.above
      have hne : rest ≠ [] := by
        rintro rfl
        rw [List.append_nil] at hnot
        exact hnot rfl h.marked
      rw [List.dropLast_append_of_ne_nil hne]
      exact List.prefix_append folder rest.dropLast
    have hplace := List.dropLast_prefix place
    exact projectAbove_of_isNearest (h.restrict hbefore hplace) (hlook.mono hplace)

/-- Only what is no project has no root. -/
theorem root_eq_none_iff {found : Detection} (h : m.detect path = .ok found) :
    found.root = none ↔ found.kind = .native := by
  unfold Machine.detect at h
  obtain ⟨place, -, h⟩ := exists_of_bind_eq_ok (eq_ok_of_mapError h)
  obtain ⟨isFile, -, h⟩ := exists_of_bind_eq_ok h
  obtain ⟨above, habove, h⟩ := exists_of_bind_eq_ok h
  cases above with
  | none =>
    cases h
    exact iff_of_true rfl rfl
  | some found' =>
    obtain rfl : found' = found := Except.ok.inj h
    obtain ⟨folder, -, hfolder⟩ := exists_of_findSomeM? habove
    obtain ⟨hroot, names, hrule⟩ := root_and_kind_of_projectAt? hfolder
    refine iff_of_false (by simp [hroot]) fun hkind => ?_
    rw [hkind, ProjectKind.markers_eq] at hrule
    simp at hrule

/-- What the project is of the place that a path names, going up from `start`. -/
structure DetectsNearest (m : Machine) (path : Text) (start : Place) : Prop where
  cases : (∃ folder, IsNearest m.files start folder) ∨
    ∀ folder, folder <+: start → ¬IsMarked m.files folder
  /-- The nearest marked folder is the root of the project, and of that of all places on the way up
  to it, as long as no link lies on the way to them. -/
  nearest : ∀ folder, IsNearest m.files start folder → LetsLook m.files start folder →
    m.detect path = .ok (projectIn m.files folder) ∧
    ∀ place : Place, folder <+: place → place <+: start → m.files.IsReal place →
      m.detect place.toText = .ok (projectIn m.files folder)
  /-- No link is left by an absolute path, if none on it leads back to itself. -/
  real : ResolvesWhole m path → m.files.IsReal start
  native : (∀ folder, folder <+: start → ¬IsMarked m.files folder) → LetsLook m.files start [] →
    m.detect path = .ok .native
  root_iff : ∀ found, m.detect path = .ok found → (found.root = none ↔ found.kind = .native)

/-- The project of a path is that of the nearest marked folder, going up from the place that the
path names, or from its folder if it is a file. -/
theorem detect_nearest {isFile : Bool} (hplace : m.place path = .ok place)
    (hfile : m.isFile place.toText = .ok isFile) (hnul : ∀ name ∈ place, '\x00' ∉ name) :
    DetectsNearest m path (if isFile then place.dropLast else place) := by
  have hstart : (if isFile then place.dropLast else place) <+: place := by
    split
    · exact List.dropLast_prefix place
    · exact List.prefix_refl place
  exact {
    cases := isNearest_cases m.files _
    nearest := by
      intro folder h hlook
      refine ⟨detect_eq_ok hplace hfile (projectAbove_of_isNearest h hlook), ?_⟩
      intro between habove hbetween hreal
      have hnul' : ∀ name ∈ between, '\x00' ∉ name :=
        fun name hname => hnul name ((hbetween.trans hstart).subset hname)
      exact detect_toText hreal hnul' (h.restrict habove hbetween) (hlook.mono hbetween)
    real := fun hwhole => (isReal_of_place hwhole hplace).mono hstart
    native := by
      intro h hlook
      refine detect_eq_ok hplace hfile ?_
      rw [projectAbove, findSomeM?_upward_of_not_isMarked h hlook]
      rfl
    root_iff := fun found h => root_eq_none_iff h }

end Machines

/-- A machine with a folder `/p` and a marker in it, with some permission bits. -/
def markedMachine (folderMode markerMode : Nat) : Machine :=
  { files :=
      { names := .node 0 [("p".toList, .node 1 [("build.gradle".toList, .node 2 [])])]
        items := #[⟨.folder 0o755, 0⟩, ⟨.folder folderMode, 0⟩, ⟨.file .empty markerMode, 0⟩] }
    environment := {}, folder := some [], scratch := [], programFolders := [], homes := [] }

theorem resolvesWhole_marked : ResolvesWhole (markedMachine 0o755 0o644) "/p/a/./b".toList := by
  have hexpand : (markedMachine 0o755 0o644).expandHome (PathName.ofText "/p/a/./b".toList) =
      .ok ⟨1, ["p".toList, "a".toList, "b".toList]⟩ := by
    decide +kernel
  have hresolve : ((markedMachine 0o755 0o644).files.resolve 900 []
      ⟨1, ["p".toList, "a".toList, "b".toList]⟩).any (·.isWhole) = true := by
    decide +kernel
  rw [Option.any_eq_true] at hresolve
  obtain ⟨found, hfound, hwhole⟩ := hresolve
  exact ⟨_, found, hexpand, by decide, hfound, hwhole⟩

/-- A Gradle project two folders up, from a path with a dot in it and from the folder between. -/
theorem detect_nearest_marked :
    let m := markedMachine 0o755 0o644
    IsNearest m.files ["p".toList, "a".toList, "b".toList] ["p".toList] ∧
    m.detect "/p/a/./b".toList = .ok (projectIn m.files ["p".toList]) ∧
    m.detect "/p/a".toList = .ok ⟨.gradle, some "/p".toList, ["build.gradle".toList]⟩ := by
  intro m
  have hdetects : DetectsNearest m "/p/a/./b".toList ["p".toList, "a".toList, "b".toList] := by
    have hplace : m.place "/p/a/./b".toList = .ok ["p".toList, "a".toList, "b".toList] := by
      decide +kernel
    have hfile : m.isFile (Place.toText ["p".toList, "a".toList, "b".toList]) = .ok false := by
      decide +kernel
    exact detect_nearest hplace hfile (by decide)
  have hreal := hdetects.real resolvesWhole_marked
  have hsearch : ∀ between ∈ List.inits ["p".toList, "a".toList, "b".toList],
      (∀ name ∈ markerNames, m.files.refuses between name = false) ∧
      (between ≠ ["p".toList] → ∀ name ∈ markerNames, m.files.holds between name = false) := by
    decide +kernel
  have hlook : LetsLook m.files ["p".toList, "a".toList, "b".toList] ["p".toList] :=
    fun between _ hbetween =>
      have hall := (hsearch between ((List.mem_inits _ _).2 hbetween)).1
      ⟨hall mavenMarker List.mem_cons_self, fun _ name hname => hall name (.tail _ hname)⟩
  have hnearest : IsNearest m.files ["p".toList, "a".toList, "b".toList] ["p".toList] := by
    refine ⟨by decide, ⟨"build.gradle".toList, by decide, by decide +kernel⟩,
      fun between _ hbetween hne => ?_⟩
    rintro ⟨name, hname, hholds⟩
    rw [(hsearch between ((List.mem_inits _ _).2 hbetween)).2 hne name hname] at hholds
    cases hholds
  obtain ⟨hpath, hplaces⟩ := hdetects.nearest _ hnearest hlook
  have hproject : projectIn m.files ["p".toList] =
      ⟨.gradle, some "/p".toList, ["build.gradle".toList]⟩ := by
    decide +kernel
  have hbetween : ["p".toList, "a".toList] <+: ["p".toList, "a".toList, "b".toList] := by decide
  have habove := hplaces _ (by decide) hbetween (hreal.mono hbetween)
  rw [hproject] at habove
  exact ⟨hnearest, hpath, habove⟩

/-- A Maven project in `/real`, a link `/link` to it, and a link `/loop` to itself. -/
def loopedMachine : Machine :=
  { files :=
      { names := .node 0 [("real".toList, .node 1 [("pom.xml".toList, .node 2 [])]),
          ("link".toList, .node 3 []), ("loop".toList, .node 4 [])]
        items := #[⟨.folder 0o755, 0⟩, ⟨.folder 0o755, 0⟩, ⟨.file .empty 0o644, 0⟩,
          ⟨.link "real".toList, 0⟩, ⟨.link "loop".toList, 0⟩] }
    environment := {}, folder := some [], scratch := [], programFolders := [], homes := [] }

/-- A marker that cannot be read marks no folder, a folder that cannot be looked into ends the
search, and after a link that leads back to itself the links of a path are left in it. -/
theorem detect_unreadable_looped :
    ((markedMachine 0o755 0).find "/p/build.gradle".toList).isOk = true ∧
    (markedMachine 0o755 0).detect "/p".toList = .ok .native ∧
    (markedMachine 0 0o644).detect "/p".toList =
      .error (.badPath (.denied "/p/pom.xml".toList)) ∧
    loopedMachine.detect "/loop/../link".toList =
      .ok ⟨.maven, some "/link".toList, ["pom.xml".toList]⟩ ∧
    loopedMachine.detect "/link".toList =
      .ok ⟨.maven, some "/real".toList, ["pom.xml".toList]⟩ := by
  decide +kernel

end JarLens
