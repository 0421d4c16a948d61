import JarLens.Machine.Basic
import JarLens.Proofs.Archive.Rows
import JarLens.Proofs.Source.Answers
import Mathlib.Data.List.Infix
import Mathlib.Data.List.Nodup
import Mathlib.Data.List.Perm.Subperm

/-!
# Browsing an archive

Whoever browses an archive lists its root and then, in any order, the folders that the listings
show. `Browsing.Sound` is what every listing keeps: a folder is known of once, and it was shown by
the folder that it lies in. From it `browsing_meets_files`: browsing ends, after it every folder was
listed once, and every file that no folder hides was met once.
-/

namespace JarLens

open Archive Entry

/-! ## Folders and files by their paths -/

/-- Some member is a folder that goes by the path, or lies beneath it. -/
def IsFolderPath (members : List Member) (path : Text) : Prop :=
  ∃ m ∈ members, LiesBeneath path m.path ∨ m.path = path ∧ m.isFolder = true

/-- Some member is a file that goes by the path, and no folder is there. -/
structure IsFilePath (members : List Member) (path : Text) : Prop where
  ne_nil : path ≠ []
  file : ∃ m ∈ members, m.isFolder = false ∧ m.path = path
  not_folder : ∀ m ∈ members, m.path = path → m.isFolder = false
  not_above : ∀ m ∈ members, ¬LiesBeneath path m.path

section Paths

variable {members : List Member} {folder h path : Text}

theorem IsFolderPath.normalize_eq (hpath : IsFolderPath members path) : normalize path = path := by
  obtain ⟨m, -, hbeneath | ⟨rfl, -⟩⟩ := hpath
  · exact (exists_of_liesBeneath hbeneath).1
  · exact normalize_normalize m.name

theorem IsFilePath.normalize_eq (hpath : IsFilePath members path) : normalize path = path := by
  obtain ⟨m, -, -, rfl⟩ := hpath.file
  exact normalize_normalize m.name

/-- A folder shows a file by a name exactly if the file's path is the name beneath the folder. -/
theorem showsFile_iff :
    ShowsFile members folder h ↔ IsSegment h ∧ IsFilePath members (childPath folder h) := by
  constructor
  · rintro ⟨hh, hnot, m, hm, hpath⟩
    have hfile : ∀ m' ∈ members, m'.path = childPath folder h → m'.isFolder = false := by
      intro m' hm' hpath'
      cases hfolder : m'.isFolder with
      | false => rfl
      | true => exact absurd ⟨hh, m', hm', .inr ⟨hpath', hfolder⟩⟩ hnot
    exact ⟨hh, childPath_ne_nil hh, ⟨m, hm, hfile m hm hpath, hpath⟩, hfile,
      fun m' hm' hbeneath => hnot ⟨hh, m', hm', .inl hbeneath⟩⟩
  · rintro ⟨hh, -, ⟨m, hm, -, hpath⟩, hfile, hnot⟩
    refine ⟨hh, ?_, m, hm, hpath⟩
    rintro ⟨-, m', hm', hbeneath | ⟨hpath', hfolder⟩⟩
    · exact hnot m' hm' hbeneath
    · rw [hfile m' hm' hpath'] at hfolder
      cases hfolder

/-- Going down makes paths longer, which is why browsing ends. -/
theorem length_lt_childPath (hh : IsSegment h) : folder.length < (childPath folder h).length := by
  unfold childPath
  split
  · next hnil =>
    rw [hnil]
    exact List.length_pos_iff.2 hh.ne_nil
  · simp

/-- A member that goes by the path of a name in a folder, or lies beneath it, makes the folder one,
unless it is the root. -/
theorem eq_nil_or_isFolderPath {m : Member} (hm : m ∈ members) (hh : IsSegment h)
    (hchild : m.path = childPath folder h ∨ LiesBeneath (childPath folder h) m.path) :
    folder = [] ∨ IsFolderPath members folder := by
  by_cases hne : folder = []
  · exact .inl hne
  · refine .inr ⟨m, hm, .inl ?_⟩
    rw [childPath, if_neg hne] at hchild
    rcases hchild with hpath | ⟨rest, -, hpath⟩
    · exact ⟨h, hh.ne_nil, hpath⟩
    · refine ⟨h ++ '/' :: rest, by simp, ?_⟩
      rw [hpath, List.append_assoc, List.cons_append]

/-- The folders that a member has on the way to it, and its own path. -/
def pathsTo (m : Member) : List Text :=
  (segments m.name).inits.map (Text.join ['/'])

/-- Every folder is on the way to a member. -/
theorem IsFolderPath.exists_mem_pathsTo (hpath : IsFolderPath members path) :
    ∃ m ∈ members, path ∈ pathsTo m := by
  have hnormal := hpath.normalize_eq
  obtain ⟨m, hm, hlies⟩ := hpath
  refine ⟨m, hm, List.mem_map.2 ⟨segments path, ?_, by rw [← normalize_eq_join, hnormal]⟩⟩
  rw [List.mem_inits]
  rcases hlies with hbeneath | ⟨rfl, -⟩
  · obtain ⟨-, ss, -, hsegments⟩ := exists_of_liesBeneath hbeneath
    exact ⟨ss, hsegments.symm⟩
  · rw [Member.path, segments_normalize]

end Paths

/-! ## One listing -/

/-- The paths of the rows of one kind in the listing of a folder. -/
def Listing.paths (l : Listing) (folder : Text) (isFolder : Bool) : List Text :=
  (l.rows.filter (·.isFolder == isFolder)).map (childPath folder ·.name)

section Listings

variable {members : List Member} {limit : Int} {folder path : Text}

theorem Listing.mem_paths {l : Listing} {isFolder : Bool} :
    path ∈ l.paths folder isFolder ↔
      ∃ h, (∃ row ∈ l.rows, row.isFolder = isFolder ∧ row.name = h) ∧
        path = childPath folder h := by
  simp only [Listing.paths, List.mem_map, List.mem_filter, beq_iff_eq]
  constructor
  · rintro ⟨row, ⟨hrow, hkind⟩, rfl⟩
    exact ⟨row.name, ⟨row, hrow, hkind, rfl⟩, rfl⟩
  · rintro ⟨h, ⟨row, hrow, hkind, rfl⟩, rfl⟩
    exact ⟨row, ⟨hrow, hkind⟩, rfl⟩

/-- The folder paths of a listing are those of the folders that it should show. -/
theorem Listing.mem_paths_folder {l : Listing} (h : IsListing members folder l.rows) :
    path ∈ l.paths folder true ↔ ∃ name, ShowsFolder members folder name ∧
      path = childPath folder name := by
  simp only [mem_paths, h.folder_iff]

theorem Listing.mem_paths_file {l : Listing} (h : IsListing members folder l.rows) :
    path ∈ l.paths folder false ↔ ∃ name, ShowsFile members folder name ∧
      path = childPath folder name := by
  simp only [mem_paths, h.file_iff]

theorem Listing.nodup_paths {l : Listing} (hnodup : (l.rows.map (·.name)).Nodup) (folder : Text)
    (isFolder : Bool) : (l.paths folder isFolder).Nodup := by
  have hnames : ((l.rows.filter (·.isFolder == isFolder)).map (·.name)).Nodup :=
    hnodup.sublist (List.filter_sublist.map _)
  have hpaths := List.Nodup.map (childPath_injective folder) hnames
  rwa [List.map_map] at hpaths

/-- The rows of a listing that is not cut are all that the folder is to show. -/
theorem isListing_list (htotal : ((list members limit folder).total : Int) ≤ limit) :
    IsListing members (normalize folder) (list members limit folder).rows := by
  have hrows : (list members limit folder).rows = rows members (normalize folder) := by
    obtain ⟨n, rfl⟩ := Int.eq_ofNat_of_zero_le (Int.le_trans (Int.natCast_nonneg _) htotal)
    exact List.take_of_length_le (Int.ofNat_le.1 htotal)
  rw [hrows]
  exact isListing_rows members folder

theorem exists_segments_of_mem_names {row : Row} (hrow : row ∈ rows members (normalize folder)) :
    ∃ m ∈ members, ∃ ss, segments m.name = segments folder ++ row.name :: ss := by
  have hlisting := isListing_rows members folder
  cases hkind : row.isFolder with
  | true =>
    obtain ⟨hh, m, hm, hbeneath | ⟨hpath, -⟩⟩ :=
      (hlisting.folder_iff row.name).1 ⟨row, hrow, hkind, rfl⟩
    · obtain ⟨ss, -, hsegments⟩ := (liesBeneath_childPath hh).1 hbeneath
      exact ⟨m, hm, ss, hsegments⟩
    · exact ⟨m, hm, [], (normalize_eq_childPath hh).1 hpath⟩
  | false =>
    obtain ⟨hh, -, m, hm, hpath⟩ := (hlisting.file_iff row.name).1 ⟨row, hrow, hkind, rfl⟩
    exact ⟨m, hm, [], (normalize_eq_childPath hh).1 hpath⟩

/-- A folder shows no more rows than the archive has members. -/
theorem length_rows_le (members : List Member) (folder : Text) :
    (rows members (normalize folder)).length ≤ members.length := by
  have hsubset : (rows members (normalize folder)).map (·.name) ⊆
      members.filterMap fun m => ((segments m.name).drop (segments folder).length).head? := by
    intro h hh
    obtain ⟨row, hrow, rfl⟩ := List.mem_map.1 hh
    obtain ⟨m, hm, ss, hsegments⟩ := exists_segments_of_mem_names hrow
    exact List.mem_filterMap.2 ⟨m, hm, by rw [hsegments, List.drop_left]; rfl⟩
  have hle := (List.subperm_of_subset (nodup_map_name_rows members folder) hsubset).length_le
  rw [List.length_map] at hle
  exact hle.trans (List.length_filterMap_le _ _)

/-- No listing has more rows than the archive has members. -/
theorem total_list_le (members : List Member) (limit : Int) (folder : Text) :
    (list members limit folder).total ≤ members.length :=
  length_rows_le members folder

/-- Where an archive opens, every folder of it can be listed. -/
theorem Machine.exists_list_eq {m : Machine} {path : Text} {archive : Archive}
    (hopen : m.openArchive path = .ok archive) :
    ∃ place, ∀ limit folder,
      m.list limit path folder = .ok (place, Archive.list archive.members limit folder) := by
  cases hplace : m.archivePlace path with
  | error f =>
    simp only [Machine.openArchive, hplace, bind, Except.bind] at hopen
    cases hopen
  | ok place =>
    refine ⟨place.toText, fun limit folder => ?_⟩
    simp only [Machine.list, hplace, hopen, bind, Except.bind, pure, Except.pure]

end Listings

/-! ## Browsing -/

/-- How far browsing has come: the folders that are known of and not listed yet, the folders that
were listed, and the files that were met, each in order. -/
structure Browsing where
  pending : List Text
  visited : List Text
  met : List Text

namespace Browsing

/-- At the start nothing but the archive's root is known of. -/
def start : Browsing :=
  { pending := [[]], visited := [], met := [] }

/-- One listing: any folder that is known of is listed, and what its rows show is taken down. -/
inductive Step (m : Machine) (path : Text) (limit : Int) (b : Browsing) : Browsing → Prop
  | list {before folder after place l} (hpending : b.pending = before ++ folder :: after)
      (hlist : m.list limit path folder = .ok (place, l)) :
      Step m path limit b
        { pending := before ++ after ++ l.paths folder true
          visited := b.visited ++ [folder]
          met := b.met ++ l.paths folder false }

/-- How far browsing can have come after a number of listings. -/
inductive After (m : Machine) (path : Text) (limit : Int) : Nat → Browsing → Prop
  | start : After m path limit 0 start
  | step {n b b'} (h : After m path limit n b) (hstep : Step m path limit b b') :
      After m path limit (n + 1) b'

def known (b : Browsing) : List Text :=
  b.visited ++ b.pending

/-- What is known of and met comes from the folders that were listed. -/
structure Sound (members : List Member) (b : Browsing) : Prop where
  nodup : b.known.Nodup
  root_mem : [] ∈ b.known
  normalize_eq : ∀ p ∈ b.known, normalize p = p
  /-- What is known of besides the root was shown by its own folder. -/
  shown : ∀ p ∈ b.known, p = [] ∨
    ∃ f ∈ b.visited, ∃ h, ShowsFolder members f h ∧ p = childPath f h
  /-- What a folder that was listed shows is known of. -/
  closed : ∀ f ∈ b.visited, ∀ h, ShowsFolder members f h → childPath f h ∈ b.known
  nodup_met : b.met.Nodup
  mem_met : ∀ p, p ∈ b.met ↔ ∃ f ∈ b.visited, ∃ h, ShowsFile members f h ∧ p = childPath f h

section Steps

variable {m : Machine} {path : Text} {limit : Int} {members : List Member} {b : Browsing}

theorem sound_start (members : List Member) : Sound members start where
  nodup := by simp [known, start]
  root_mem := List.mem_singleton_self []
  normalize_eq p hp := by rw [List.mem_singleton.1 hp]; rfl
  shown p hp := .inl (List.mem_singleton.1 hp)
  closed f hf := absurd hf List.not_mem_nil
  nodup_met := List.nodup_nil
  mem_met p := by simp [start]

/-- Among folders that are known of, a path tells the folder that it was put together from. -/
theorem Sound.eq_of_childPath (hb : Sound members b) {f folder h h' : Text} (hf : f ∈ b.known)
    (hfolder : folder ∈ b.known) (hh : IsSegment h) (hh' : IsSegment h')
    (heq : childPath f h = childPath folder h') : f = folder := by
  obtain ⟨hsame, -⟩ := childPath_inj hh hh' heq
  rwa [hb.normalize_eq f hf, hb.normalize_eq folder hfolder] at hsame

theorem Sound.not_mem_visited (hb : Sound members b) {folder : Text} (hfolder : folder ∈ b.pending) :
    folder ∉ b.visited := fun hmem =>
  (List.nodup_append.1 hb.nodup).2.2 folder hmem folder hfolder rfl

/-- A folder that was not listed shows nothing that is known of: its own folder would have been
listed. -/
theorem Sound.childPath_not_mem_known (hb : Sound members b) {folder h : Text}
    (hfolder : folder ∈ b.pending) (hshows : ShowsFolder members folder h) :
    childPath folder h ∉ b.known := by
  intro hmem
  rcases hb.shown _ hmem with hnil | ⟨f, hf, h', hshows', heq⟩
  · exact childPath_ne_nil hshows.1 hnil
  · have hsame : folder = f := hb.eq_of_childPath (List.mem_append_right _ hfolder)
      (List.mem_append_left _ hf) hshows.1 hshows'.1 heq
    exact hb.not_mem_visited hfolder (hsame ▸ hf)

/-- A file of a folder that is to be listed has not been met. -/
theorem Sound.childPath_not_mem_met (hb : Sound members b) {folder h : Text}
    (hfolder : folder ∈ b.pending) (hshows : ShowsFile members folder h) :
    childPath folder h ∉ b.met := by
  intro hmem
  obtain ⟨f, hf, h', hshows', heq⟩ := (hb.mem_met _).1 hmem
  have hsame : folder = f := hb.eq_of_childPath (List.mem_append_right _ hfolder)
    (List.mem_append_left _ hf) hshows.1 hshows'.1 heq
  exact hb.not_mem_visited hfolder (hsame ▸ hf)

/-- Listing a folder keeps what is known sound, if its rows are all that the folder is to show. -/
theorem Sound.list (hb : Sound members b) {before after : List Text} {folder : Text} {l : Listing}
    (hpending : b.pending = before ++ folder :: after)
    (hlisting : IsListing members folder l.rows) :
    Sound members
      { pending := before ++ after ++ l.paths folder true
        visited := b.visited ++ [folder]
        met := b.met ++ l.paths folder false } := by
  have hfolder : folder ∈ b.pending := by simp [hpending]
  -- The folder passes from those that are pending to those that were listed.
  have hperm : (b.visited ++ [folder] ++ (before ++ after ++ l.paths folder true)).Perm
      (b.known ++ l.paths folder true) := by
    simp only [known, hpending, List.append_assoc, List.cons_append, List.nil_append]
    exact List.Perm.append_left _ List.perm_middle.symm
  have hknown : ∀ p, p ∈ b.visited ++ [folder] ++ (before ++ after ++ l.paths folder true) ↔
      p ∈ b.known ∨ ∃ h, ShowsFolder members folder h ∧ p = childPath folder h := by
    intro p
    rw [hperm.mem_iff, List.mem_append, Listing.mem_paths_folder hlisting]
  have hvisited : ∀ f, f ∈ b.visited ++ [folder] ↔ f ∈ b.visited ∨ f = folder := fun f => by simp
  refine
    { nodup := ?_, root_mem := ?_, normalize_eq := fun p hp => ?_, shown := fun p hp => ?_,
      closed := fun f hf h hshows => ?_, nodup_met := ?_, mem_met := fun p => ?_ }
  · refine hperm.nodup_iff.2
      (List.nodup_append.2 ⟨hb.nodup, Listing.nodup_paths hlisting.nodup folder true, ?_⟩)
    rintro p hp q hq rfl
    obtain ⟨h, hshows, rfl⟩ := (Listing.mem_paths_folder hlisting).1 hq
    exact hb.childPath_not_mem_known hfolder hshows hp
  · exact (hknown []).2 (.inl hb.root_mem)
  · rcases (hknown p).1 hp with hp | ⟨h, hshows, rfl⟩
    · exact hb.normalize_eq p hp
    · exact IsFolderPath.normalize_eq hshows.2
  · rcases (hknown p).1 hp with hp | hshown
    · refine (hb.shown p hp).imp_right ?_
      rintro ⟨f, hf, hshown⟩
      exact ⟨f, (hvisited f).2 (.inl hf), hshown⟩
    · exact .inr ⟨folder, (hvisited folder).2 (.inr rfl), hshown⟩
  · rcases (hvisited f).1 hf with hf | rfl
    · exact (hknown _).2 (.inl (hb.closed f hf h hshows))
    · exact (hknown _).2 (.inr ⟨h, hshows, rfl⟩)
  · refine List.nodup_append.2
      ⟨hb.nodup_met, Listing.nodup_paths hlisting.nodup folder false, ?_⟩
    rintro p hp q hq rfl
    obtain ⟨h, hshows, rfl⟩ := (Listing.mem_paths_file hlisting).1 hq
    exact hb.childPath_not_mem_met hfolder hshows hp
  · rw [List.mem_append, hb.mem_met, Listing.mem_paths_file hlisting]
    constructor
    · rintro (⟨f, hf, hshown⟩ | hshown)
      · exact ⟨f, (hvisited f).2 (.inl hf), hshown⟩
      · exact ⟨folder, (hvisited folder).2 (.inr rfl), hshown⟩
    · rintro ⟨f, hf, hshown⟩
      rcases (hvisited f).1 hf with hf | rfl
      · exact .inl ⟨f, hf, hshown⟩
      · exact .inr hshown

/-- A folder that shows something was listed, once all folders that are known of were: by induction
on its path, the folder that it lies in was listed and showed it. -/
theorem Sound.mem_visited (hb : Sound members b) (hdone : b.pending = []) {folder : Text}
    (hfolder : folder = [] ∨ IsFolderPath members folder) : folder ∈ b.visited := by
  have hknown : b.known = b.visited := by rw [known, hdone, List.append_nil]
  induction hlength : folder.length using Nat.strong_induction_on generalizing folder with
  | _ n ih =>
    by_cases hne : folder = []
    · exact hne ▸ hknown ▸ hb.root_mem
    · have hpath := hfolder.resolve_left hne
      obtain ⟨above, h, -, hh, rfl⟩ := exists_childPath hpath.normalize_eq hne
      obtain ⟨m, hm, hlies⟩ := hpath
      have habove := eq_nil_or_isFolderPath hm hh (hlies.symm.imp_left And.left)
      have hvisited := ih _ (hlength ▸ length_lt_childPath hh) habove rfl
      exact hknown ▸ hb.closed above hvisited h ⟨hh, m, hm, hlies⟩

/-- At the end the folders that were listed are the root and all folders. -/
theorem Sound.mem_visited_iff (hb : Sound members b) (hdone : b.pending = []) (p : Text) :
    p ∈ b.visited ↔ p = [] ∨ IsFolderPath members p := by
  refine ⟨fun hp => ?_, fun hp => hb.mem_visited hdone hp⟩
  rcases hb.shown p (List.mem_append_left _ hp) with hnil | ⟨f, -, h, hshows, rfl⟩
  · exact .inl hnil
  · exact .inr hshows.2

theorem Sound.mem_met_iff (hb : Sound members b) (hdone : b.pending = []) (p : Text) :
    p ∈ b.met ↔ IsFilePath members p := by
  rw [hb.mem_met]
  constructor
  · rintro ⟨f, -, h, hshows, rfl⟩
    exact (showsFile_iff.1 hshows).2
  · intro hfile
    obtain ⟨folder, h, -, hh, rfl⟩ := exists_childPath hfile.normalize_eq hfile.ne_nil
    obtain ⟨m, hm, -, hpath⟩ := hfile.file
    have hfolder := eq_nil_or_isFolderPath hm hh (.inl hpath)
    exact ⟨folder, hb.mem_visited hdone hfolder, h, showsFile_iff.2 ⟨hh, hfile⟩, rfl⟩

/-- No more folders are listed than lie on the ways to the members, and the root. -/
theorem Sound.length_visited_le (hb : Sound members b) :
    b.visited.length ≤ ([] :: members.flatMap pathsTo).length := by
  have hnodup : b.visited.Nodup := (List.nodup_append.1 hb.nodup).1
  refine (List.subperm_of_subset hnodup fun p hp => ?_).length_le
  rcases hb.shown p (List.mem_append_left _ hp) with rfl | ⟨f, -, h, hshows, rfl⟩
  · exact List.mem_cons_self
  · obtain ⟨m, hm, hmem⟩ := IsFolderPath.exists_mem_pathsTo hshows.2
    exact List.mem_cons_of_mem _ (List.mem_flatMap.2 ⟨m, hm, hmem⟩)

end Steps

section Runs

variable {m : Machine} {path : Text} {archive : Archive} {limit : Int} {b b' : Browsing} {n : Nat}

/-- One listing preserves the invariant. -/
theorem Step.sound (hopen : m.openArchive path = .ok archive)
    (hlimit : ∀ folder place l, m.list limit path folder = .ok (place, l) → (l.total : Int) ≤ limit)
    (hb : Sound archive.members b) (hstep : Step m path limit b b') :
    Sound archive.members b' := by
  obtain ⟨place, hlist⟩ := Machine.exists_list_eq hopen
  cases hstep with
  | @list before folder after place' l hpending hlisted =>
    have htotal := hlimit folder place' l hlisted
    rw [hlist] at hlisted
    cases hlisted
    have hfolder : folder ∈ b.known := List.mem_append_right _ (by simp [hpending])
    have hlisting := isListing_list htotal
    rw [hb.normalize_eq folder hfolder] at hlisting
    exact hb.list hpending hlisting

/-- By induction over the listings, the invariant holds after any number of them, and each listed a
folder. -/
theorem After.sound (hopen : m.openArchive path = .ok archive)
    (hlimit : ∀ folder place l, m.list limit path folder = .ok (place, l) → (l.total : Int) ≤ limit)
    (h : After m path limit n b) : Sound archive.members b ∧ b.visited.length = n := by
  induction h with
  | start => exact ⟨sound_start _, rfl⟩
  | step _ hstep ih =>
    refine ⟨hstep.sound hopen hlimit ih.1, ?_⟩
    cases hstep with
    | list => rw [List.length_append, List.length_singleton, ih.2]

theorem exists_step (hopen : m.openArchive path = .ok archive) (hpending : b.pending ≠ []) :
    ∃ b', Step m path limit b b' := by
  obtain ⟨place, hlist⟩ := Machine.exists_list_eq hopen
  obtain ⟨folder, after, hcons⟩ := List.exists_cons_of_ne_nil hpending
  have hsplit : b.pending = [] ++ folder :: after := hcons
  exact ⟨_, .list hsplit (hlist limit folder)⟩

end Runs

end Browsing

/-- Browsing an archive that opens, with listings that are not cut, ends after a number of listings,
in whatever order the folders are listed. Then each folder was listed once, and each file was met
once that no folder hides. -/
theorem browsing_meets_files {m : Machine} {path : Text} {archive : Archive} {limit : Int}
    (hopen : m.openArchive path = .ok archive)
    (hlimit : ∀ folder place l, m.list limit path folder = .ok (place, l) →
      (l.total : Int) ≤ limit) :
    (∃ most, ∀ n b, Browsing.After m path limit n b → n ≤ most) ∧
    (∀ n b, Browsing.After m path limit n b →
      b.pending ≠ [] → ∃ b', Browsing.Step m path limit b b') ∧
    ∀ n b, Browsing.After m path limit n b → b.pending = [] →
      b.met.Nodup ∧ (∀ p, p ∈ b.met ↔ IsFilePath archive.members p) ∧
      b.visited.Nodup ∧ ∀ p, p ∈ b.visited ↔ p = [] ∨ IsFolderPath archive.members p := by
  refine ⟨⟨([] :: archive.members.flatMap pathsTo).length, fun n b h => ?_⟩,
    fun n b h => Browsing.exists_step hopen, fun n b h hdone => ?_⟩
  · obtain ⟨hb, hlength⟩ := h.sound hopen hlimit
    exact hlength ▸ hb.length_visited_le
  · obtain ⟨hb, -⟩ := h.sound hopen hlimit
    exact ⟨hb.nodup_met, hb.mem_met_iff hdone, (List.nodup_append.1 hb.nodup).1,
      hb.mem_visited_iff hdone⟩

/-- A machine with an archive that holds nothing but `a/b`. -/
def nestedFileMachine : Machine :=
  let archive := Source.emptyMemberArchive [97, 47, 98] 0
  let files := (Source.oneClassMachine []).files
  { Source.oneClassMachine [] with files := files.put ["a.jar".toList] (.file archive 0o644) }

theorem opens_nestedFile : ∃ archive,
    nestedFileMachine.openArchive "/a.jar".toList = .ok archive ∧ archive.members.length = 1 := by
  have hlength : (nestedFileMachine.openArchive "/a.jar".toList).toOption.map (·.members.length) =
      some 1 := by
    decide +kernel
  cases hopen : nestedFileMachine.openArchive "/a.jar".toList with
  | ok archive =>
    rw [hopen] at hlength
    exact ⟨archive, rfl, Option.some.inj hlength⟩
  | error f =>
    rw [hopen] at hlength
    cases hlength

/-- Two listings meet the only file, one folder down. -/
theorem browsing_meets_files_nestedFile : ∃ archive b,
    nestedFileMachine.openArchive "/a.jar".toList = .ok archive ∧
    Browsing.After nestedFileMachine "/a.jar".toList 100 2 b ∧ b.pending = [] ∧
    b.met = ["a/b".toList] ∧ IsFilePath archive.members "a/b".toList ∧
    b.visited = [[], "a".toList] ∧ IsFolderPath archive.members "a".toList := by
  obtain ⟨archive, hopen, hlength⟩ := opens_nestedFile
  have hlimit : ∀ folder place l,
      nestedFileMachine.list 100 "/a.jar".toList folder = .ok (place, l) →
        (l.total : Int) ≤ 100 := by
    intro folder place l hlist
    obtain ⟨place', hlist'⟩ := Machine.exists_list_eq hopen
    rw [hlist'] at hlist
    cases hlist
    have htotal := total_list_le archive.members 100 folder
    omega
  have hroot : nestedFileMachine.list 100 "/a.jar".toList [] =
      .ok ("/a.jar".toList, ⟨['/'], 1, false, [folderRow "a".toList]⟩) := by
    decide +kernel
  have hfolder : nestedFileMachine.list 100 "/a.jar".toList "a".toList =
      .ok ("/a.jar".toList, ⟨"a".toList, 1, false, [⟨"b".toList, false, 0, 0⟩]⟩) := by
    decide +kernel
  have hpending : Browsing.start.pending = [] ++ [] :: [] := rfl
  have hafter := Browsing.After.start.step (.list hpending hroot)
  have hpending' : ([] ++ [] ++ Listing.paths
      ⟨['/'], 1, false, [folderRow "a".toList]⟩ [] true : List Text) = [] ++ "a".toList :: [] := by
    decide
  have hdone := hafter.step (.list hpending' hfolder)
  obtain ⟨-, -, hends⟩ := browsing_meets_files hopen hlimit
  obtain ⟨-, hmet, -, hvisited⟩ := hends 2 _ hdone (by decide)
  refine ⟨archive, _, hopen, hdone, by decide, by decide, (hmet _).1 (by decide), by decide, ?_⟩
  exact ((hvisited "a".toList).1 (by decide)).resolve_left (by decide)

end JarLens
