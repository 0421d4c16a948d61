import JarLens.Archive.Listing
import JarLens.Proofs.Entry.Segments
import JarLens.Proofs.Text.Sorting
import Mathlib.Data.List.Find
import Mathlib.Data.List.TakeWhile

/-!
# The rows of a listing

What the listing of a folder shows, for members with any names: one row for each name that a path
beneath the folder goes on with, folders first, both groups in strictly increasing order. The names
are read off the members' segments; `list_isListing` says it in terms of paths.
-/

namespace JarLens.Archive

open JarLens.Entry JarLens.Text

/-! ## What one member adds -/

section Contribution

variable {folder name h : Text} {m : Member} {ss : List Text}

/-- What lies beneath a folder is what is left of the segments after those of the folder. -/
theorem beneath?_normalize {rest : Text} :
    beneath? (normalize folder) (normalize name) = some rest ∧ rest ≠ [] ↔
      ∃ ss, ss ≠ [] ∧ segments name = segments folder ++ ss ∧ rest = join ['/'] ss := by
  have hf : ∀ s ∈ segments folder, IsSegment s := fun _ => isSegment_of_mem
  have hn : ∀ s ∈ segments name, IsSegment s := fun _ => isSegment_of_mem
  rw [normalize_eq_join, normalize_eq_join, beneath?]
  by_cases hroot : segments folder = []
  · rw [if_pos ((join_eq_nil hf).2 hroot), hroot]
    constructor
    · rintro ⟨heq, hne⟩
      cases heq
      exact ⟨segments name, fun hnil => hne ((join_eq_nil hn).2 hnil), rfl, rfl⟩
    · rintro ⟨ss, hss, rfl, rfl⟩
      exact ⟨rfl, fun hnil => hss ((join_eq_nil hn).1 hnil)⟩
  · rw [if_neg fun hnil => hroot ((join_eq_nil hf).1 hnil), dropPrefix?_eq_some, List.append_assoc,
      List.singleton_append, join_eq_append_iff hf hn hroot]
    constructor
    · rintro ⟨hrest, -⟩
      exact hrest
    · rintro ⟨ss, hss, hsegments, rfl⟩
      have hs : ∀ s ∈ ss, IsSegment s := fun s hmem =>
        hn s (hsegments ▸ List.mem_append_right _ hmem)
      exact ⟨⟨ss, hss, hsegments, rfl⟩, fun hnil => hss ((join_eq_nil hs).1 hnil)⟩

theorem takeWhile_join (hh : IsSegment h) :
    (join ['/'] (h :: ss)).takeWhile (· != '/') = h := by
  have hall : ∀ c ∈ h, (c != '/') = true := fun c hc => by
    rw [bne_iff_ne]
    rintro rfl
    exact hh.slash_not_mem hc
  by_cases hss : ss = []
  · subst hss
    exact List.takeWhile_eq_self_iff.2 hall
  · rw [join_cons hss, List.append_assoc, List.takeWhile_append_of_pos hall]
    simp

theorem contains_join (hh : IsSegment h) :
    (join ['/'] (h :: ss)).contains '/' = true ↔ ss ≠ [] := by
  rw [List.contains_iff_mem]
  by_cases hss : ss = []
  · subst hss
    simp [join, hh.slash_not_mem]
  · simp [join_cons hss, hss]

theorem isSegment_of_segments (hm : segments name = segments folder ++ h :: ss) : IsSegment h := by
  have hmem : h ∈ segments name := by simp [hm]
  exact isSegment_of_mem hmem

/-- A member farther down adds a folder, one right there adds itself. -/
theorem contribution?_of_segments (hm : segments m.name = segments folder ++ h :: ss) :
    contribution? (normalize folder) m =
      some (if ss ≠ [] ∨ m.isFolder = true then .folder h else .file h m) := by
  have hh := isSegment_of_segments hm
  obtain ⟨hbeneath, hne⟩ :=
    beneath?_normalize.2 ⟨h :: ss, List.cons_ne_nil h ss, hm, rfl⟩
  have hdeep : ((join ['/'] (h :: ss)).contains '/' || m.isFolder) = true ↔
      ss ≠ [] ∨ m.isFolder = true := by
    rw [Bool.or_eq_true, contains_join hh]
  unfold contribution?
  rw [Member.path, hbeneath]
  simp only [Option.bind_eq_bind, Option.bind_some, if_neg hne, takeWhile_join hh]
  by_cases hcase : ss ≠ [] ∨ m.isFolder = true
  · rw [if_pos (hdeep.2 hcase), if_pos hcase]
  · rw [if_neg fun h => hcase (hdeep.1 h), if_neg hcase]

theorem contribution?_eq_none (hm : ∀ h ss, segments m.name ≠ segments folder ++ h :: ss) :
    contribution? (normalize folder) m = none := by
  unfold contribution?
  rw [Member.path]
  cases hbeneath : beneath? (normalize folder) (normalize m.name) with
  | none => rfl
  | some rest =>
    by_cases hrest : rest = []
    · simp [hrest]
    · obtain ⟨ss, hss, hsegments, -⟩ := beneath?_normalize.1 ⟨hbeneath, hrest⟩
      obtain ⟨h, ss, rfl⟩ := List.exists_cons_of_ne_nil hss
      exact absurd hsegments (hm h ss)

/-- A member adds nothing, or a folder, or a file, by its segments. -/
theorem contribution?_cases (folder : Text) (m : Member) :
    contribution? (normalize folder) m = none ∧
      (∀ h ss, segments m.name ≠ segments folder ++ h :: ss) ∨
    ∃ h ss, segments m.name = segments folder ++ h :: ss ∧
      contribution? (normalize folder) m =
        some (if ss ≠ [] ∨ m.isFolder = true then .folder h else .file h m) := by
  by_cases hm : ∃ h ss, segments m.name = segments folder ++ h :: ss
  · obtain ⟨h, ss, hm⟩ := hm
    exact .inr ⟨h, ss, hm, contribution?_of_segments hm⟩
  · have hnot : ∀ h ss, segments m.name ≠ segments folder ++ h :: ss :=
      fun h ss heq => hm ⟨h, ss, heq⟩
    exact .inl ⟨contribution?_eq_none hnot, hnot⟩

theorem contribution?_eq_folder :
    contribution? (normalize folder) m = some (.folder h) ↔
      ∃ ss, segments m.name = segments folder ++ h :: ss ∧ (ss ≠ [] ∨ m.isFolder = true) := by
  rcases contribution?_cases folder m with ⟨hnone, hnot⟩ | ⟨h', ss, hm, hsome⟩
  · rw [hnone]
    constructor
    · intro heq
      cases heq
    · rintro ⟨ss, heq, -⟩
      exact absurd heq (hnot h ss)
  · rw [hsome]
    constructor
    · intro heq
      split at heq
      · next hcase =>
        cases heq
        exact ⟨ss, hm, hcase⟩
      · cases heq
    · rintro ⟨ss', heq, hcase⟩
      obtain ⟨rfl, rfl⟩ := List.cons.inj (List.append_cancel_left (hm.symm.trans heq))
      rw [if_pos hcase]

theorem contribution?_eq_file {m' : Member} :
    contribution? (normalize folder) m = some (.file h m') ↔
      m' = m ∧ segments m.name = segments folder ++ [h] ∧ m.isFolder = false := by
  rcases contribution?_cases folder m with ⟨hnone, hnot⟩ | ⟨h', ss, hm, hsome⟩
  · rw [hnone]
    constructor
    · intro heq
      cases heq
    · rintro ⟨-, heq, -⟩
      exact absurd heq (hnot h [])
  · rw [hsome]
    constructor
    · intro heq
      split at heq
      · cases heq
      · next hcase =>
        cases heq
        rw [not_or, Decidable.not_not, Bool.not_eq_true] at hcase
        exact ⟨rfl, hcase.1 ▸ hm, hcase.2⟩
    · rintro ⟨rfl, heq, hfile⟩
      obtain ⟨rfl, rfl⟩ := List.cons.inj (List.append_cancel_left (hm.symm.trans heq))
      simp [hfile]

end Contribution

/-! ## The names in a listing -/

/-- Some member shows as a folder: a path goes on beneath the name, or a folder goes by it. -/
def ShowsFolder (members : List Member) (folder h : Text) : Prop :=
  IsSegment h ∧ ∃ m ∈ members, LiesBeneath (childPath folder h) m.path ∨
    m.path = childPath folder h ∧ m.isFolder = true

/-- Some member shows as a file: it goes by the name, and nothing shows as a folder there. -/
def ShowsFile (members : List Member) (folder h : Text) : Prop :=
  IsSegment h ∧ ¬ShowsFolder members folder h ∧ ∃ m ∈ members, m.path = childPath folder h

/-- What the members add to a listing. -/
def contributions (members : List Member) (folder : Text) : List Contribution :=
  members.filterMap (contribution? folder)

/-- The names of the folders in a listing. -/
def folderColumn (members : List Member) (folder : Text) : List Text :=
  sortTexts (distinct (folderNames (contributions members folder)))

/-- The names of the files in a listing. -/
def fileColumn (members : List Member) (folder : Text) : List Text :=
  (sortTexts (distinct ((fileMembers (contributions members folder)).map (·.1)))).filter
    (!(folderColumn members folder).contains ·)

section Columns

variable {members : List Member} {folder h : Text}

theorem mem_folderNames :
    h ∈ folderNames (contributions members (normalize folder)) ↔
      ShowsFolder members (normalize folder) h := by
  have hadds : h ∈ folderNames (contributions members (normalize folder)) ↔
      ∃ m ∈ members, contribution? (normalize folder) m = some (.folder h) := by
    simp only [folderNames, contributions, List.mem_filterMap]
    constructor
    · rintro ⟨c, ⟨m, hm, hc⟩, hname⟩
      cases c with
      | folder name =>
        cases hname
        exact ⟨m, hm, hc⟩
      | file name m => cases hname
    · rintro ⟨m, hm, hc⟩
      exact ⟨_, ⟨m, hm, hc⟩, rfl⟩
  rw [hadds]
  constructor
  · rintro ⟨m, hm, hc⟩
    obtain ⟨ss, hsegments, hcase⟩ := contribution?_eq_folder.1 hc
    have hh := isSegment_of_segments hsegments
    refine ⟨hh, m, hm, ?_⟩
    rcases hcase with hss | hfolder
    · exact .inl ((liesBeneath_childPath hh).2 ⟨ss, hss, hsegments⟩)
    · by_cases hss : ss = []
      · subst hss
        exact .inr ⟨(normalize_eq_childPath hh).2 hsegments, hfolder⟩
      · exact .inl ((liesBeneath_childPath hh).2 ⟨ss, hss, hsegments⟩)
  · rintro ⟨hh, m, hm, hbeneath | ⟨hpath, hfolder⟩⟩
    · obtain ⟨ss, hss, hsegments⟩ := (liesBeneath_childPath hh).1 hbeneath
      exact ⟨m, hm, contribution?_eq_folder.2 ⟨ss, hsegments, .inl hss⟩⟩
    · have hsegments := (normalize_eq_childPath hh).1 hpath
      exact ⟨m, hm, contribution?_eq_folder.2 ⟨[], hsegments, .inr hfolder⟩⟩

theorem mem_fileMembers {m : Member} :
    (h, m) ∈ fileMembers (contributions members (normalize folder)) ↔
      m ∈ members ∧ contribution? (normalize folder) m = some (.file h m) := by
  simp only [fileMembers, contributions, List.mem_filterMap]
  constructor
  · rintro ⟨c, ⟨m', hm', hc⟩, hname⟩
    cases c with
    | folder name => cases hname
    | file name m'' =>
      cases hname
      obtain rfl := (contribution?_eq_file.1 hc).1
      exact ⟨hm', hc⟩
  · rintro ⟨hm, hc⟩
    exact ⟨_, ⟨m, hm, hc⟩, rfl⟩

theorem mem_folderColumn :
    h ∈ folderColumn members (normalize folder) ↔ ShowsFolder members (normalize folder) h := by
  rw [folderColumn, mem_sortTexts, mem_distinct, mem_folderNames]

/-- The file names that members add are those of the files that are shown. -/
theorem mem_fileColumn :
    h ∈ fileColumn members (normalize folder) ↔ ShowsFile members (normalize folder) h := by
  have hfolder : (!(folderColumn members (normalize folder)).contains h) = true ↔
      ¬ShowsFolder members (normalize folder) h := by
    rw [← mem_folderColumn, ← List.contains_iff_mem]
    simp
  rw [fileColumn, List.mem_filter, mem_sortTexts, mem_distinct, hfolder, List.mem_map]
  constructor
  · rintro ⟨⟨⟨name, m⟩, hmem, rfl⟩, hnot⟩
    obtain ⟨hm, hc⟩ := mem_fileMembers.1 hmem
    obtain ⟨-, hsegments, -⟩ := contribution?_eq_file.1 hc
    have hh := isSegment_of_segments hsegments
    exact ⟨hh, hnot, m, hm, (normalize_eq_childPath hh).2 hsegments⟩
  · rintro ⟨hh, hnot, m, hm, hpath⟩
    have hfile : m.isFolder = false := by
      cases hcase : m.isFolder with
      | false => rfl
      | true => exact absurd ⟨hh, m, hm, .inr ⟨hpath, hcase⟩⟩ hnot
    have hc := contribution?_eq_file.2 ⟨rfl, (normalize_eq_childPath hh).1 hpath, hfile⟩
    exact ⟨⟨(h, m), mem_fileMembers.2 ⟨hm, hc⟩, rfl⟩, hnot⟩

theorem pairwise_folderColumn (members : List Member) (folder : Text) :
    (folderColumn members folder).Pairwise (· < ·) :=
  pairwise_lt_sortTexts (nodup_distinct _)

theorem pairwise_fileColumn (members : List Member) (folder : Text) :
    (fileColumn members folder).Pairwise (· < ·) :=
  (pairwise_lt_sortTexts (nodup_distinct _)).filter _

/-- The names do not depend on the order of the members. -/
theorem columns_congr {members' : List Member} (hperm : members.Perm members') (folder : Text) :
    folderColumn members folder = folderColumn members' folder ∧
      fileColumn members folder = fileColumn members' folder := by
  have hcs : (contributions members folder).Perm (contributions members' folder) :=
    hperm.filterMap _
  have hfolders : folderColumn members folder = folderColumn members' folder :=
    sortTexts_distinct_congr fun _ => (hcs.filterMap _).mem_iff
  have hfiles : sortTexts (distinct ((fileMembers (contributions members folder)).map (·.1))) =
      sortTexts (distinct ((fileMembers (contributions members' folder)).map (·.1))) :=
    sortTexts_distinct_congr fun _ => ((hcs.filterMap _).map _).mem_iff
  exact ⟨hfolders, by rw [fileColumn, fileColumn, hfolders, hfiles]⟩

end Columns

/-! ## The rows -/

/-- Whether a member is a file that goes by a path. -/
def isFileAt (path : Text) (m : Member) : Bool :=
  m.path == path && !m.isFolder

/-- What a row shows besides the sizes. -/
def shown (row : Row) : Text × Bool :=
  (row.name, row.isFolder)

section Rows

variable {members : List Member} {folder h : Text}

/-- The rows of the files in a listing. -/
def fileRows (members : List Member) (folder : Text) : List Row :=
  (fileColumn members folder).filterMap (fileRow? (fileMembers (contributions members folder)))

theorem rows_eq (members : List Member) (folder : Text) :
    rows members folder = (folderColumn members folder).map folderRow ++ fileRows members folder :=
  rfl

/-- The file that is known by a name is the first one there. -/
theorem lookup_fileMembers (hh : IsSegment h) :
    (fileMembers (contributions members (normalize folder))).lookup h =
      members.find? (isFileAt (childPath (normalize folder) h)) := by
  induction members with
  | nil => rfl
  | cons m members ih =>
    have hfile : isFileAt (childPath (normalize folder) h) m = true ↔
        contribution? (normalize folder) m = some (.file h m) := by
      rw [contribution?_eq_file, ← normalize_eq_childPath hh]
      simp [isFileAt, Member.path]
    by_cases hc : contribution? (normalize folder) m = some (.file h m)
    · rw [List.find?_cons_of_pos (hfile.2 hc), contributions, List.filterMap_cons_some hc]
      exact List.lookup_cons_self
    · rw [List.find?_cons_of_neg fun hshows => hc (hfile.1 hshows), ← ih, contributions]
      cases hc' : contribution? (normalize folder) m with
      | none => rw [List.filterMap_cons_none hc', contributions]
      | some c =>
        rw [List.filterMap_cons_some hc', contributions]
        cases c with
        | folder name => rfl
        | file name m' =>
          obtain rfl : m' = m := (contribution?_eq_file.1 hc').1
          have hne : h ≠ name := by
            rintro rfl
            exact hc hc'
          show List.lookup h ((name, m') :: _) = _
          rw [List.lookup_cons, beq_eq_false_iff_ne.2 hne]
          rfl

/-- A name that shows as a file has a row, with the sizes of the first member that goes by it. -/
theorem fileRow?_of_shows (hfile : ShowsFile members (normalize folder) h) :
    ∃ m, members.find? (·.path == childPath (normalize folder) h) = some m ∧
      fileRow? (fileMembers (contributions members (normalize folder))) h = some
        { name := h, isFolder := false, size := m.size, compressedSize := m.compressedSize } := by
  obtain ⟨hh, hnot, m₀, hm₀, hpath₀⟩ := hfile
  obtain ⟨m, hm⟩ : ∃ m, members.find? (·.path == childPath (normalize folder) h) = some m := by
    rw [← Option.isSome_iff_exists, List.find?_isSome]
    exact ⟨m₀, hm₀, by simp [hpath₀]⟩
  -- No folder goes by the path, so that leaving out folders does not change which member is first.
  have hsame : members.find? (isFileAt (childPath (normalize folder) h)) =
      members.find? (·.path == childPath (normalize folder) h) := by
    refine List.find?_congr fun m hmem => ?_
    cases hcase : m.isFolder with
    | false => simp [isFileAt, hcase]
    | true =>
      have hne : m.path ≠ childPath (normalize folder) h := fun hpath =>
        hnot ⟨hh, m, hmem, .inr ⟨hpath, hcase⟩⟩
      simp [isFileAt, hne]
  refine ⟨m, hm, ?_⟩
  rw [fileRow?, lookup_fileMembers hh, hsame, hm]
  rfl

theorem map_shown_filterMap {names : List Text} {row? : Text → Option Row}
    (hrow : ∀ h ∈ names, ∃ row, row? h = some row ∧ shown row = (h, false)) :
    (names.filterMap row?).map shown = names.map fun h => (h, false) := by
  induction names with
  | nil => rfl
  | cons name names ih =>
    obtain ⟨row, hsome, hshown⟩ := hrow name List.mem_cons_self
    rw [List.filterMap_cons_some hsome, List.map_cons, List.map_cons, hshown,
      ih fun h hh => hrow h (List.mem_cons_of_mem name hh)]

/-- There is one row for each file name, in the same order. -/
theorem map_shown_fileRows (members : List Member) (folder : Text) :
    (fileRows members (normalize folder)).map shown =
      (fileColumn members (normalize folder)).map fun h => (h, false) := by
  refine map_shown_filterMap fun h hh => ?_
  obtain ⟨m, -, hrow⟩ := fileRow?_of_shows (mem_fileColumn.1 hh)
  exact ⟨_, hrow, rfl⟩

/-- The rows show each name once, the folders first. -/
theorem map_shown_rows (members : List Member) (folder : Text) :
    (rows members (normalize folder)).map shown =
      ((folderColumn members (normalize folder)).map fun h => (h, true)) ++
        (fileColumn members (normalize folder)).map fun h => (h, false) := by
  rw [rows_eq, List.map_append, List.map_map, map_shown_fileRows]
  rfl

theorem map_name_eq (rows : List Row) : rows.map (·.name) = (rows.map shown).map (·.1) := by
  rw [List.map_map]
  rfl

/-- The names of the rows are the folder names and then the file names. -/
theorem map_name_rows (members : List Member) (folder : Text) :
    (rows members (normalize folder)).map (·.name) =
      folderColumn members (normalize folder) ++ fileColumn members (normalize folder) := by
  rw [map_name_eq, map_shown_rows, List.map_append, List.map_map, List.map_map]
  exact congrArg₂ (· ++ ·) (List.map_id _) (List.map_id _)

theorem map_name_fileRows (members : List Member) (folder : Text) :
    (fileRows members (normalize folder)).map (·.name) = fileColumn members (normalize folder) := by
  rw [map_name_eq, map_shown_fileRows, List.map_map]
  exact List.map_id _

theorem exists_row_iff {rows : List Row} {b : Bool} :
    (∃ row ∈ rows, row.isFolder = b ∧ row.name = h) ↔ (h, b) ∈ rows.map shown := by
  rw [List.mem_map]
  constructor
  · rintro ⟨row, hrow, rfl, rfl⟩
    exact ⟨row, hrow, rfl⟩
  · rintro ⟨row, hrow, heq⟩
    cases heq
    exact ⟨row, hrow, rfl, rfl⟩

theorem isFolder_of_mem_fileRows {row : Row} (hrow : row ∈ fileRows members (normalize folder)) :
    row.isFolder = false := by
  have hshown := List.mem_map_of_mem (f := shown) hrow
  rw [map_shown_fileRows, List.mem_map] at hshown
  obtain ⟨h, -, heq⟩ := hshown
  exact (congrArg Prod.snd heq).symm

/-- No name is listed twice, since what is a folder is not listed as a file. -/
theorem nodup_map_name_rows (members : List Member) (folder : Text) :
    ((rows members (normalize folder)).map (·.name)).Nodup := by
  rw [map_name_rows, List.nodup_append]
  have hne : ∀ {a b : Text}, a < b → a ≠ b := by
    rintro a b hlt rfl
    exact List.lt_irrefl a hlt
  refine ⟨(pairwise_folderColumn _ _).imp hne, (pairwise_fileColumn _ _).imp hne, ?_⟩
  rintro name hfolder other hfile rfl
  exact (mem_fileColumn.1 hfile).2.1 (mem_folderColumn.1 hfolder)

end Rows

/-! ## What a listing is -/

/-- All rows that a folder is to show, given in its one spelling. -/
structure IsListing (members : List Member) (folder : Text) (rows : List Row) : Prop where
  /-- There is a row of a folder for each name that shows as one. -/
  folder_iff : ∀ h, (∃ row ∈ rows, row.isFolder = true ∧ row.name = h) ↔
    ShowsFolder members folder h
  /-- There is a row of a file for each name that shows as one. -/
  file_iff : ∀ h, (∃ row ∈ rows, row.isFolder = false ∧ row.name = h) ↔ ShowsFile members folder h
  /-- No two rows have one name. -/
  nodup : (rows.map (·.name)).Nodup
  isName : ∀ row ∈ rows, row.name ≠ [] ∧ '/' ∉ row.name
  /-- Folders come before files, each by code point. -/
  ordered : ∃ folders files, rows = folders ++ files ∧
    (∀ row ∈ folders, row.isFolder = true) ∧ (∀ row ∈ files, row.isFolder = false) ∧
    (folders.map (·.name)).Pairwise (· < ·) ∧ (files.map (·.name)).Pairwise (· < ·)
  /-- The sizes of a file are those of the first member that goes by its path. -/
  sizes : ∀ row ∈ rows, row.isFolder = false →
    ∃ m, members.find? (·.path == childPath folder row.name) = some m ∧
      row.size = m.size ∧ row.compressedSize = m.compressedSize

/-- The rows of a folder are its listing. -/
theorem isListing_rows (members : List Member) (folder : Text) :
    IsListing members (normalize folder) (rows members (normalize folder)) := by
  refine
    { folder_iff := fun h => ?_, file_iff := fun h => ?_,
      nodup := nodup_map_name_rows members folder, isName := fun row hrow => ?_, ordered := ?_,
      sizes := fun row hrow hfile => ?_ }
  · rw [exists_row_iff, map_shown_rows, ← mem_folderColumn]
    simp
  · rw [exists_row_iff, map_shown_rows, ← mem_fileColumn]
    simp
  · have hname : row.name ∈ (rows members (normalize folder)).map (·.name) :=
      List.mem_map_of_mem hrow
    rw [map_name_rows, List.mem_append] at hname
    have hh : IsSegment row.name := by
      rcases hname with hname | hname
      · exact (mem_folderColumn.1 hname).1
      · exact (mem_fileColumn.1 hname).1
    exact ⟨hh.ne_nil, hh.slash_not_mem⟩
  · refine ⟨_, _, rows_eq members (normalize folder), ?_,
      fun row => isFolder_of_mem_fileRows, ?_, ?_⟩
    · intro row hrow
      obtain ⟨h, -, rfl⟩ := List.mem_map.1 hrow
      rfl
    · rw [List.map_map]
      exact (List.map_id _).symm ▸ pairwise_folderColumn members (normalize folder)
    · rw [map_name_fileRows]
      exact pairwise_fileColumn members (normalize folder)
  · rw [rows_eq, List.mem_append] at hrow
    rcases hrow with hrow | hrow
    · obtain ⟨h, -, rfl⟩ := List.mem_map.1 hrow
      cases hfile
    · obtain ⟨h, hh, hsome⟩ := List.mem_filterMap.1 hrow
      obtain ⟨m, hfind, hrow'⟩ := fileRow?_of_shows (mem_fileColumn.1 hh)
      rw [hsome] at hrow'
      cases hrow'
      exact ⟨m, hfind, rfl, rfl⟩

/-- What a listing shows besides the sizes does not depend on the order of the members. -/
theorem map_shown_rows_congr {members members' : List Member} (hperm : members.Perm members')
    (folder : Text) :
    (rows members (normalize folder)).map shown = (rows members' (normalize folder)).map shown := by
  obtain ⟨hfolders, hfiles⟩ := columns_congr hperm (normalize folder)
  rw [map_shown_rows, map_shown_rows, hfolders, hfiles]

/-- What a listing shows besides the sizes. -/
def shownBy (l : Listing) : Text × Nat × Bool × List (Text × Bool) :=
  (l.folder, l.total, l.truncated, l.rows.map shown)

/-- A listing is the first rows of all that the folder is to show, and tells how many there are. It
does not depend on the order of the members, but for the sizes of files. -/
theorem list_isListing (members : List Member) (limit : Nat) (folder : Text) :
    ∃ all, IsListing members (normalize folder) all ∧
      (list members limit folder).rows = all.take limit ∧
      (list members limit folder).total = all.length ∧
      ((list members limit folder).truncated = true ↔ limit < all.length) ∧
      ∀ members', members.Perm members' →
        shownBy (list members' limit folder) = shownBy (list members limit folder) := by
  refine ⟨rows members (normalize folder), isListing_rows members folder, rfl, rfl, ?_, ?_⟩
  · simp [list]
  · intro members' hperm
    have hshown := map_shown_rows_congr hperm folder
    have hlength : (rows members' (normalize folder)).length =
        (rows members (normalize folder)).length := by
      have h := congrArg List.length hshown
      simpa using h.symm
    have htake : ((rows members' (normalize folder)).take limit).map shown =
        ((rows members (normalize folder)).take limit).map shown := by
      rw [List.map_take, List.map_take, hshown]
    rw [shownBy, shownBy, Prod.mk.injEq, Prod.mk.injEq, Prod.mk.injEq]
    exact ⟨rfl, hlength, by simp only [list, hlength], htake⟩

end JarLens.Archive
