import JarLens.Proofs.Archive.Lookup
import JarLens.Proofs.Archive.Pairs

/-!
# Which files a look-up finds

A look-up settles on one member before it asks whether that is a folder. It misses a file exactly
where no name is the path as written and the first name with its spelling is a folder's
(`exists_find?_iff`). Only then does the order of the members matter: `finds_files` says for which
archives an order can be told, and that a read without a text tells the same.
-/

namespace JarLens

open Archive Entry

/-! ## Files and folders at one path -/

/-- Some file goes by the path. -/
def HasFileAt (members : List Member) (path : Text) : Prop :=
  ∃ x ∈ members, x.path = path ∧ x.isFolder = false

/-- No name is the path as written, and the first one with its spelling is a folder's. -/
def FolderComesFirst (members : List Member) (path : Text) : Prop :=
  (∀ x ∈ members, x.name ≠ path) ∧ ∃ x, firstAt? members path = some x ∧ x.isFolder = true

/-- No name is the path as written, and a file as well as a folder go by it. -/
structure IsContested (members : List Member) (path : Text) : Prop where
  respelled : ∀ x ∈ members, x.name ≠ path
  file : HasFileAt members path
  folder : ∃ x ∈ members, x.path = path ∧ x.isFolder = true

section Members

variable {members members' : List Member} {x : Member} {path entry : Text}

theorem lastNamed?_eq_none : lastNamed? members path = none ↔ ∀ x ∈ members, x.name ≠ path := by
  simp [lastNamed?]

/-- A path in its one spelling is no name of a folder, which ends with a slash. -/
theorem isFolder_of_name_eq (hnormal : normalize path = path) (hne : path ≠ [])
    (hname : x.name = path) : x.isFolder = false := by
  obtain ⟨folder, h, -, hh, rfl⟩ := exists_childPath hnormal hne
  have hlast : (childPath folder h).getLast? = h.getLast? := by
    unfold childPath
    split
    · rfl
    · rw [List.getLast?_append_cons, List.getLast?_cons_of_ne_nil hh.ne_nil]
  rw [Member.isFolder, hname, hlast, decide_eq_false_iff_not]
  exact fun hslash => hh.slash_not_mem (List.mem_of_getLast? hslash)

/-- What no look-up for the path as written comes to is the first member with its spelling. -/
theorem candidate?_of_respelled (hne : path ≠ []) (h : ∀ x ∈ members, x.name ≠ path) :
    candidate? members path = firstAt? members path := by
  rw [candidate?, if_neg hne, lastNamed?_eq_none.2 h]
  rfl

/-- A look-up comes to the last member that is named by the path as written, or if there is none to
the first one with its spelling. -/
theorem candidate?_cases (hne : path ≠ []) (h : candidate? members path = some x) :
    lastNamed? members path = some x ∨
      (∀ z ∈ members, z.name ≠ path) ∧ firstAt? members path = some x := by
  cases hlast : lastNamed? members path with
  | none =>
    have hrespelled := lastNamed?_eq_none.1 hlast
    exact .inr ⟨hrespelled, candidate?_of_respelled hne hrespelled ▸ h⟩
  | some y =>
    rw [candidate?, if_neg hne, hlast] at h
    exact .inl h

/-- A file is found exactly if one goes by the path and no folder comes first there. -/
theorem exists_find?_iff (hne : normalize entry ≠ []) :
    (∃ x, Archive.find? members entry = some x) ↔
      HasFileAt members (normalize entry) ∧ ¬FolderComesFirst members (normalize entry) := by
  constructor
  · rintro ⟨x, hfind⟩
    refine ⟨⟨x, find?_eq_some hfind⟩, ?_⟩
    rintro ⟨hrespelled, y, hfirst, hfolder⟩
    rw [Archive.find?, candidate?_of_respelled hne hrespelled, hfirst,
      Option.filter_some_neg (by simp [hfolder])] at hfind
    cases hfind
  · rintro ⟨⟨y, hy, hpath, -⟩, hnot⟩
    obtain ⟨x, hx⟩ := exists_candidate? hne hy hpath
    refine ⟨x, Option.filter_eq_some_iff.2 ⟨hx, ?_⟩⟩
    cases hfolder : x.isFolder with
    | false => rfl
    | true =>
      rcases candidate?_cases hne hx with hlast | ⟨hrespelled, hfirst⟩
      · have hname : x.name = normalize entry := by simpa using List.find?_some hlast
        rw [isFolder_of_name_eq (normalize_normalize entry) hne hname] at hfolder
        cases hfolder
      · exact absurd ⟨hrespelled, x, hfirst, hfolder⟩ hnot

/-! ## The order of the members -/

theorem hasFileAt_iff_names : HasFileAt members path ↔
    ∃ name ∈ members.map (·.name), normalize name = path ∧ name.getLast? ≠ some '/' := by
  simp [HasFileAt, Member.path, Member.isFolder]

theorem hasFileAt_congr (hnames : (members'.map (·.name)).Perm (members.map (·.name))) :
    HasFileAt members' path ↔ HasFileAt members path := by
  simp only [hasFileAt_iff_names, hnames.mem_iff]

/-- Whether a path is contested is known from the members' names. -/
theorem isContested_iff_names : IsContested members path ↔ path ∉ members.map (·.name) ∧
    HasFileAt members path ∧
      ∃ name ∈ members.map (·.name), normalize name = path ∧ name.getLast? = some '/' := by
  constructor
  · rintro ⟨hrespelled, hfile, y, hy, hpath, hfolder⟩
    exact ⟨by simpa using hrespelled, hfile, y.name, List.mem_map_of_mem hy, hpath,
      by simpa [Member.isFolder] using hfolder⟩
  · rintro ⟨hrespelled, hfile, name, hname, hpath, hfolder⟩
    obtain ⟨y, hy, rfl⟩ := List.mem_map.1 hname
    exact ⟨by simpa using hrespelled, hfile, y, hy, hpath, by simpa [Member.isFolder] using hfolder⟩

theorem isContested_congr (hnames : (members'.map (·.name)).Perm (members.map (·.name))) :
    IsContested members' path ↔ IsContested members path := by
  simp only [isContested_iff_names, hasFileAt_congr hnames, hnames.mem_iff]

/-- A path at which a folder comes first is contested if a file goes by it. -/
theorem FolderComesFirst.isContested (h : FolderComesFirst members path)
    (hfile : HasFileAt members path) : IsContested members path := by
  obtain ⟨hrespelled, y, hfirst, hfolder⟩ := h
  exact ⟨hrespelled, hfile, y, List.mem_of_find?_eq_some hfirst,
    by simpa using List.find?_some hfirst, hfolder⟩

/-- Any member that goes by a path can be brought in front of the others. -/
theorem exists_perm_firstAt?_eq (hx : x ∈ members) (hpath : x.path = path) :
    ∃ members', members'.Perm members ∧ firstAt? members' path = some x :=
  ⟨x :: members.erase x, (List.perm_cons_erase hx).symm, List.find?_cons_of_pos (by simp [hpath])⟩

/-- An entry is found exactly if a file goes by its path and no folder comes first. -/
theorem hasEntry_iff {archive : Archive} (hne : normalize entry ≠ []) :
    archive.hasEntry entry = true ↔ HasFileAt archive.members (normalize entry) ∧
      ¬FolderComesFirst archive.members (normalize entry) := by
  rw [Archive.hasEntry, Option.isSome_iff_exists, exists_find?_iff hne]

/-- Unless a path is contested, an entry is found exactly if a file goes by it. -/
theorem hasEntry_iff_hasFileAt {archive : Archive} (hne : normalize entry ≠ [])
    (hnot : ¬IsContested archive.members (normalize entry)) :
    archive.hasEntry entry = true ↔ HasFileAt archive.members (normalize entry) := by
  rw [hasEntry_iff hne]
  exact and_iff_left_of_imp fun hfile hfolder => hnot (hfolder.isContested hfile)

/-- Where a path is contested, a file is found in one order of the members and none in another. -/
theorem IsContested.exists_hasEntry_eq {archive : Archive} (hne : normalize entry ≠ [])
    (h : IsContested archive.members (normalize entry)) (b : Bool) :
    ∃ members', members'.Perm archive.members ∧
      Archive.hasEntry { archive with members := members' } entry = b := by
  obtain ⟨x, hx, hpath, hkind⟩ : ∃ x ∈ archive.members,
      x.path = normalize entry ∧ x.isFolder = !b := by
    cases b with
    | false => exact h.folder
    | true => exact h.file
  obtain ⟨members', hperm, hfirst⟩ := exists_perm_firstAt?_eq hx hpath
  have hrespelled : ∀ z ∈ members', z.name ≠ normalize entry := fun z hz =>
    h.respelled z (hperm.mem_iff.1 hz)
  refine ⟨members', hperm, ?_⟩
  rw [Archive.hasEntry, Archive.find?, candidate?_of_respelled hne hrespelled, hfirst]
  cases b <;> simp [Option.filter, hkind]

end Members

/-! ## The archive at a path -/

section Opened

variable {m m' : Machine} {path path' entry : Text} {archive archive' : Archive}

theorem Machine.readText_eq_none_iff (hopen : m.openArchive path = .ok archive) :
    m.readText path entry = .ok none ↔ archive.hasEntry entry = false := by
  rw [Archive.hasEntry]
  cases hfind : Archive.find? archive.members entry with
  | none => exact iff_of_true (Machine.readText_of_not_found hopen hfind) rfl
  | some x =>
    rw [Source.readText_of_find hopen hfind]
    refine iff_of_false ?_ (by simp)
    cases archive.read x <;> simp

/-- What is told of the files that go by the path of an entry. -/
structure FindsFiles (m : Machine) (path : Text) (archive : Archive) (entry : Text) : Prop where
  /-- An entry is found exactly if a file goes by its path and no folder comes first there. -/
  found : m.hasEntry path entry = .ok true ↔ HasFileAt archive.members (normalize entry) ∧
    ¬FolderComesFirst archive.members (normalize entry)
  /-- Otherwise the look-up tells that there is no such entry. -/
  missed : m.hasEntry path entry = .ok false ↔ (HasFileAt archive.members (normalize entry) →
    FolderComesFirst archive.members (normalize entry))
  /-- A read tells that there is no text where the look-up finds nothing. -/
  noText : m.readText path entry = .ok none ↔ m.hasEntry path entry = .ok false
  /-- Archives with the same names in any order tell the same, where the path is not contested. -/
  ordered : ¬IsContested archive.members (normalize entry) →
    ∀ (m' : Machine) path' archive', m'.openArchive path' = .ok archive' →
    (archive'.members.map (·.name)).Perm (archive.members.map (·.name)) →
      m'.hasEntry path' entry = m.hasEntry path entry ∧
      (m'.readText path' entry = .ok none ↔ m.readText path entry = .ok none)
  /-- Where it is, the members of the archive tell both, depending on their order. -/
  contested : IsContested archive.members (normalize entry) → ∀ b, ∃ members',
    members'.Perm archive.members ∧
      Archive.hasEntry { archive with members := members' } entry = b

/-- In an archive that opens, an entry is found exactly if a file goes by its path, unless a folder
with that spelling comes first and no name is the path as written. -/
theorem finds_files (hopen : m.openArchive path = .ok archive) (hne : normalize entry ≠ []) :
    FindsFiles m path archive entry := by
  have hhas : ∀ b, m.hasEntry path entry = .ok b ↔ archive.hasEntry entry = b := fun b => by
    rw [Source.Machine.hasEntry_eq hopen, Except.ok.injEq]
  refine
    { found := (hhas true).trans (hasEntry_iff hne)
      missed := ?_
      noText := (Machine.readText_eq_none_iff hopen).trans (hhas false).symm
      ordered := fun hnot m' path' archive' hopen' hnames => ?_
      contested := fun h b => h.exists_hasEntry_eq hne b }
  · rw [hhas, ← Bool.not_eq_true, hasEntry_iff hne, not_and_not_right]
  · have hnot' : ¬IsContested archive'.members (normalize entry) := fun h =>
      hnot ((isContested_congr hnames).1 h)
    have hsame : archive'.hasEntry entry = archive.hasEntry entry := by
      rw [Bool.eq_iff_iff, hasEntry_iff_hasFileAt hne hnot', hasEntry_iff_hasFileAt hne hnot]
      exact hasFileAt_congr hnames
    rw [Source.Machine.hasEntry_eq hopen, Source.Machine.hasEntry_eq hopen',
      Machine.readText_eq_none_iff hopen, Machine.readText_eq_none_iff hopen', hsame]
    exact ⟨rfl, Iff.rfl⟩

end Opened

/-- A name that is the path as written is found in front of a folder and behind it. -/
theorem finds_files_plainFile : ∃ archive archive',
    (archiveMachine (pairArchive plainFile plainFolder)).openArchive "/a.jar".toList =
      .ok archive ∧
    (archiveMachine (pairArchive plainFolder plainFile)).openArchive "/a.jar".toList =
      .ok archive' ∧
    normalize "a".toList ≠ [] ∧ ¬IsContested archive.members (normalize "a".toList) ∧
    (archiveMachine (pairArchive plainFile plainFolder)).hasEntry "/a.jar".toList "a".toList =
      .ok true ∧
    (archiveMachine (pairArchive plainFolder plainFile)).hasEntry "/a.jar".toList "a".toList =
      .ok true := by
  have hopen := opens_pair plainFile plainFolder (by decide +kernel) (by decide +kernel)
  have hopen' := opens_pair plainFolder plainFile (by decide +kernel) (by decide +kernel)
  have hne : normalize "a".toList ≠ [] := by decide
  have hfinds := finds_files hopen hne
  have hplain : ¬IsContested [plainFile.member 0 plainFile.entry.length,
      plainFolder.member plainFile.entry.length (plainFile.entry ++ plainFolder.entry).length]
      (normalize "a".toList) := fun h =>
    h.respelled _ List.mem_cons_self (by decide +kernel)
  have hfile := hfinds.found.2 ⟨⟨_, List.mem_cons_self, by decide +kernel, by decide +kernel⟩,
    fun h => h.1 _ List.mem_cons_self (by decide +kernel)⟩
  obtain ⟨hsame, -⟩ := hfinds.ordered hplain _ _ _ hopen' (List.Perm.swap _ _ _)
  exact ⟨_, _, hopen, hopen', hne, hplain, hfile, hsame.trans hfile⟩

/-- Of the file `/a` and the folder `a/`, which have one spelling, the first one decides whether an
entry is found. -/
theorem hasEntry_folderFirst : ∃ archive archive',
    (archiveMachine (pairArchive plainFolder slashedFile)).openArchive "/a.jar".toList =
      .ok archive ∧
    (archiveMachine (pairArchive slashedFile plainFolder)).openArchive "/a.jar".toList =
      .ok archive' ∧
    (archive'.members.map (·.name)).Perm (archive.members.map (·.name)) ∧
    HasFileAt archive.members "a".toList ∧
    (archiveMachine (pairArchive plainFolder slashedFile)).hasEntry "/a.jar".toList "a".toList =
      .ok false ∧
    (archiveMachine (pairArchive slashedFile plainFolder)).hasEntry "/a.jar".toList "a".toList =
      .ok true := by
  have hopen := opens_pair plainFolder slashedFile (by decide +kernel) (by decide +kernel)
  have hopen' := opens_pair slashedFile plainFolder (by decide +kernel) (by decide +kernel)
  refine ⟨_, _, hopen, hopen', List.Perm.swap _ _ _,
    ⟨_, List.mem_cons_of_mem _ List.mem_cons_self, by decide +kernel, by decide +kernel⟩, ?_, ?_⟩
  · rw [Source.Machine.hasEntry_eq hopen]
    decide +kernel
  · rw [Source.Machine.hasEntry_eq hopen']
    decide +kernel

end JarLens
