import JarLens.Proofs.Archive.Finding

/-!
# The member behind a row

The row of a file shows the sizes of the first member that goes by its path. A read of the path
takes the last member that is named by it as written, and only without one the first that goes by
it. `row_shows_member` says of every row which members these are, and that they are one exactly if
no other member than the one shown is named by the path as written.
-/

namespace JarLens

open Archive Entry

/-! ## Members by their positions -/

/-- The first of the members that go by a path, and its position. -/
structure IsFirstAt (members : List Member) (path : Text) (i : Nat) (x : Member) : Prop where
  get : members[i]? = some x
  path_eq : x.path = path
  first : ∀ k y, k < i → members[k]? = some y → y.path ≠ path

/-- The last of the members that are named by a path as written, and its position. -/
structure IsLastNamed (members : List Member) (path : Text) (j : Nat) (x : Member) : Prop where
  get : members[j]? = some x
  name_eq : x.name = path
  last : ∀ k y, j < k → members[k]? = some y → y.name ≠ path

/-- The member that a read of a path takes, and its position. -/
inductive IsTakenAt (members : List Member) (path : Text) (j : Nat) (x : Member) : Prop
  | named (h : IsLastNamed members path j x)
  | respelled (hnames : ∀ y ∈ members, y.name ≠ path) (h : IsFirstAt members path j x)

section Positions

variable {members : List Member} {path : Text} {i j : Nat} {x y : Member}

theorem exists_isFirstAt (h : members.find? (·.path == path) = some x) :
    ∃ i, IsFirstAt members path i x := by
  obtain ⟨hpath, i, hi, rfl, hbefore⟩ := List.find?_eq_some_iff_getElem.1 h
  refine ⟨i, List.getElem?_eq_getElem hi, by simpa using hpath, fun k y hk hy => ?_⟩
  obtain ⟨hlt, rfl⟩ := List.getElem?_eq_some_iff.1 hy
  simpa using hbefore k hk

theorem exists_isLastNamed (h : lastNamed? members path = some x) :
    ∃ j, IsLastNamed members path j x := by
  obtain ⟨hname, after, before, hsplit, hafter⟩ := List.find?_eq_some_iff_append.1 h
  have hmembers : members = before.reverse ++ x :: after.reverse := by
    have hreverse := congrArg List.reverse hsplit
    simpa using hreverse
  refine ⟨before.length, by simp [hmembers], by simpa using hname, fun k y hk hy => ?_⟩
  obtain ⟨n, rfl⟩ := Nat.exists_eq_add_of_lt hk
  have hlater : members[before.length + n + 1]? = after.reverse[n]? := by
    rw [hmembers, List.getElem?_append_right (by simp; omega), List.length_reverse,
      Nat.add_assoc, Nat.add_sub_cancel_left, List.getElem?_cons_succ]
  rw [hlater] at hy
  simpa using hafter y (List.mem_reverse.1 (List.mem_of_getElem? hy))

theorem exists_isTakenAt (hne : path ≠ []) (h : candidate? members path = some x) :
    ∃ j, IsTakenAt members path j x := by
  rcases candidate?_cases hne h with hlast | ⟨hnames, hfirst⟩
  · obtain ⟨j, hj⟩ := exists_isLastNamed hlast
    exact ⟨j, .named hj⟩
  · obtain ⟨j, hj⟩ := exists_isFirstAt hfirst
    exact ⟨j, .respelled hnames hj⟩

theorem IsTakenAt.get (h : IsTakenAt members path j x) : members[j]? = some x := by
  cases h with
  | named h => exact h.get
  | respelled _ h => exact h.get

/-- There is one first position. -/
theorem IsFirstAt.unique (hx : IsFirstAt members path i x) (hy : IsFirstAt members path j y) :
    i = j := by
  rcases Nat.lt_trichotomy i j with hlt | heq | hgt
  · exact absurd hx.path_eq (hy.first i x hlt hx.get)
  · exact heq
  · exact absurd hy.path_eq (hx.first j y hgt hy.get)

/-- What is taken is what comes first exactly if no other member is named by the path as written. -/
theorem IsTakenAt.eq_iff (hnormal : normalize path = path) (hx : IsFirstAt members path i x)
    (hy : IsTakenAt members path j y) :
    j = i ↔ ∀ k z, k ≠ i → members[k]? = some z → z.name ≠ path := by
  cases hy with
  | named hy =>
    constructor
    · rintro rfl k z hk hz
      rcases Nat.lt_or_gt_of_ne hk with hlt | hgt
      · intro hname
        exact hx.first k z hlt hz (by rw [Member.path, hname, hnormal])
      · exact hy.last k z hgt hz
    · intro hnone
      by_contra hne
      exact hnone j y hne hy.get hy.name_eq
  | respelled hnames hy =>
    exact iff_of_true (hy.unique hx) fun k z _ hz => hnames z (List.mem_of_getElem? hz)

end Positions

/-! ## Rows and reads -/

/-- The members that the row of a file and a read of its path are about. -/
structure RowMembers (m : Machine) (path : Text) (archive : Archive) (entry : Text) (row : Row)
    (i : Nat) (x : Member) (j : Nat) (y : Member) : Prop where
  /-- The row shows the first member that goes by the path. -/
  first : IsFirstAt archive.members (normalize entry) i x
  size_eq : row.size = x.size
  compressedSize_eq : row.compressedSize = x.compressedSize
  /-- The read takes the last one that is named by the path as written, if there is one. -/
  taken : IsTakenAt archive.members (normalize entry) j y
  find?_eq : Archive.find? archive.members entry = some y
  readText_eq : m.readText path entry =
    match archive.read y with
    | .ok data => .ok (some (Text.shown (Text.decodeUtf8 data)))
    | .error fault => .error (.badMember fault)
  /-- They are one exactly if no other member is named by the path as written. -/
  same_iff : j = i ↔ ∀ k z, k ≠ i → archive.members[k]? = some z → z.name ≠ normalize entry
  /-- Then the row shows the sizes of what is read. -/
  sizes : (∀ k z, k ≠ i → archive.members[k]? = some z → z.name ≠ normalize entry) →
    row.size = y.size ∧ row.compressedSize = y.compressedSize

theorem mem_of_mem_takeRows {limit : Int} {rows : List Row} {row : Row}
    (h : row ∈ takeRows limit rows) : row ∈ rows := by
  cases limit <;> exact List.mem_of_mem_take h

/-- Each row of a file in a listing of an archive that opens is about the first member that goes by
its path, and a read of the path about the member that it takes there. -/
theorem row_shows_member {m : Machine} {path folder place : Text} {archive : Archive} {limit : Int}
    {l : Listing} {row : Row} (hopen : m.openArchive path = .ok archive)
    (hlist : m.list limit path folder = .ok (place, l)) (hrow : row ∈ l.rows)
    (hfile : row.isFolder = false) :
    ∃ i x j y, RowMembers m path archive (childPath folder row.name) row i x j y := by
  obtain ⟨place', hlist'⟩ := Machine.exists_list_eq hopen
  rw [hlist'] at hlist
  cases hlist
  have hrow' : row ∈ rows archive.members (normalize folder) := mem_of_mem_takeRows hrow
  have hlisting := isListing_rows archive.members folder
  obtain ⟨hh, hpath⟩ := showsFile_iff.1 ((hlisting.file_iff row.name).1 ⟨row, hrow', hfile, rfl⟩)
  obtain ⟨x, hx, hsize, hcompressed⟩ := hlisting.sizes row hrow' hfile
  rw [← normalize_childPath hh] at hpath hx
  obtain ⟨i, hi⟩ := exists_isFirstAt hx
  obtain ⟨y, hy⟩ := Option.isSome_iff_exists.1 (isFilePath_iff.1 hpath).1
  obtain ⟨j, hj⟩ := exists_isTakenAt hpath.ne_nil (Option.filter_eq_some_iff.1 hy).1
  have hsame := hj.eq_iff (normalize_normalize _) hi
  refine ⟨i, x, j, y,
    { first := hi, size_eq := hsize, compressedSize_eq := hcompressed, taken := hj, find?_eq := hy
      readText_eq := Source.readText_of_find hopen hy
      same_iff := hsame, sizes := fun hnone => ?_ }⟩
  obtain rfl : x = y := by
    have hget := hj.get
    rw [hsame.2 hnone, hi.get] at hget
    exact Option.some.inj hget
  exact ⟨hsize, hcompressed⟩

/-- Of the files `a` and `/a`, in this order, the row shows the first, and a read takes it too. -/
theorem row_shows_member_letterFile : ∃ archive place l row y,
    (archiveMachine (pairArchive letterFile slashedFile)).openArchive "/a.jar".toList =
      .ok archive ∧
    (archiveMachine (pairArchive letterFile slashedFile)).list 100 "/a.jar".toList [] =
      .ok (place, l) ∧
    row ∈ l.rows ∧ row.isFolder = false ∧ row.size = 1 ∧
    Archive.find? archive.members (childPath [] row.name) = some y ∧ row.size = y.size := by
  have hopen := opens_pair letterFile slashedFile (by decide +kernel) (by decide +kernel)
  obtain ⟨place, hlist⟩ := Machine.exists_list_eq hopen
  have hrow : (⟨"a".toList, false, 1, 1⟩ : Row) ∈
      (list [letterFile.member 0 letterFile.entry.length,
        slashedFile.member letterFile.entry.length (letterFile.entry ++ slashedFile.entry).length]
        100 []).rows := by
    decide +kernel
  obtain ⟨i, x, j, y, hmembers⟩ := row_shows_member hopen (hlist 100 []) hrow rfl
  have hi : i = 0 := hmembers.first.unique
    ⟨rfl, by decide +kernel, fun k _ hk => absurd hk (Nat.not_lt_zero k)⟩
  refine ⟨_, place, _, _, y, hopen, hlist 100 [], hrow, rfl, rfl, hmembers.find?_eq,
    (hmembers.sizes fun k z hk hz => ?_).1⟩
  match k with
  | 0 => exact absurd hi.symm hk
  | 1 =>
    cases hz
    decide +kernel

/-- Of two files named `a` the row shows the first and a read takes the last. -/
theorem row_twiceNamed : ∃ archive place l row y,
    (archiveMachine (pairArchive letterFile plainFile)).openArchive "/a.jar".toList =
      .ok archive ∧
    (archiveMachine (pairArchive letterFile plainFile)).list 100 "/a.jar".toList [] =
      .ok (place, l) ∧
    row ∈ l.rows ∧ row.isFolder = false ∧ row.size = 1 ∧
    Archive.find? archive.members (childPath [] row.name) = some y ∧ y.size = 0 ∧
    (archiveMachine (pairArchive letterFile plainFile)).readText "/a.jar".toList
      (childPath [] row.name) = .ok (some []) := by
  have hopen := opens_pair letterFile plainFile (by decide +kernel) (by decide +kernel)
  obtain ⟨place, hlist⟩ := Machine.exists_list_eq hopen
  have hfind : Archive.find? [letterFile.member 0 letterFile.entry.length,
      plainFile.member letterFile.entry.length (letterFile.entry ++ plainFile.entry).length]
      (childPath [] "a".toList) = some (plainFile.member letterFile.entry.length
        (letterFile.entry ++ plainFile.entry).length) := by
    decide +kernel
  refine ⟨_, place, _, ⟨"a".toList, false, 1, 1⟩, _, hopen, hlist 100 [], by decide +kernel, rfl,
    rfl, hfind, rfl, ?_⟩
  rw [Source.readText_of_find hopen hfind]
  decide +kernel

end JarLens
