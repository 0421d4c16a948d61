import JarLens.Proofs.Archive.Browsing

/-!
# Looking up what a listing shows

A listing goes over the one spelling of all names, while a look-up tries the names as written first,
the last of equal ones, and the first with the same spelling after that. `lookup_agrees` says that
they tell the same nevertheless: both ways of looking up come to a member that goes by the path
(`candidate?_eq_some`), and they come to one if there is one.
-/

namespace JarLens

open Archive Entry

/-! ## Members by their paths -/

section Candidates

variable {members : List Member} {member : Member} {path entry : Text}

theorem candidate?_eq_some (hnormal : normalize path = path)
    (h : candidate? members path = some member) : member ∈ members ∧ member.path = path := by
  unfold candidate? at h
  split at h
  · cases h
  · cases hlast : lastNamed? members path with
    | some found =>
      rw [hlast] at h
      cases h
      have hname : member.name = path := by simpa using List.find?_some hlast
      refine ⟨List.mem_reverse.1 (List.mem_of_find?_eq_some hlast), ?_⟩
      rw [Member.path, hname, hnormal]
    | none =>
      rw [hlast] at h
      exact ⟨List.mem_of_find?_eq_some h, by simpa using List.find?_some h⟩

/-- Where a member has the path, some member is looked at. -/
theorem exists_candidate? (hne : path ≠ []) (hmember : member ∈ members)
    (hpath : member.path = path) : ∃ found, candidate? members path = some found := by
  have hfirst : (firstAt? members path).isSome = true :=
    List.find?_isSome.2 ⟨member, hmember, by simp [hpath]⟩
  rw [← Option.isSome_iff_exists, candidate?, if_neg hne]
  cases lastNamed? members path with
  | none => exact hfirst
  | some found => rfl

theorem find?_eq_some (h : Archive.find? members entry = some member) :
    member ∈ members ∧ member.path = normalize entry ∧ member.isFolder = false := by
  obtain ⟨hcandidate, hfile⟩ := Option.filter_eq_some_iff.1 h
  obtain ⟨hmember, hpath⟩ := candidate?_eq_some (normalize_normalize entry) hcandidate
  exact ⟨hmember, hpath, by simpa using hfile⟩

/-- Where no folder goes by a path and nothing lies beneath it, there is a file at the path exactly
if the look-up finds one. -/
theorem isFilePath_iff {archive : Archive} :
    IsFilePath archive.members (normalize entry) ↔ archive.hasEntry entry = true ∧
      (∀ x ∈ archive.members, ¬LiesBeneath (normalize entry) x.path) ∧
      ∀ x ∈ archive.members, x.path = normalize entry → x.isFolder = false := by
  constructor
  · rintro ⟨hne, ⟨member, hmember, -, hpath⟩, hfile, hnot⟩
    obtain ⟨found, hfound⟩ := exists_candidate? hne hmember hpath
    obtain ⟨hmem, hsame⟩ := candidate?_eq_some (normalize_normalize entry) hfound
    have hfind : Archive.find? archive.members entry = some found :=
      Option.filter_eq_some_iff.2 ⟨hfound, by simp [hfile found hmem hsame]⟩
    exact ⟨by rw [Archive.hasEntry, hfind]; rfl, hnot, hfile⟩
  · rintro ⟨hhas, hnot, hfile⟩
    obtain ⟨member, hfind⟩ := Option.isSome_iff_exists.1 hhas
    obtain ⟨hmember, hpath, hkind⟩ := find?_eq_some hfind
    refine ⟨fun hnil => ?_, ⟨member, hmember, hkind, hpath⟩, hfile, hnot⟩
    simp [Archive.find?, candidate?, hnil] at hfind

end Candidates

/-! ## The archive at a path -/

section Opened

variable {m : Machine} {path : Text} {archive : Archive}

theorem Machine.readText_of_not_found {entry : Text} (hopen : m.openArchive path = .ok archive)
    (h : Archive.find? archive.members entry = none) : m.readText path entry = .ok none := by
  simp only [Machine.readText, hopen, bind, Except.bind, Archive.readText, h]
  rfl

/-- What listings, look-ups and reads of the archive at a path tell of one another. -/
structure LooksUp (m : Machine) (path : Text) (archive : Archive) : Prop where
  /-- A listing that is not cut has the row of a file exactly if the look-up finds one at its path
  and no folder hides it. -/
  listed : ∀ limit folder, ∃ place l, m.list limit path folder = .ok (place, l) ∧
    (l.truncated = false → ∀ h, IsSegment h →
      ((∃ row ∈ l.rows, row.isFolder = false ∧ row.name = h) ↔
        m.hasEntry path (childPath folder h) = .ok true ∧
        (∀ x ∈ archive.members, ¬LiesBeneath (normalize (childPath folder h)) x.path) ∧
        ∀ x ∈ archive.members, x.path = normalize (childPath folder h) → x.isFolder = false))
  /-- A read tells that there is no text exactly if the look-up finds nothing. -/
  absent : ∀ entry, m.readText path entry = .ok none ↔ m.hasEntry path entry = .ok false
  /-- A read gives a text exactly if the look-up finds something whose data can be read. -/
  present : ∀ entry,
    (∀ x, Archive.find? archive.members entry = some x → ∃ data, archive.read x = .ok data) →
      ((∃ text, m.readText path entry = .ok (some text)) ↔ m.hasEntry path entry = .ok true)
  /-- The spelling of a path does not matter. -/
  spelled : ∀ entry entry', normalize entry = normalize entry' →
    m.hasEntry path entry = m.hasEntry path entry' ∧ m.readText path entry = m.readText path entry'

/-- In an archive that opens, listings, look-ups and reads agree on which files there are. -/
theorem lookup_agrees (hopen : m.openArchive path = .ok archive) : LooksUp m path archive := by
  have hhas : ∀ entry b, m.hasEntry path entry = .ok b ↔ archive.hasEntry entry = b := by
    intro entry b
    rw [Source.Machine.hasEntry_eq hopen, Except.ok.injEq]
  refine
    { listed := fun limit folder => ?_, absent := fun entry => ?_,
      present := fun entry hdata => ?_, spelled := fun entry entry' hsame => ?_ }
  · obtain ⟨place, hlist⟩ := Machine.exists_list_eq hopen
    refine ⟨place, _, hlist limit folder, fun hwhole h hh => ?_⟩
    have htotal : ((list archive.members limit folder).total : Int) ≤ limit := by
      simpa [list] using hwhole
    rw [(isListing_list htotal).file_iff, showsFile_iff, ← normalize_childPath hh, hhas,
      isFilePath_iff]
    exact and_iff_right hh
  · rw [hhas, Archive.hasEntry]
    cases hfind : Archive.find? archive.members entry with
    | none => exact iff_of_true (Machine.readText_of_not_found hopen hfind) rfl
    | some member =>
      rw [Source.readText_of_find hopen hfind]
      refine iff_of_false ?_ (by simp)
      cases archive.read member <;> simp
  · rw [hhas, Archive.hasEntry]
    cases hfind : Archive.find? archive.members entry with
    | none =>
      rw [Machine.readText_of_not_found hopen hfind]
      simp
    | some member =>
      obtain ⟨data, hread⟩ := hdata member hfind
      rw [Source.readText_of_find hopen hfind, hread]
      exact iff_of_true ⟨_, rfl⟩ rfl
  · have hfind : Archive.find? archive.members entry = Archive.find? archive.members entry' := by
      rw [Archive.find?, Archive.find?, hsame]
    have htext : archive.readText entry = archive.readText entry' := by
      rw [Archive.readText, Archive.readText, hfind]
    constructor
    · rw [Source.Machine.hasEntry_eq hopen, Source.Machine.hasEntry_eq hopen, Archive.hasEntry,
        Archive.hasEntry, hfind]
    · simp only [Machine.readText, hopen, bind, Except.bind, htext]

end Opened

/-- A file one folder down, looked for with other separators. -/
theorem lookup_agrees_nestedFile : ∃ archive,
    nestedFileMachine.openArchive "/a.jar".toList = .ok archive ∧
    LooksUp nestedFileMachine "/a.jar".toList archive ∧
    nestedFileMachine.hasEntry "/a.jar".toList "\\a//b\\".toList = .ok true := by
  obtain ⟨archive, hopen, -⟩ := opens_nestedFile
  have hagrees := lookup_agrees hopen
  refine ⟨archive, hopen, hagrees, ?_⟩
  obtain ⟨place, l, hlist, hrows⟩ := hagrees.listed 100 "a".toList
  have hfolder : nestedFileMachine.list 100 "/a.jar".toList "a".toList =
      .ok ("/a.jar".toList, ⟨"a".toList, 1, false, [⟨"b".toList, false, 0, 0⟩]⟩) := by
    decide +kernel
  rw [hfolder] at hlist
  cases hlist
  have hname : IsSegment "b".toList := ⟨by decide, by simp [isSeparator]⟩
  obtain ⟨hhas, -⟩ := (hrows rfl "b".toList hname).1 ⟨_, List.mem_singleton_self _, rfl, rfl⟩
  rw [(hagrees.spelled "\\a//b\\".toList "a/b".toList (by decide)).1]
  exact hhas

end JarLens
