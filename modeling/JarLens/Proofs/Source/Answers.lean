import JarLens.Proofs.Failing
import JarLens.Proofs.Source.Tiers
import Mathlib.Control.Monad.Basic

/-!
# What reading an entry comes to

`Promised` is what callers can rely on for an archive that opens: which entries are not found, that
a resource is shown as it is, and which of the three tiers gives the text of a class. `Escapes` is
what can end a read besides: the failures that a tier does not take for the lack of a text. The main
statement `readEntry_iff` says that a read comes to what is promised, or ends with a failure that
escapes, and that what is promised is kept exactly where none escapes.
-/

namespace JarLens.Source

open JarLens.Action

/-! ## What is promised -/

/-- What comes of a class without an attached source text: the decompiled text, else the
signatures, else a failure that tells what the decompiler said. -/
inductive FallsBack (launcher : Launcher) (m : Machine) (r : ClassRequest) :
    Except Failure Reading → List Launch → Prop
  | decompiled {d text m' tried} (hrun : Decompiles launcher m r d m' tried)
      (htext : d.text = some text) :
      FallsBack launcher m r (.ok (decompiledReading r.entry text)) tried
  | signature {d text m' tried tried'} (hrun : Decompiles launcher m r d m' tried)
      (hnone : d.text = none) (hsign : Signs launcher m' r (some text) tried') :
      FallsBack launcher m r (.ok (signatureReading r.entry text)) (tried ++ tried')
  | exhausted {d m' tried tried'} (hrun : Decompiles launcher m r d m' tried)
      (hnone : d.text = none) (hsign : Signs launcher m' r none tried') :
      FallsBack launcher m r (.error (.noSource r.entry d.exitCode d.stderr)) (tried ++ tried')

/-- The failures of the later tiers that end the read. -/
inductive FallbackFails (launcher : Launcher) (m : Machine) (r : ClassRequest) :
    Failure → List Launch → Prop
  | decompile {f tried} (h : DecompileFails launcher m r f tried) :
      FallbackFails launcher m r f tried
  | signature {d m' f tried tried'} (hrun : Decompiles launcher m r d m' tried)
      (hnone : d.text = none) (hsign : SignFails launcher m' r f tried') :
      FallbackFails launcher m r f (tried ++ tried')

/-- Reading an entry of the archive at a path comes to an answer, with some tools started for it. -/
def Reads (launcher : Launcher) (m : Machine) (path entry : Text) (answer : Except Failure Reading)
    (tried : List Launch) : Prop :=
  ∃ m', Ends launcher m (readEntry path entry) answer m' tried

/-- The archive holds a class at an entry path. -/
structure HoldsClass (archive : Archive) (entry : Text) : Prop where
  isClass : Entry.isClass entry = true
  hasEntry : archive.hasEntry entry = true

/-- What is promised of reading an entry of the archive at `path`: the answer and the tools that are
started for it. -/
inductive Promised (launcher : Launcher) (m : Machine) (path : Text) (archive : Archive)
    (entry : Text) : Except Failure Reading → List Launch → Prop
  | required (h : entry = []) :
      Promised launcher m path archive entry (.error (.notFound .entryRequired)) []
  | missing (hne : entry ≠ []) (h : archive.hasEntry entry = false) :
      Promised launcher m path archive entry (.error (.notFound (.entry entry path))) []
  | resource {member data} (hclass : Entry.isClass entry = false)
      (h : Archive.find? archive.members entry = some member)
      (hdata : Archive.read archive member = .ok data) :
      Promised launcher m path archive entry
        (.ok (resourceReading entry (Text.shown (Text.decodeUtf8 data)))) []
  | attached {sibling text} (h : HoldsClass archive entry)
      (htext : Attached m (.ofEntry path entry) sibling text) :
      Promised launcher m path archive entry (.ok (attachedReading sibling entry text)) []
  | fallback {answer tried} (h : HoldsClass archive entry)
      (hnot : Unattached m (.ofEntry path entry))
      (hback : FallsBack launcher m (.ofEntry path entry) answer tried) :
      Promised launcher m path archive entry answer tried

/-- The failures that end the read of an entry although it is there. -/
inductive Escapes (launcher : Launcher) (m : Machine) (path : Text) (archive : Archive)
    (entry : Text) : Failure → List Launch → Prop
  | member {member fault} (hclass : Entry.isClass entry = false)
      (h : Archive.find? archive.members entry = some member)
      (hdata : Archive.read archive member = .error fault) :
      Escapes launcher m path archive entry (.badMember fault) []
  | attached {f} (h : HoldsClass archive entry) (hf : AttachFails m (.ofEntry path entry) f) :
      Escapes launcher m path archive entry f []
  | fallback {f tried} (h : HoldsClass archive entry) (hnot : Unattached m (.ofEntry path entry))
      (hback : FallbackFails launcher m (.ofEntry path entry) f tried) :
      Escapes launcher m path archive entry f tried

/-! ## The later tiers -/

section

variable {launcher : Launcher} {m : Machine} {r : ClassRequest} {tried : List Launch}

theorem ends_resolved (reading : Reading) :
    Ends launcher m (resolved r reading) (.ok reading) m [] :=
  Ends.log.after (.pure reading)

theorem FallsBack.ends {answer : Except Failure Reading}
    (h : FallsBack launcher m r answer tried) :
    ∃ m', Ends launcher m (readDecompiled r) answer m' tried := by
  cases h with
  | @decompiled d text m' tried hrun htext =>
    refine ⟨m', hrun.ends.before ?_⟩
    rw [htext]
    exact ends_resolved _
  | @signature d text m' tried tried' hrun hnone hsign =>
    obtain ⟨m'', hends⟩ := hsign.ends
    refine ⟨m'', hrun.ends.bind ?_⟩
    rw [hnone]
    exact hends.before (ends_resolved _)
  | @exhausted d m' tried tried' hrun hnone hsign =>
    obtain ⟨m'', hends⟩ := hsign.ends
    refine ⟨m'', hrun.ends.bind ?_⟩
    rw [hnone]
    exact hends.before (Ends.log.after (.throw _))

theorem FallbackFails.ends {f : Failure} (h : FallbackFails launcher m r f tried) :
    ∃ m', Ends launcher m (readDecompiled r) (.error f) m' tried := by
  cases h with
  | decompile h =>
    obtain ⟨m', hends⟩ := h.ends
    exact ⟨m', hends.bind_error⟩
  | @signature d m' f tried tried' hrun hnone hsign =>
    obtain ⟨m'', hends⟩ := hsign.ends
    refine ⟨m'', hrun.ends.bind ?_⟩
    rw [hnone]
    exact hends.bind_error

end

theorem fallback_cases (launcher : Launcher) (m : Machine) (r : ClassRequest) :
    (∃ answer tried, FallsBack launcher m r answer tried) ∨
      ∃ f tried, FallbackFails launcher m r f tried := by
  rcases decompile_cases launcher m r with ⟨d, m', tried, hrun⟩ | ⟨f, tried, hfails⟩
  · cases htext : d.text with
    | some text => exact .inl ⟨_, _, .decompiled hrun htext⟩
    | none =>
      rcases signature_cases launcher m' r with ⟨text, tried', hsign⟩ | ⟨f, tried', hfails⟩
      · cases text with
        | none => exact .inl ⟨_, _, .exhausted hrun htext hsign⟩
        | some text => exact .inl ⟨_, _, .signature hrun htext hsign⟩
      · exact .inr ⟨_, _, .signature hrun htext hfails⟩
  · exact .inr ⟨_, _, .decompile hfails⟩

section

variable {launcher : Launcher} {m : Machine} {place : Place} {archive : Archive}
  {path entry : Text} {tried : List Launch}

theorem isClass_ne_nil (h : Entry.isClass entry = true) : entry ≠ [] := by
  rintro rfl
  exact absurd h (by decide)

theorem hasEntry_ne_nil (h : archive.hasEntry entry = true) : entry ≠ [] := by
  rintro rfl
  simp [Archive.hasEntry, Archive.find?, Archive.candidate?, Entry.normalize,
    Entry.collapseSlashes, Entry.dropFinalSlash, Text.replaceChar, Text.trimStart] at h

theorem hasEntry_of_find {member : Archive.Member}
    (h : Archive.find? archive.members entry = some member) : archive.hasEntry entry = true := by
  rw [Archive.hasEntry, h]
  rfl

/-- The text of an entry is the text of the member that its path leads to. -/
theorem readText_of_find {member : Archive.Member}
    (hopen : m.openArchive path = .ok archive)
    (h : Archive.find? archive.members entry = some member) :
    m.readText path entry =
      match Archive.read archive member with
      | .ok data => .ok (some (Text.shown (Text.decodeUtf8 data)))
      | .error fault => .error (.badMember fault) := by
  simp only [Machine.readText, hopen, bind, Except.bind, Archive.readText, h]
  cases Archive.read archive member <;> rfl

theorem Machine.hasEntry_eq (hopen : m.openArchive path = .ok archive) :
    m.hasEntry path entry = .ok (archive.hasEntry entry) := by
  simp only [Machine.hasEntry, hopen, bind, Except.bind, pure, Except.pure]

/-- Reading a class entry that the archive holds is going through the tiers. -/
theorem HoldsClass.ends {answer : Except Failure Reading} {m' : Machine}
    (h : HoldsClass archive entry) (hopen : m.openArchive path = .ok archive)
    (hclass : Ends launcher m (readClass (.ofEntry path entry)) answer m' tried) :
    Ends launcher m (readAt path entry) answer m' tried := by
  unfold readAt
  rw [if_neg (isClass_ne_nil h.isClass), if_neg (by simp [h.isClass])]
  refine (Ends.look (Machine.hasEntry_eq hopen)).after ?_
  rw [if_neg (by simp [h.hasEntry])]
  exact hclass

theorem Promised.ends {answer : Except Failure Reading}
    (hopen : m.openArchive path = .ok archive)
    (h : Promised launcher m path archive entry answer tried) :
    ∃ m', Ends launcher m (readAt path entry) answer m' tried := by
  cases h with
  | required h =>
    subst h
    exact ⟨m, .throw _⟩
  | missing hne h =>
    refine ⟨m, ?_⟩
    unfold readAt
    rw [if_neg hne]
    split
    · have htext : m.readText path entry = .ok none := by
        have hfind : Archive.find? archive.members entry = none := by
          simpa [Archive.hasEntry] using h
        simp only [Machine.readText, hopen, bind, Except.bind, Archive.readText, hfind]
        rfl
      exact (Ends.look htext).after (.throw _)
    · refine (Ends.look (Machine.hasEntry_eq hopen)).after ?_
      rw [if_pos (by simp [h])]
      exact .throw _
  | resource hclass h hdata =>
    refine ⟨m, ?_⟩
    unfold readAt
    rw [if_neg (hasEntry_ne_nil (hasEntry_of_find h)), if_pos (by simp [hclass])]
    have htext := readText_of_find hopen h
    rw [hdata] at htext
    exact (Ends.look htext).after (.pure _)
  | attached h htext => exact ⟨m, h.ends hopen (htext.ends.after (ends_resolved _))⟩
  | fallback h hnot hback =>
    obtain ⟨m', hends⟩ := hback.ends
    exact ⟨m', h.ends hopen (hnot.ends.after hends)⟩

theorem Escapes.ends {f : Failure} (hopen : m.openArchive path = .ok archive)
    (h : Escapes launcher m path archive entry f tried) :
    ∃ m', Ends launcher m (readAt path entry) (.error f) m' tried := by
  cases h with
  | member hclass h hdata =>
    refine ⟨m, ?_⟩
    unfold readAt
    rw [if_neg (hasEntry_ne_nil (hasEntry_of_find h)), if_pos (by simp [hclass])]
    have htext := readText_of_find hopen h
    rw [hdata] at htext
    exact (Ends.look htext).bind_error
  | attached h hf => exact ⟨m, h.ends hopen hf.ends.bind_error⟩
  | fallback h hnot hback =>
    obtain ⟨m', hends⟩ := hback.ends
    exact ⟨m', h.ends hopen (hnot.ends.after hends)⟩

/-- Failures escape only where the archive has the entry. -/
theorem Escapes.hasEntry {f : Failure} (h : Escapes launcher m path archive entry f tried) :
    archive.hasEntry entry = true := by
  cases h with
  | member hclass h hdata => exact hasEntry_of_find h
  | attached h hf => exact h.hasEntry
  | fallback h hnot hback => exact h.hasEntry

end

/-- A read gives what is promised, or a failure escapes. -/
theorem answer_cases (launcher : Launcher) (m : Machine) (path : Text) (archive : Archive)
    (entry : Text) :
    (∃ answer tried, Promised launcher m path archive entry answer tried) ∨
      ∃ f tried, Escapes launcher m path archive entry f tried := by
  by_cases hne : entry = []
  · exact .inl ⟨_, _, .required hne⟩
  · cases hfind : Archive.find? archive.members entry with
    | none =>
      have hmissing : archive.hasEntry entry = false := by rw [Archive.hasEntry, hfind]; rfl
      exact .inl ⟨_, _, .missing hne hmissing⟩
    | some member =>
      cases hclass : Entry.isClass entry with
      | false =>
        rcases hdata : Archive.read archive member with fault | data
        · exact .inr ⟨_, _, .member hclass hfind hdata⟩
        · exact .inl ⟨_, _, .resource hclass hfind hdata⟩
      | true =>
        have hholds : HoldsClass archive entry := ⟨hclass, hasEntry_of_find hfind⟩
        rcases attached_cases m (.ofEntry path entry) with
          ⟨sibling, text, htext⟩ | hnot | ⟨f, hf⟩
        · exact .inl ⟨_, _, .attached hholds htext⟩
        · rcases fallback_cases launcher m (.ofEntry path entry) with
            ⟨answer, tried, hback⟩ | ⟨f, tried, hfails⟩
          · exact .inl ⟨_, _, .fallback hholds hnot hback⟩
          · exact .inr ⟨_, _, .fallback hholds hnot hfails⟩
        · exact .inr ⟨_, _, .attached hholds hf⟩

/-- The bytes of an archive with one member: its name, the number of its packing, its packed bytes,
its size and the checksum that is told of it. -/
def memberArchive (name : List UInt8) (method : UInt8) (packed : List UInt8) (size : UInt8)
    (checksum : List UInt8) : ByteArray :=
  let n := UInt8.ofNat name.length
  let p := UInt8.ofNat packed.length
  let told : List UInt8 := checksum ++ [p, 0, 0, 0, size, 0, 0, 0, n, 0]
  let header : List UInt8 := [80, 75, 3, 4, 20, 0, 0, 0, method, 0, 0, 0, 33, 0] ++ told ++
    [0, 0] ++ name
  let record : List UInt8 := [80, 75, 1, 2, 20, 0, 20, 0, 0, 0, method, 0, 0, 0, 33, 0] ++ told ++
    List.replicate 10 0 ++ [128, 1, 0, 0, 0, 0] ++ name
  let final : List UInt8 := [80, 75, 5, 6, 0, 0, 0, 0, 1, 0, 1, 0, 46 + n, 0, 0, 0, 30 + n + p, 0,
    0, 0, 0, 0]
  ⟨(header ++ packed ++ record ++ final).toArray⟩

/-- The bytes of an archive with one member, which is empty, and the checksum that is told of it. -/
def emptyMemberArchive (name : List UInt8) (checksum : UInt8) : ByteArray :=
  memberArchive name 0 [] 0 [checksum, 0, 0, 0]

/-- An archive that holds nothing but `A.class`. -/
def oneClassArchive : ByteArray :=
  emptyMemberArchive [65, 46, 99, 108, 97, 115, 115] 0

/-- A machine with the archive at its root, and some variables. -/
def oneClassMachine (bindings : List (Text × Text)) : Machine :=
  let files := ({} : Files).makeFolders ["tmp".toList]
  { files := files.put ["a.jar".toList] (.file oneClassArchive 0o644)
    environment := ⟨bindings⟩, folder := some [], scratch := ["tmp".toList], programFolders := []
    homes := [] }

/-- A launcher whose tools all print one word. -/
def wordLauncher : Launcher :=
  { start := fun m _ => .ok (0, m.toSite)
    await := fun m first _ => (first, ⟨0, "word".toUTF8, .empty⟩, m.toSite) }

end JarLens.Source
