import JarLens.CommandLine.Run
import JarLens.Proofs.Archive.Lookup
import JarLens.Proofs.Archive.Unread
import JarLens.Proofs.Files.Resolving
import JarLens.Proofs.Tool.Running

/-!
# What asking an archive comes to

A file that can be read may hold any bytes. Listings, look-ups and reads of it give a result or tell
that there is no such archive, but for the failures of `NotOpened` and `NotRead`: an archive whose
bytes do not contradict the format and that is not read all the same, and a member whose data cannot
be read. `answers_of_readable` says that exactly these failures come through, for the command that
prints a listing too.
-/

namespace JarLens

open Archive

/-! ## Files that can be read -/

/-- A path names a place where a regular file lies that can be read. -/
structure IsReadableFile (m : Machine) (path : Text) (place : Place) : Prop where
  named : m.place path = .ok place
  isFile : m.isFile place.toText = .ok true
  canRead : m.canRead place.toText = true

section Files

variable {m : Machine} {path : Text} {place : Place}

theorem IsReadableFile.archivePlace_eq (h : IsReadableFile m path place) :
    m.archivePlace path = .ok place := by
  unfold Machine.archivePlace
  simp only [h.named, h.isFile, h.canRead]
  rfl

theorem IsReadableFile.exists_read_eq (h : IsReadableFile m path place) :
    ∃ bytes, m.files.read [] place.toText = .ok bytes := by
  have hfile := h.isFile
  have hread := h.canRead
  unfold Machine.isFile at hfile
  unfold Machine.canRead at hread
  rw [m.find_toText] at hfile hread
  split at hfile
  · cases hfile
  · cases hfind : m.files.find [] place.toText with
    | error fault =>
      rw [hfind] at hread
      cases hread
    | ok node =>
      rw [hfind] at hfile hread
      cases node with
      | file content mode =>
        refine ⟨content, ?_⟩
        unfold Files.read
        simp only [hfind, bind, Except.bind]
        exact if_pos hread
      | _ => cases hfile

end Files

/-! ## Failures that come through -/

/-- The answer is a failure, and not that there is no such archive. -/
def FailsOtherwise {α : Type} (answer : Except Failure α) (f : Failure) : Prop :=
  answer = .error f ∧ ∀ cause, f ≠ .notFound cause

/-- The failures of opening some bytes whose format is not contradicted. -/
inductive NotOpened (bytes : ByteArray) : Failure → Prop
  | record {directory shift i fault} (hdirectory : HasDirectory bytes directory shift)
      (hreads : ReadsTo directory shift 0 i) (hunread : IsUnread directory i fault) :
      NotOpened bytes (.badArchive fault)

/-- The failures of reading the text of an entry of a file with positions up to `limit`. -/
inductive NotRead (limit : Nat) (bytes : ByteArray) (entry : Text) : Failure → Prop
  | opening {f} (h : NotOpened bytes f) : NotRead limit bytes entry f
  | member {archive member fault} (hbytes : Archive.ofBytes limit bytes = .ok archive)
      (hfind : Archive.find? archive.members entry = some member)
      (hread : Archive.read archive member = .error fault) :
      NotRead limit bytes entry (.badMember fault)

section Failures

variable {α β : Type} {m : Machine} {path : Text} {place : Place} {bytes : ByteArray} {f : Failure}

/-- The archive is not opened exactly if reading the bytes ends with a fault that does not
contradict the format. -/
theorem notOpened_iff (limit : Nat) : NotOpened bytes f ↔
    ∃ fault, f = .badArchive fault ∧ fault.isMalformed = false ∧
      Archive.ofBytes limit bytes = .error fault := by
  constructor
  · rintro ⟨hdirectory, hreads, hunread⟩
    exact ⟨_, rfl, hunread.isMalformed_eq,
      (ofBytes_eq_error_iff limit hunread.isMalformed_eq).2 ⟨_, _, _, hdirectory, hreads, hunread⟩⟩
  · rintro ⟨fault, rfl, hfault, hbytes⟩
    obtain ⟨_, _, _, hdirectory, hreads, hunread⟩ := (ofBytes_eq_error_iff limit hfault).1 hbytes
    exact .record hdirectory hreads hunread

@[simp] theorem failsOtherwise_error {g : Failure} :
    FailsOtherwise (.error g : Except Failure α) f ↔ g = f ∧ ∀ cause, f ≠ .notFound cause := by
  simp [FailsOtherwise]

@[simp] theorem not_failsOtherwise_ok (a : α) : ¬FailsOtherwise (.ok a) f := by
  simp [FailsOtherwise]

/-- What cannot fail has no part in the failures that come through. -/
theorem failsOtherwise_bind_pure {x : Except Failure α} {g : α → β} :
    FailsOtherwise (x >>= fun a => pure (g a)) f ↔ FailsOtherwise x f := by
  cases x with
  | error e => exact failsOtherwise_error.trans failsOtherwise_error.symm
  | ok a => exact iff_of_false (not_failsOtherwise_ok _) (not_failsOtherwise_ok _)

/-- Opening such a file is reading its bytes, where faults that contradict the format count as an
unreadable archive. -/
theorem IsReadableFile.openArchive_eq (h : IsReadableFile m path place)
    (hread : m.files.read [] place.toText = .ok bytes) :
    m.openArchive path = match Archive.ofBytes m.positionLimit bytes with
      | .ok archive => .ok archive
      | .error fault => .error (if fault.isMalformed then .notFound (.unreadable place.toText fault)
          else .badArchive fault) := by
  unfold Machine.openArchive
  simp only [h.archivePlace_eq, hread, bind, Except.bind]
  cases Archive.ofBytes m.positionLimit bytes with
  | ok archive => rfl
  | error fault => cases hfault : fault.isMalformed <;> simp [hfault] <;> rfl

theorem IsReadableFile.openArchive_eq_ok_iff {archive : Archive} (h : IsReadableFile m path place)
    (hread : m.files.read [] place.toText = .ok bytes) :
    m.openArchive path = .ok archive ↔ Archive.ofBytes m.positionLimit bytes = .ok archive := by
  rw [h.openArchive_eq hread]
  cases Archive.ofBytes m.positionLimit bytes <;> simp

/-- Opening fails otherwise exactly for what the bytes tell. -/
theorem IsReadableFile.openArchive_fails_iff (h : IsReadableFile m path place)
    (hread : m.files.read [] place.toText = .ok bytes) :
    FailsOtherwise (m.openArchive path) f ↔ NotOpened bytes f := by
  rw [h.openArchive_eq hread, notOpened_iff m.positionLimit]
  cases hbytes : Archive.ofBytes m.positionLimit bytes with
  | ok archive => simp
  | error fault =>
    simp only [failsOtherwise_error, Except.error.injEq]
    cases hfault : fault.isMalformed with
    | true =>
      -- Bytes that contradict the format are told of as no archive.
      refine iff_of_false ?_ ?_
      · rintro ⟨rfl, hnot⟩
        exact hnot _ rfl
      · rintro ⟨other, -, hother, rfl⟩
        rw [hfault] at hother
        cases hother
    | false =>
      constructor
      · rintro ⟨rfl, -⟩
        exact ⟨fault, rfl, hfault, rfl⟩
      · rintro ⟨other, rfl, -, rfl⟩
        exact ⟨rfl, fun cause heq => by cases heq⟩

/-- A listing fails otherwise only where opening does. -/
theorem IsReadableFile.list_fails_iff (h : IsReadableFile m path place)
    (hread : m.files.read [] place.toText = .ok bytes) (limit : Int) (folder : Text) :
    FailsOtherwise (m.list limit path folder) f ↔ NotOpened bytes f := by
  have hlist : m.list limit path folder = m.openArchive path >>= fun archive =>
      pure (place.toText, Archive.list archive.members limit folder) := by
    unfold Machine.list
    rw [h.archivePlace_eq]
    rfl
  rw [hlist, failsOtherwise_bind_pure, h.openArchive_fails_iff hread]

theorem IsReadableFile.hasEntry_fails_iff (h : IsReadableFile m path place)
    (hread : m.files.read [] place.toText = .ok bytes) (entry : Text) :
    FailsOtherwise (m.hasEntry path entry) f ↔ NotOpened bytes f := by
  unfold Machine.hasEntry
  rw [failsOtherwise_bind_pure, h.openArchive_fails_iff hread]

/-- From an archive that opens, a text is not read exactly if the member's data cannot be. -/
theorem Machine.readText_fails_iff {archive : Archive} {entry : Text}
    (hopen : m.openArchive path = .ok archive) :
    FailsOtherwise (m.readText path entry) f ↔
      ∃ member fault, Archive.find? archive.members entry = some member ∧
        Archive.read archive member = .error fault ∧ f = .badMember fault := by
  cases hfind : Archive.find? archive.members entry with
  | none =>
    rw [Machine.readText_of_not_found hopen hfind]
    simp
  | some member =>
    rw [Source.readText_of_find hopen hfind]
    cases hdata : Archive.read archive member with
    | ok data => simp [hdata]
    | error fault =>
      constructor
      · intro hfails
        obtain ⟨rfl, -⟩ := failsOtherwise_error.1 hfails
        exact ⟨member, fault, rfl, hdata, rfl⟩
      · rintro ⟨other, fault', hother, hfault, rfl⟩
        cases hother
        rw [hdata] at hfault
        cases hfault
        exact failsOtherwise_error.2 ⟨rfl, fun cause heq => by cases heq⟩

/-- Reading an entry fails otherwise where opening does, or where the member that is found cannot be
read. -/
theorem IsReadableFile.readText_fails_iff (h : IsReadableFile m path place)
    (hread : m.files.read [] place.toText = .ok bytes) (entry : Text) :
    FailsOtherwise (m.readText path entry) f ↔ NotRead m.positionLimit bytes entry f := by
  have hopened := h.openArchive_fails_iff (f := f) hread
  cases hopen : m.openArchive path with
  | error g =>
    have htext : m.readText path entry = .error g := by
      unfold Machine.readText
      rw [hopen]
      rfl
    rw [hopen, failsOtherwise_error] at hopened
    rw [htext, failsOtherwise_error, hopened]
    refine ⟨.opening, fun hnot => ?_⟩
    cases hnot with
    | opening hnot => exact hnot
    | member hbytes =>
      have hok := (h.openArchive_eq_ok_iff hread).2 hbytes
      rw [hopen] at hok
      cases hok
  | ok archive =>
    have hbytes := (h.openArchive_eq_ok_iff hread).1 hopen
    rw [Machine.readText_fails_iff hopen]
    constructor
    · rintro ⟨member, fault, hfind, hfault, rfl⟩
      exact .member hbytes hfind hfault
    · intro hnot
      cases hnot with
      | opening hnot => exact absurd (hopened.2 hnot) (hopen ▸ not_failsOtherwise_ok archive)
      | member hbytes' hfind hfault =>
        rw [hbytes] at hbytes'
        cases hbytes'
        exact ⟨_, _, hfind, hfault, rfl⟩

end Failures

/-! ## The command that lists an archive -/

namespace CommandLine

/-- The command line asks for the listing of a folder in an archive, and is taken as such. -/
structure AsksForListing (m : Machine) (line : List Text) (asJson : Bool) (path folder : Text) :
    Prop where
  /-- No shell asks for something instead. -/
  not_request : (m.environment.get? requestVariable).filter (· != []) = none
  accepted : ∃ a rest style b bound,
    sortArguments programOptions false line = .ok a ∧ a.has "help" = false ∧
    a.positional = listCommand.name :: rest ∧
    logStyle m.environment (a.has "verbose") = .ok style ∧
    sortArguments listCommand.allOptions true rest = .ok b ∧ b.has "help" = false ∧
    hasNulPath listCommand b.positional = false ∧
    bindArguments (readable? m) listCommand.arguments b.positional = .ok bound ∧
    asJson = b.has "json" ∧ path = (bound[0]?.getD none).getD [] ∧
    folder = (bound[1]?.getD none).getD []

def listingOutput (asJson : Bool) (archive : Text) (l : Listing) : Text :=
  if asJson then (l.toJson archive).spread 0 ++ ['\n'] else listingText archive l

/-- The program prints a listing, or one line that tells of its failure. -/
inductive Reports (asJson : Bool) : Except Failure (Text × Listing) → Ending → Prop
  | listed {archive l} :
      Reports asJson (.ok (archive, l))
        { exitCode := 0, stdout := Text.withoutCodes (listingOutput asJson archive l), stderr := []
          escape := none }
  | notFound {cause} :
      Reports asJson (.error (.notFound cause))
        { exitCode := 1, stdout := []
          stderr := Text.withoutCodes
            ("Error: ".toList ++ Failure.notFoundMessage cause ++ ['\n'])
          escape := none }

theorem runList_eq (asJson : Bool) (path folder : Text) (launcher : Launcher) (s : State) :
    runList asJson path folder launcher s =
      ((s.machine.list listedRows path folder).map fun (archive, l) =>
        { stdout := listingOutput asJson archive l }, s) := by
  unfold runList
  rw [Action.run_bind, Action.run_look]
  cases s.machine.list listedRows path folder <;> rfl

/-- A command line that asks for a listing ends with the listing, or with the failure of making it.
-/
theorem AsksForListing.run_eq {m : Machine} {line : List Text} {asJson : Bool} {path folder : Text}
    (h : AsksForListing m line asJson path folder) (launcher : Launcher) (time : Text) :
    ∃ style, run launcher time line m =
      (endingOf style time ((m.list listedRows path folder).map fun (archive, l) =>
        { stdout := listingOutput asJson archive l }) { machine := m }, m) := by
  obtain ⟨a, rest, style, b, bound, hsort, hhelp, hname, hstyle, hsort', hhelp', hnul, hbind, rfl,
    rfl, rfl⟩ := h.accepted
  have hne : line ≠ [] := by
    rintro rfl
    cases hsort
    cases hname
  have hspec : commandSpecs.find? (·.name == listCommand.name) = some listCommand := rfl
  have hlist : perform listCommand.name b bound launcher { machine := m } =
      runList (b.has "json") ((bound[0]?.getD none).getD []) ((bound[1]?.getD none).getD [])
        launcher { machine := m } := rfl
  refine ⟨style, ?_⟩
  simp only [run, h.not_request, runLine, if_neg hne, hsort, hhelp, hname, hspec, hstyle,
    runCommand, hsort', hhelp', hnul, hbind, Bool.false_eq_true, ↓reduceIte, hlist, runList_eq]

/-- The command prints the listing or tells that there is no such archive, unless a failure comes
through, with which the program ends. -/
def EndsAsListed (bytes : ByteArray) (asJson : Bool) (answer : Except Failure (Text × Listing))
    (ending : Ending) : Prop :=
  (¬∃ f, NotOpened bytes f) ∧ Reports asJson answer ending ∨
    ∃ f, NotOpened bytes f ∧ ending = escapeEnding [] (.failure f)

/-- The listing is printed or the missing archive told, unless a failure comes through. -/
theorem AsksForListing.endsAsListed {m : Machine} {line : List Text} {asJson : Bool}
    {path folder : Text} {place : Place} {bytes : ByteArray}
    (h : AsksForListing m line asJson path folder) (hfile : IsReadableFile m path place)
    (hread : m.files.read [] place.toText = .ok bytes) (launcher : Launcher) (time : Text) :
    EndsAsListed bytes asJson (m.list listedRows path folder) (run launcher time line m).1 := by
  obtain ⟨style, hrun⟩ := h.run_eq launcher time
  have hfails := fun f => hfile.list_fails_iff (f := f) hread listedRows folder
  rw [hrun]
  cases hlist : m.list listedRows path folder with
  | ok found =>
    refine .inl ⟨?_, .listed⟩
    rintro ⟨f, hnot⟩
    cases (hlist ▸ (hfails f).2 hnot).1
  | error f =>
    by_cases hcause : ∃ cause, f = .notFound cause
    · obtain ⟨cause, rfl⟩ := hcause
      refine .inl ⟨?_, .notFound⟩
      rintro ⟨g, hnot⟩
      obtain ⟨heq, hother⟩ := (hfails g).2 hnot
      rw [hlist] at heq
      cases heq
      exact hother cause rfl
    · have hnot : NotOpened bytes f := (hfails f).1 ⟨hlist, fun cause heq => hcause ⟨cause, heq⟩⟩
      obtain ⟨fault, rfl, -⟩ := (notOpened_iff m.positionLimit).1 hnot
      exact .inr ⟨_, hnot, rfl⟩

end CommandLine

/-! ## All that is asked -/

/-- What is asked of the archive at a path fails otherwise than by telling that it is not there
exactly where its bytes, or the data of a member, are not read. -/
structure AnswersFrom (bytes : ByteArray) (m : Machine) (path : Text) : Prop where
  list : ∀ limit folder f, FailsOtherwise (m.list limit path folder) f ↔ NotOpened bytes f
  hasEntry : ∀ entry f, FailsOtherwise (m.hasEntry path entry) f ↔ NotOpened bytes f
  readText : ∀ entry f, FailsOtherwise (m.readText path entry) f ↔
    NotRead m.positionLimit bytes entry f
  command : ∀ launcher time line asJson folder,
    CommandLine.AsksForListing m line asJson path folder →
      CommandLine.EndsAsListed bytes asJson (m.list CommandLine.listedRows path folder)
        (CommandLine.run launcher time line m).1

/-- Whatever bytes a file holds that can be read: what is asked of it gives a result, or tells that
there is no such archive or entry, unless the bytes are those of an archive that is not read. -/
theorem answers_of_readable {m : Machine} {path : Text} {place : Place}
    (h : IsReadableFile m path place) :
    ∃ bytes, m.files.read [] place.toText = .ok bytes ∧ AnswersFrom bytes m path := by
  obtain ⟨bytes, hread⟩ := h.exists_read_eq
  exact ⟨bytes, hread,
    { list := fun limit folder f => h.list_fails_iff hread limit folder
      hasEntry := fun entry f => h.hasEntry_fails_iff hread entry
      readText := fun entry f => h.readText_fails_iff hread entry
      command := fun launcher time line asJson folder hask =>
        hask.endsAsListed h hread launcher time }⟩

/-! ## Two archives that are not read -/

/-- A machine with nothing but an archive at its root. -/
def archiveMachine (bytes : ByteArray) : Machine :=
  { files := Files.put {} ["a.jar".toList] (.file bytes 0o644)
    environment := ⟨[]⟩, folder := some [], scratch := [], programFolders := [], homes := [] }

theorem isReadableFile_archiveMachine (bytes : ByteArray) :
    IsReadableFile (archiveMachine bytes) "/a.jar".toList ["a.jar".toList] where
  named := by rfl
  isFile := by rfl
  canRead := by rfl

/-- An archive with one member, which needs version 6.4 of the format. -/
def laterArchive : ByteArray :=
  ⟨(Source.emptyMemberArchive [97] 0).data.set! 37 64⟩

theorem isReadableFile_laterArchive :
    IsReadableFile (archiveMachine laterArchive) "/a.jar".toList ["a.jar".toList] :=
  isReadableFile_archiveMachine laterArchive

theorem asksForListing_folder :
    CommandLine.AsksForListing (archiveMachine laterArchive)
      ["list".toList, "/a.jar".toList, "b".toList, "--json".toList] true "/a.jar".toList
      "b".toList where
  not_request := by decide +kernel
  accepted :=
    ⟨_, _, _, _, _, rfl, rfl, rfl, rfl, rfl, rfl, rfl, rfl, rfl, rfl, rfl⟩

/-- An archive whose only record needs a later version of the format. -/
theorem answers_of_readable_laterArchive :
    (∀ entry, (archiveMachine laterArchive).hasEntry "/a.jar".toList entry =
      .error (.badArchive (.version 64))) ∧
    ∀ launcher time, (CommandLine.run launcher time
      ["list".toList, "/a.jar".toList, "b".toList, "--json".toList]
      (archiveMachine laterArchive)).1.escape = some (.failure (.badArchive (.version 64))) := by
  obtain ⟨bytes, -, hanswers⟩ := answers_of_readable isReadableFile_laterArchive
  have hlist : (archiveMachine laterArchive).list 100 "/a.jar".toList [] =
      .error (.badArchive (.version 64)) := by
    decide +kernel
  have hnot := (hanswers.list 100 [] _).1 ⟨hlist, fun cause heq => by cases heq⟩
  refine ⟨fun entry => ((hanswers.hasEntry entry _).2 hnot).1, fun launcher time => ?_⟩
  rcases hanswers.command launcher time _ _ _ asksForListing_folder with
    ⟨hnone, -⟩ | ⟨f, hf, hending⟩
  · exact absurd ⟨_, hnot⟩ hnone
  · obtain ⟨hlist', -⟩ := (hanswers.list 100 [] f).2 hf
    rw [hlist] at hlist'
    cases hlist'
    rw [hending]
    rfl

/-- The fault of an archive that needs a later version ends the listing, and a wrong checksum the
read of the member. -/
theorem list_laterArchive :
    IsReadableFile (archiveMachine laterArchive) "/a.jar".toList ["a.jar".toList] ∧
    (archiveMachine laterArchive).list 100 "/a.jar".toList [] =
      .error (.badArchive (.version 64)) ∧
    (CommandLine.run default [] ["list".toList, "/a.jar".toList]
      (archiveMachine laterArchive)).1.escape = some (.failure (.badArchive (.version 64))) ∧
    (archiveMachine (Source.emptyMemberArchive [97] 1)).readText "/a.jar".toList ['a'] =
      .error (.badMember (.checksum ['a'])) := by
  refine ⟨isReadableFile_laterArchive, ?_⟩
  decide +kernel

end JarLens
