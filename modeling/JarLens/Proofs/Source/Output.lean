import JarLens.Proofs.Entry.SourcePath
import JarLens.Proofs.Source.Answers
import JarLens.Proofs.Tool.Scratch

/-!
# Where decompiled texts are read

The decompiler's output is looked for in the scratch folder, at a path that goes on with the path of
the class in its archive. An archive may have dots in that path. As long as they do not lead above
the folder that they start from, what is read is a file beneath the scratch folder, where nothing
lay before (`decompile_reads`); if they do, it is none. Names of archives are not checked for dots,
so that a file of somebody else can be shown for a decompiled class
(`decompile_outside_scratch`).
-/

namespace JarLens

open JarLens.Text JarLens.Action

/-! ## Links and dots -/

/-- Between two machines no symbolic link was made. -/
def Machine.AddsNoLink (m m' : Machine) : Prop :=
  ∀ place target, m'.files.get? place = some (.link target) →
    m.files.get? place = some (.link target)

/-- Whether the dots of an entry's path never lead above the folder that it starts from. -/
def Entry.StaysInside (entry : Text) : Prop :=
  staysInside 0 (splitOn '/' entry) = true

namespace Source

/-- The place that the path for the text of an entry works out to. -/
def decompiledPlace (output : Place) (entry : Text) : Place :=
  Place.follow [] (splitOn '/' (decompiledPath output.toText entry))

/-- A text is that of a file that lies at a place beneath the output folder on the machine that the
decompiler left, and nothing lay there before. -/
structure ReadsBeneath (m left : Machine) (place : Place) (text : Text) : Prop where
  beneath : ∃ rest, rest ≠ [] ∧ place = outputPlace m ++ rest
  isNew : m.files.get? place = none
  file : ∃ content mode, left.files.get? place = some (.file content mode) ∧
    text = withLineFeeds (decodeUtf8 content)

/-! ## Where the path leads -/

section Lexical

variable {output : Place} {entry : Text}

theorem head?_normalize (path : Text) : (Entry.normalize path).head? ≠ some '/' :=
  (Entry.isSpelled_normalize path).head

theorem head?_javaEntry (hclass : Entry.isClass entry = true) (h : entry.head? ≠ some '/') :
    (Entry.javaEntry entry).head? ≠ some '/' := by
  have hnames := Entry.namesClass_of_isClass hclass
  rw [hnames.eq_append] at h
  rw [hnames.javaEntry]
  cases hstem : Entry.stem entry with
  | nil => exact (by decide)
  | cons c stem =>
    rw [hstem] at h
    exact h

theorem parts_javaEntry (entry : Text) :
    (PathName.ofText (Entry.javaEntry entry)).parts =
      (splitOn '/' (Entry.javaEntry entry)).filter fun name => name != [] && name != ['.'] :=
  rfl

/-- The path of the decompiled text goes on from the output folder with the entry's parts. -/
theorem splitOn_decompiledPath (hne : output ≠ []) (houtput : ∀ name ∈ output, IsPlaceName name)
    (hclass : Entry.isClass entry = true) (h : entry.head? ≠ some '/') :
    splitOn '/' (decompiledPath output.toText entry) =
      [] :: output ++ (PathName.ofText (Entry.javaEntry entry)).parts :=
  splitOn_toText_append hne houtput (head?_javaEntry hclass h)

theorem head?_decompiledPath (hne : output ≠ []) (houtput : ∀ name ∈ output, IsPlaceName name)
    (hclass : Entry.isClass entry = true) (h : entry.head? ≠ some '/') :
    (decompiledPath output.toText entry).head? = some '/' := by
  rw [← join_splitOn (c := '/') (decompiledPath output.toText entry),
    splitOn_decompiledPath hne houtput hclass h, List.cons_append, join_cons (by simp [hne])]
  rfl

/-- The output folder comes first on the way, then what the path of the source text leads to. -/
theorem decompiledPlace_eq (hne : output ≠ []) (houtput : ∀ name ∈ output, IsPlaceName name)
    (hclass : Entry.isClass entry = true) (h : entry.head? ≠ some '/') :
    decompiledPlace output entry = output.follow (splitOn '/' (Entry.javaEntry entry)) := by
  rw [decompiledPlace, splitOn_decompiledPath hne houtput hclass h, List.cons_append,
    Place.follow_cons, Place.follow_append, parts_javaEntry, Place.follow_filter]
  congr 1
  exact Place.follow_of_isOwnName (fun name hname => (houtput name hname).toIsOwnName) []

/-- The new suffix leads no further out than the old one. -/
theorem staysInside_javaEntry (hclass : Entry.isClass entry = true) :
    staysInside 0 (splitOn '/' (Entry.javaEntry entry)) = staysInside 0 (splitOn '/' entry) := by
  obtain ⟨front, x, y, hx, hy, hownx, howny⟩ := Entry.exists_javaEntry_pieces hclass
  rw [hx, hy, staysInside_append_own hownx, staysInside_append_own howny]

/-- The path for an entry that stays inside leads beneath the output folder. -/
theorem exists_decompiledPlace (hne : output ≠ []) (houtput : ∀ name ∈ output, IsPlaceName name)
    (hclass : Entry.isClass entry = true) (h : entry.head? ≠ some '/') (hin : Entry.StaysInside entry) :
    ∃ rest, rest ≠ [] ∧ decompiledPlace output entry = output ++ rest := by
  obtain ⟨front, x, y, hx, hy, hownx, howny⟩ := Entry.exists_javaEntry_pieces hclass
  rw [Entry.StaysInside, hx, staysInside_append_own hownx] at hin
  obtain ⟨inside, hinside⟩ := follow_of_staysInside output [] hin
  refine ⟨inside ++ [y], by simp, ?_⟩
  rw [decompiledPlace_eq hne houtput hclass h, hy, Place.follow_append, Place.follow_cons,
    Place.follow_nil, Place.next_of_isOwnName howny, ← List.append_assoc, ← hinside, List.append_nil]

/-- The path for an entry that does not stay inside leads out of the output folder, whose own name
it does not hold. -/
theorem not_prefix_decompiledPlace (hne : output ≠ []) (houtput : ∀ name ∈ output, IsPlaceName name)
    (hclass : Entry.isClass entry = true) (h : entry.head? ≠ some '/')
    (hout : ¬Entry.StaysInside entry)
    (hlast : ∀ last ∈ output.getLast?, last ∉ splitOn '/' (Entry.javaEntry entry)) :
    ¬output <+: decompiledPlace output entry := by
  rw [Entry.StaysInside, Bool.not_eq_true, ← staysInside_javaEntry hclass] at hout
  rw [decompiledPlace_eq hne houtput hclass h]
  have hbefore := not_prefix_of_not_staysInside hne hlast [] hout
  rwa [List.append_nil] at hbefore

end Lexical

/-! ## What is read -/

/-- A text that is read is what a file there holds. -/
theorem textIfFile_eq_some {m : Machine} {path text : Text}
    (h : textIfFile path m = .ok (some text)) :
    ∃ content mode, m.find path = .ok (.file content mode) ∧
      text = withLineFeeds (decodeUtf8 content) := by
  unfold textIfFile at h
  split at h
  · cases h
  · cases h
  · split at h
    · next bytes hbytes =>
      rw [Machine.readFile] at hbytes
      cases hfind : m.find path with
      | error fault =>
        rw [hfind] at hbytes
        cases hbytes
      | ok node =>
        rw [hfind] at hbytes
        cases node with
        | file content mode =>
          simp only [bind, Except.bind] at hbytes
          split at hbytes
          · cases hbytes
            cases h
            exact ⟨_, mode, rfl, rfl⟩
          · cases hbytes
        | folder mode => cases hbytes
        | link target => cases hbytes
        | device isFull => cases hbytes
    · cases h
    · cases h

section Output

variable {m : Machine}

theorem outputPlace_ne_nil (m : Machine) : outputPlace m ≠ [] := by
  simp [outputPlace, Machine.freshScratch]

/-- No link is met on the way to a place in the output folder where the decompiler made none. -/
theorem not_link_of_staysInside {left : Machine} (hreal : m.HasRealScratch)
    (hadds : m.AddsNoLink left) {names : List Text} (hin : staysInside 0 names = true)
    {front : List Text} (hfront : front <+: [] :: outputPlace m ++ names) (target : Text) :
    left.files.get? (Place.follow [] front) ≠ some (.link target) := by
  intro hlink
  have hold := hadds _ _ hlink
  rcases hreal.prefix_or_prefix_follow (by decide) hin hfront with hplace | ⟨rest, hplace⟩
  · exact hreal.noLink _ hplace target hold
  · rw [← hplace, get?_freshScratch] at hold
    cases hold

/-- A text that is found for an entry that stays inside is read beneath the output folder. -/
theorem readsBeneath_of_textIfFile {left : Machine} {r : ClassRequest} {text : Text}
    (hreal : m.HasRealScratch) (hadds : m.AddsNoLink left)
    (hclass : Entry.isClass r.entry = true) (hhead : r.entry.head? ≠ some '/')
    (hin : Entry.StaysInside r.entry) (h : textIfFile (outputPath m r) left = .ok (some text)) :
    ReadsBeneath m left (decompiledPlace (outputPlace m) r.entry) text := by
  have hne := outputPlace_ne_nil m
  have hnames : ∀ name ∈ outputPlace m, IsPlaceName name :=
    hreal.isPlaceName_freshScratch (by decide)
  obtain ⟨content, mode, hfind, htext⟩ := textIfFile_eq_some h
  obtain ⟨rest, hrest, hplace⟩ := exists_decompiledPlace hne hnames hclass hhead hin
  have hparts : staysInside 0 (PathName.ofText (Entry.javaEntry r.entry)).parts = true := by
    rw [parts_javaEntry, staysInside_filter, staysInside_javaEntry hclass]
    exact hin
  have hget := Machine.find_eq_ok (head?_decompiledPath hne hnames hclass hhead)
    (fun front hfront => not_link_of_staysInside hreal hadds hparts (by
      rwa [splitOn_decompiledPath hne hnames hclass hhead] at hfront)) hfind
  refine ⟨⟨rest, hrest, hplace⟩, ?_, content, mode, hget, htext⟩
  rw [hplace]
  exact get?_freshScratch m _ rest

end Output

/-- The path at which the text of a decompiled class is read works out to a place beneath the output
folder exactly if the path of the entry stays inside, its dots being worked out. A text that
is then read is that of a file beneath the output folder where nothing lay before, as long as the
decompiler makes no links. -/
theorem decompile_reads (launcher : Launcher) {m : Machine} {archive entry : Text} {r : ClassRequest}
    (hr : r = .ofEntry archive (Entry.normalize entry)) (hclass : Entry.isClass r.entry = true)
    (hreal : m.HasRealScratch)
    (hadds : ∀ decompiler o left tried,
      DecompilerRuns launcher m r decompiler (.ok o) left tried → m.AddsNoLink left) :
    (Entry.StaysInside r.entry → ∃ rest, rest ≠ [] ∧
      decompiledPlace (outputPlace m) r.entry = outputPlace m ++ rest) ∧
    (¬Entry.StaysInside r.entry →
      (∀ last ∈ (outputPlace m).getLast?, last ∉ splitOn '/' (Entry.javaEntry r.entry)) →
      ¬outputPlace m <+: decompiledPlace (outputPlace m) r.entry) ∧
    ∀ d m' tried text, Ends launcher m (decompile r.archive r.entry r.className) (.ok d) m' tried →
      d.text = some text → Entry.StaysInside r.entry →
      ∃ decompiler o left, DecompilerRuns launcher m r decompiler (.ok o) left tried ∧
        ReadsBeneath m left (decompiledPlace (outputPlace m) r.entry) text := by
  have hne := outputPlace_ne_nil m
  have hnames : ∀ name ∈ outputPlace m, IsPlaceName name :=
    hreal.isPlaceName_freshScratch (by decide)
  have hhead : r.entry.head? ≠ some '/' := by
    rw [hr]
    exact head?_normalize entry
  refine ⟨exists_decompiledPlace hne hnames hclass hhead,
    not_prefix_decompiledPlace hne hnames hclass hhead, ?_⟩
  intro d m' tried text hends htext hin
  rcases decompile_cases launcher m r with ⟨d', m₁, tried', hrun⟩ | ⟨f, tried', hfails⟩
  · obtain ⟨heq, -, rfl⟩ := hends.unique hrun.ends
    obtain rfl : d = d' := Except.ok.inj heq
    cases hrun with
    -- Only a decompiler that ended well and wrote its output leads to a text.
    | notLocated h hf => cases htext
    | notStarted h hrun hf => cases htext
    | failed h hrun hexit => cases htext
    | silent h hrun hexit hout => cases htext
    | @wrote decompiler o left tried text' h hrun hexit hout hne' =>
      obtain rfl : text' = text := Option.some.inj htext
      exact ⟨decompiler, o, left, hrun,
        readsBeneath_of_textIfFile hreal (hadds _ _ _ _ hrun) hclass hhead hin hout⟩
  · obtain ⟨m₁, hfail⟩ := hfails.ends
    cases (hends.unique hfail).1

/-! ## Dots in a path -/

theorem exists_ends_decompile (launcher : Launcher) (m : Machine) (r : ClassRequest) :
    ∃ x m' tried, Ends launcher m (decompile r.archive r.entry r.className) x m' tried := by
  rcases decompile_cases launcher m r with ⟨d, m', tried, hrun⟩ | ⟨f, tried, hfails⟩
  · exact ⟨_, _, _, hrun.ends⟩
  · obtain ⟨m', hends⟩ := hfails.ends
    exact ⟨_, _, _, hends⟩

/-- A launcher whose tools make a folder and write one word in the first scratch folder. -/
def writingLauncher : Launcher :=
  { start := fun m _ => .ok (0, m.toSite)
    await := fun m first _ =>
      let output := ["tmp".toList, "jar-viewer-cfr-00000000".toList]
      let files := m.files.makeFolders (output ++ ["q".toList])
      let files := files.put (output ++ ["A.java".toList]) (.file "word".toUTF8 0o644)
      (first, ⟨0, .empty, .empty⟩, { m.toSite with files }) }

def foundMachine : Machine :=
  oneClassMachine [("JAR_VIEWER_CFR_JAR".toList, "/a.jar".toList)]

/-- An entry with dots that stay inside, decompiled by a tool that writes. -/
theorem decompile_reads_dots :
    foundMachine.HasRealScratch ∧ Entry.StaysInside "q/../A.class".toList ∧
    ∃ decompiler o left tried,
      DecompilerRuns writingLauncher foundMachine (.ofEntry "/a.jar".toList "q/../A.class".toList)
        decompiler (.ok o) left tried ∧
      ReadsBeneath foundMachine left
        ["tmp".toList, "jar-viewer-cfr-00000000".toList, "A.java".toList] "word".toList := by
  have hreal : foundMachine.HasRealScratch := by
    refine ⟨fun name hname => ?_, fun place _ => Files.get?_ne_link (by decide +kernel) place⟩
    rw [List.mem_singleton.1 hname]
    exact ⟨⟨by decide, by decide, by decide⟩, by decide⟩
  have hin : Entry.StaysInside "q/../A.class".toList := by
    unfold Entry.StaysInside
    decide
  have hadds : ∀ decompiler o left tried,
      DecompilerRuns writingLauncher foundMachine (.ofEntry "/a.jar".toList "q/../A.class".toList)
        decompiler (.ok o) left tried → foundMachine.AddsNoLink left := by
    intro decompiler o left tried hrun place target hlink
    cases hrun with
    | finished h hstart hawait =>
      cases hstart
      cases hawait
      exact absurd hlink (Files.get?_ne_link (by decide +kernel) place target)
  have hrun : (decompile "/a.jar".toList "q/../A.class".toList
      (Entry.className "q/../A.class".toList) writingLauncher { machine := foundMachine }).1 =
        .ok ⟨some "word".toList, some 0, []⟩ := by
    decide +kernel
  obtain ⟨-, -, hreads⟩ := decompile_reads writingLauncher
    (show ClassRequest.ofEntry "/a.jar".toList "q/../A.class".toList =
      .ofEntry "/a.jar".toList (Entry.normalize "q/../A.class".toList) by decide)
    (by decide) hreal hadds
  obtain ⟨x, m', tried, hends⟩ := exists_ends_decompile writingLauncher foundMachine
    (.ofEntry "/a.jar".toList "q/../A.class".toList)
  obtain ⟨s', hs', -⟩ := hends { machine := foundMachine } rfl
  obtain rfl : x = .ok ⟨some "word".toList, some 0, []⟩ := (congrArg Prod.fst hs').symm.trans hrun
  obtain ⟨decompiler, o, left, hruns, hreads⟩ := hreads _ m' tried _ hends rfl hin
  exact ⟨hreal, hin, decompiler, o, left, tried, hruns, hreads⟩

/-- An archive with one class, which is said to lie above. -/
def outsideMachine : Machine :=
  let archive := emptyMemberArchive [46, 46, 47, 65, 46, 99, 108, 97, 115, 115] 0
  { foundMachine with
    files := (foundMachine.files.put ["a.jar".toList] (.file archive 0o644)).put
      ["tmp".toList, "A.java".toList] (.file "old".toUTF8 0o644) }

/-- A class whose path leads above the scratch folder is shown with the text of a file next to that,
though the decompiler wrote nothing. -/
theorem decompile_outside_scratch :
    outsideMachine.hasEntry "/a.jar".toList "../A.class".toList = .ok true ∧
    decompiledPlace (outputPlace outsideMachine) "../A.class".toList =
      ["tmp".toList, "A.java".toList] ∧
    ¬outputPlace outsideMachine <+: ["tmp".toList, "A.java".toList] ∧
    (decompile "/a.jar".toList "../A.class".toList (Entry.className "../A.class".toList)
      wordLauncher { machine := outsideMachine }).1 =
        .ok ⟨some "old".toList, some 0, "word".toList⟩ := by
  refine ⟨?_, ?_, ?_, ?_⟩ <;> decide +kernel

end Source

end JarLens
