import JarLens.Proofs.Entry.ClassFile
import JarLens.Proofs.Source.Confinement

/-!
# The name that signatures are asked for

The last argument of the command that prints signatures is the name of the class, which comes from
the path of a member of the archive. An archive may name its members as it likes, so that the
argument may be empty, an option or the name of a file with arguments. Which paths lead there, and
when the command is started at all, is the subject of `signature_misleads_iff`.
-/

namespace JarLens

open JarLens.Text JarLens.Action

namespace Entry

/-! ## The start of a name -/

/-- The stem of a path from the first character on that is neither a dot nor a slash. -/
def bareStem (path : Text) : Text :=
  trimStart (fun c => c == '.' || c == '/') (stem path)

theorem trimStart_replaceChar (t : Text) :
    trimStart (· == '.') (replaceChar '/' '.' t) =
      replaceChar '/' '.' (trimStart (fun c => c == '.' || c == '/') t) := by
  have hleads : (· == '.') ∘ (fun c : Char => if c = '/' then '.' else c) =
      fun c => c == '.' || c == '/' := by
    funext c
    by_cases hslash : c = '/' <;> simp [hslash]
  unfold trimStart replaceChar
  rw [List.dropWhile_map, hleads]

/-- The class name is the stem without leading dots and slashes, with dots for slashes. -/
theorem className_eq_bareStem {path : Text} (h : isClass path = true) :
    className path = replaceChar '/' '.' (bareStem (normalize path)) := by
  rw [(namesClass_of_isClass h).className, trimStart_replaceChar]
  rfl

end Entry

namespace Source

/-- What the command takes for no name of a class: nothing, an option, or a file with arguments. -/
inductive Misleads : Text → Prop
  | empty : Misleads []
  | option (t : Text) : Misleads ('-' :: t)
  | argumentFile (t : Text) : Misleads ('@' :: t)

theorem misleads_cons_iff {c : Char} {t : Text} : Misleads (c :: t) ↔ c = '-' ∨ c = '@' := by
  constructor
  · intro h
    cases h with
    | option => exact .inl rfl
    | argumentFile => exact .inr rfl
  · rintro (rfl | rfl)
    · exact .option t
    · exact .argumentFile t

/-- Slashes inside a name do not decide whether it is taken for an option. -/
theorem misleads_replaceChar (t : Text) : Misleads (replaceChar '/' '.' t) ↔ Misleads t := by
  cases t with
  | nil => rfl
  | cons c t =>
    show Misleads ((if c = '/' then '.' else c) :: replaceChar '/' '.' t) ↔ Misleads (c :: t)
    rw [misleads_cons_iff, misleads_cons_iff]
    by_cases hslash : c = '/'
    · subst hslash
      decide
    · rw [if_neg hslash]

/-! ## The tools of a read -/

/-- The signatures of a class are asked for: no source text is attached to it, the decompiler gives
none, and the command may run on the machine that the decompiler leaves. -/
inductive AsksForSignatures (launcher : Launcher) (m : Machine) (r : ClassRequest) : Prop
  | intro {d m' tried project} (hnot : Unattached m r) (hrun : Decompiles launcher m r d m' tried)
      (hnone : d.text = none)
      (hready : (signatureRequest m' r.archive r.className).ready m' = .ok project)

section

variable {launcher : Launcher} {m m' : Machine} {r : ClassRequest} {d : Decompiled} {f : Failure}
  {tried : List Launch} {l : Launch}

/-- The decompiler is started as an archive that `java` runs. -/
theorem DecompilerRuns.arguments {decompiler : Text} {x : Except Failure Outcome}
    (h : DecompilerRuns launcher m r decompiler x m' tried) (hl : l ∈ tried) :
    l.arguments.head? = some "-jar".toList := by
  obtain ⟨rfl, -⟩ := (ToolRequest.Runs.mem_iff h).1 hl
  rfl

theorem Decompiles.arguments (h : Decompiles launcher m r d m' tried) (hl : l ∈ tried) :
    l.arguments.head? = some "-jar".toList := by
  cases h with
  | notLocated => cases hl
  | notStarted _ hrun => exact DecompilerRuns.arguments hrun hl
  | failed _ hrun => exact DecompilerRuns.arguments hrun hl
  | silent _ hrun => exact DecompilerRuns.arguments hrun hl
  | wrote _ hrun => exact DecompilerRuns.arguments hrun hl

theorem DecompileFails.arguments (h : DecompileFails launcher m r f tried) (hl : l ∈ tried) :
    l.arguments.head? = some "-jar".toList := by
  cases h with
  | locate => cases hl
  | start _ hrun => exact DecompilerRuns.arguments hrun hl
  | output _ hrun => exact DecompilerRuns.arguments hrun hl

/-- The last tier runs the signature reader once. -/
theorem LastTier.exists_runs {answer : Except Failure Reading}
    (h : LastTier launcher m r d answer tried) :
    ∃ x m', SignatureRuns launcher m r x m' tried := by
  have hsigns : ∀ {text}, Signs launcher m r text tried →
      ∃ x m', SignatureRuns launcher m r x m' tried := by
    intro text hsigns
    cases hsigns with
    | notStarted hrun => exact ⟨_, _, hrun⟩
    | failed hrun => exact ⟨_, _, hrun⟩
    | silent hrun => exact ⟨_, _, hrun⟩
    | printed hrun => exact ⟨_, _, hrun⟩
  cases h with
  | printed h => exact hsigns h
  | exhausted h => exact hsigns h
  | fails h =>
    cases h with
    | start hrun => exact ⟨_, _, hrun⟩

end

section

variable {launcher : Launcher} {m : Machine} {path entry : Text} {place : Place}
  {archive : Archive} {answer : Except Failure Reading} {tried : List Launch} {l : Launch}
  (hplace : m.archivePlace path = .ok place) (hopen : m.openArchive place.toText = .ok archive)
  (hholds : HoldsClass archive (Entry.normalize entry))

include hplace hopen

theorem exists_reads : ∃ answer tried, Reads launcher m path entry answer tried := by
  have hread : ∀ {x m₁ t}, Ends launcher m (readAt place.toText (Entry.normalize entry)) x m₁ t →
      ∃ answer tried, Reads launcher m path entry answer tried :=
    fun hends => ⟨_, _, _, (Ends.look hplace).after hends⟩
  rcases answer_cases launcher m place.toText archive (Entry.normalize entry) with
    ⟨answer, tried, hp⟩ | ⟨f, tried, hf⟩
  · obtain ⟨m₁, hends⟩ := hp.ends hopen
    exact hread hends
  · obtain ⟨m₁, hends⟩ := hf.ends hopen
    exact hread hends

include hholds

/-- A read starts no tool but those of the later tiers. -/
theorem of_mem_tried (hreads : Reads launcher m path entry answer tried) (hl : l ∈ tried) :
    l.arguments.head? = some "-jar".toList ∨
      AsksForSignatures launcher m (.ofEntry place.toText (Entry.normalize entry)) ∧
        l.arguments =
          signatureArguments place.toText (Entry.className (Entry.normalize entry)) := by
  rcases attached_cases m (.ofEntry place.toText (Entry.normalize entry)) with
    ⟨sibling, text, htext⟩ | hnot | ⟨f, hf⟩
  · obtain ⟨-, rfl⟩ :=
      (reads_of_ends hplace hopen hholds (htext.ends.after (ends_resolved _))).1 hreads
    cases hl
  · rw [reads_iff_laterTiers hplace hopen hholds hnot] at hreads
    rcases decompile_cases launcher m (.ofEntry place.toText (Entry.normalize entry)) with
      ⟨d, m₁, t, hrun⟩ | ⟨f, t, hfails⟩
    · cases htext : d.text with
      | some text =>
        obtain ⟨m₂, hends⟩ := (FallsBack.decompiled hrun htext).ends
        obtain ⟨-, rfl⟩ := hends.exists_iff.1 hreads
        exact .inl (hrun.arguments hl)
      | none =>
        obtain ⟨t', rfl, hlast⟩ := (laterTiers_iff_lastTier hrun htext).1 hreads
        rcases List.mem_append.1 hl with hl | hl
        · exact .inl (hrun.arguments hl)
        · obtain ⟨x, m₂, hsign⟩ := hlast.exists_runs
          obtain ⟨rfl, project, hready⟩ := (ToolRequest.Runs.mem_iff hsign).1 hl
          exact .inr ⟨⟨hnot, hrun, htext, hready⟩, rfl⟩
    · obtain ⟨-, rfl⟩ := (laterTiers_iff_of_fails hfails).1 hreads
      exact .inl (hfails.arguments hl)
  · obtain ⟨-, rfl⟩ := (reads_of_ends hplace hopen hholds hf.ends.bind_error).1 hreads
    cases hl

/-- A read that asks for signatures starts the reader with the class name. -/
theorem AsksForSignatures.exists_mem_tried
    (hasks : AsksForSignatures launcher m (.ofEntry place.toText (Entry.normalize entry)))
    (hreads : Reads launcher m path entry answer tried) :
    ∃ l ∈ tried, l.arguments =
      signatureArguments place.toText (Entry.className (Entry.normalize entry)) := by
  obtain ⟨hnot, hrun, hnone, hready⟩ := hasks
  rw [reads_iff_laterTiers hplace hopen hholds hnot, laterTiers_iff_lastTier hrun hnone] at hreads
  obtain ⟨t', rfl, hlast⟩ := hreads
  obtain ⟨x, m₂, hsign⟩ := hlast.exists_runs
  have hmem := (ToolRequest.Runs.mem_iff hsign).2 ⟨rfl, _, hready⟩
  exact ⟨_, List.mem_append_right _ hmem, rfl⟩

/-- The only name that a read asks signatures for is the class's own. -/
theorem name_of_mem_tried {name : Text} (hreads : Reads launcher m path entry answer tried)
    (hl : l ∈ tried) (hname : l.arguments = signatureArguments place.toText name) :
    AsksForSignatures launcher m (.ofEntry place.toText (Entry.normalize entry)) ∧
      name = Entry.className (Entry.normalize entry) := by
  rcases of_mem_tried hplace hopen hholds hreads hl with hjar | ⟨hasks, hown⟩
  · -- The arguments of the decompiler start otherwise.
    rw [hname] at hjar
    have hsame : "-classpath".toList = "-jar".toList := Option.some.inj hjar
    exact absurd hsame (by decide)
  · rw [hname] at hown
    simp only [signatureArguments, List.cons.injEq, and_true, true_and] at hown
    exact ⟨hasks, hown⟩

end

/-- Reading a class of an archive comes to an answer. If the signatures are asked for on the way,
then by the name of the class. That name misleads the command exactly for a path whose stem has
nothing but dots and slashes, or has `-` or `@` after them. -/
theorem signature_misleads_iff (launcher : Launcher) {m : Machine} {path entry : Text}
    {place : Place} {archive : Archive} (hplace : m.archivePlace path = .ok place)
    (hopen : m.openArchive place.toText = .ok archive)
    (hholds : HoldsClass archive (Entry.normalize entry)) :
    (∃ answer tried, Reads launcher m path entry answer tried) ∧
    ∀ answer tried, Reads launcher m path entry answer tried →
      (∀ l ∈ tried, ∀ name, l.arguments = signatureArguments place.toText name →
        name = Entry.className (Entry.normalize entry)) ∧
      ((∃ l ∈ tried, ∃ name, l.arguments = signatureArguments place.toText name ∧ Misleads name) ↔
        AsksForSignatures launcher m (.ofEntry place.toText (Entry.normalize entry)) ∧
          Misleads (Entry.bareStem (Entry.normalize entry))) := by
  have hmisleads : Misleads (Entry.className (Entry.normalize entry)) ↔
      Misleads (Entry.bareStem (Entry.normalize entry)) := by
    rw [Entry.className_eq_bareStem hholds.isClass, Entry.normalize_normalize,
      misleads_replaceChar]
  refine ⟨exists_reads hplace hopen, fun answer tried hreads => ⟨?_, ?_, ?_⟩⟩
  · intro l hl name hname
    exact (name_of_mem_tried hplace hopen hholds hreads hl hname).2
  · rintro ⟨l, hl, name, hname, hbad⟩
    obtain ⟨hasks, rfl⟩ := name_of_mem_tried hplace hopen hholds hreads hl hname
    exact ⟨hasks, hmisleads.1 hbad⟩
  · rintro ⟨hasks, hbad⟩
    obtain ⟨l, hl, hname⟩ := hasks.exists_mem_tried hplace hopen hholds hreads
    exact ⟨l, hl, _, hname, hmisleads.2 hbad⟩

/-! ## A class whose name is an option -/

/-- A machine with an archive that holds nothing but `-A.class`. -/
def optionMachine : Machine :=
  { oneClassMachine [] with
    files := (oneClassMachine []).files.put ["a.jar".toList]
      (.file (emptyMemberArchive [45, 65, 46, 99, 108, 97, 115, 115] 0) 0o644) }

/-- The command is asked for the signatures of the class by an option. -/
theorem signature_option :
    (readEntry "/a.jar".toList "-A.class".toList wordLauncher
      { machine := optionMachine }).2.launches.map (·.arguments) =
        [["-classpath".toList, "/a.jar".toList, "-public".toList, "-A".toList]] := by
  decide +kernel

/-- A class whose name starts with a dash. -/
theorem signature_misleads_iff_option : ∃ archive,
    optionMachine.openArchive "/a.jar".toList = .ok archive ∧
      HoldsClass archive (Entry.normalize "-A.class".toList) ∧
      AsksForSignatures wordLauncher optionMachine
        (.ofEntry "/a.jar".toList (Entry.normalize "-A.class".toList)) ∧
      Misleads (Entry.bareStem (Entry.normalize "-A.class".toList)) := by
  have hplace : optionMachine.archivePlace "/a.jar".toList = .ok ["a.jar".toList] := by
    decide +kernel
  have hhas : optionMachine.hasEntry "/a.jar".toList "-A.class".toList = .ok true := by
    decide +kernel
  have hrun : (readEntry "/a.jar".toList "-A.class".toList wordLauncher
      { machine := optionMachine }).2.launches =
        [⟨"javap".toList, signatureArguments "/a.jar".toList "-A".toList, none⟩] := by
    decide +kernel
  cases hopen : optionMachine.openArchive "/a.jar".toList with
  | error f =>
    rw [Machine.hasEntry, hopen] at hhas
    cases hhas
  | ok archive =>
    rw [Machine.hasEntry_eq hopen] at hhas
    have hholds : HoldsClass archive (Entry.normalize "-A.class".toList) :=
      ⟨by decide, Except.ok.inj hhas⟩
    obtain ⟨⟨answer, tried, hreads⟩, hsays⟩ :=
      signature_misleads_iff wordLauncher hplace hopen hholds
    obtain ⟨-, hiff⟩ := hsays answer tried hreads
    obtain ⟨m', hends⟩ := hreads
    obtain ⟨s', hs', -, hlaunches⟩ := hends { machine := optionMachine } rfl
    rw [hs'] at hrun
    have htried : tried =
        [⟨"javap".toList, signatureArguments "/a.jar".toList "-A".toList, none⟩] :=
      hlaunches.symm.trans hrun
    have hmem := List.mem_singleton_self
      (⟨"javap".toList, signatureArguments "/a.jar".toList "-A".toList, none⟩ : Launch)
    exact ⟨archive, rfl, hholds, hiff.1 ⟨_, htried ▸ hmem, _, rfl, .option _⟩⟩

end Source

end JarLens
