import JarLens.Proofs.Tool.Ending
import JarLens.Source.Reading

/-!
# What each tier comes to

For each of the three tiers: when it gives a text, when it leaves the class to the next tier, and
when a failure of it ends the whole read. What is said is in terms of the machine, the bytes of the
archives and how the tools behave. Every tier comes to exactly one of these.
-/

namespace JarLens.Source

open JarLens.Action

section

variable {launcher : Launcher} {m m' : Machine} {f : Failure} {tried : List Launch}

theorem ends_orNoTool_ok {α : Type} {action : Action α} {x : α}
    (h : Ends launcher m action (.ok x) m' tried) :
    Ends launcher m (orNoTool action) (.ok (.ok x)) m' tried :=
  (h.map Except.ok).tryCatch_ok

/-- A missing tool is taken for no result. -/
theorem ends_orNoTool_absorbed {α : Type} {action : Action α}
    (h : Ends launcher m action (.error f) m' tried) (hf : meansNoTool f = true) :
    Ends launcher m (orNoTool action) (.ok (.error f)) m' tried :=
  (h.map Except.ok).tryCatch_error (by simp only [hf, if_true]; exact .pure _)

theorem ends_orNoTool_error {α : Type} {action : Action α}
    (h : Ends launcher m action (.error f) m' tried) (hf : meansNoTool f = false) :
    Ends launcher m (orNoTool action) (.error f) m' tried :=
  (h.map Except.ok).tryCatch_error (by simp only [hf]; exact .throw _)

end

/-! ## Attached sources -/

/-- The archive with source texts that lies next to the class's archive. -/
structure HasSources (m : Machine) (r : ClassRequest) (sibling : PathName) : Prop where
  named : (PathName.ofText r.archive).sourceSibling? = some sibling
  isFile : m.isFile sibling.toText = .ok true

/-- The attached source text of a class. -/
structure Attached (m : Machine) (r : ClassRequest) (sibling : PathName) (text : Text) : Prop where
  sources : HasSources m r sibling
  text : m.readText sibling.toText (Entry.javaEntry r.entry) = .ok (some text)

/-- Why no source text is attached to a class. -/
inductive Unattached (m : Machine) (r : ClassRequest) : Prop
  | noName (h : (PathName.ofText r.archive).sourceSibling? = none)
  | noFile {sibling} (h : (PathName.ofText r.archive).sourceSibling? = some sibling)
      (hfile : m.isFile sibling.toText = .ok false)
  | noEntry {sibling} (h : HasSources m r sibling)
      (htext : m.readText sibling.toText (Entry.javaEntry r.entry) = .ok none)
  /-- The archive cannot be found or opened. -/
  | unreadable {sibling cause} (h : HasSources m r sibling)
      (htext : m.readText sibling.toText (Entry.javaEntry r.entry) = .error (.notFound cause))

/-- The failures of the first tier that end the read. -/
inductive AttachFails (m : Machine) (r : ClassRequest) : Failure → Prop
  | file {sibling trouble} (h : (PathName.ofText r.archive).sourceSibling? = some sibling)
      (hfile : m.isFile sibling.toText = .error trouble) : AttachFails m r (.badPath trouble)
  | read {sibling f} (h : HasSources m r sibling)
      (htext : m.readText sibling.toText (Entry.javaEntry r.entry) = .error f)
      (hf : ∀ cause, f ≠ .notFound cause) : AttachFails m r f

section

variable {launcher : Launcher} {m : Machine} {r : ClassRequest} {f : Failure}

/-- Reading goes on from an archive with source texts to one of its texts. -/
theorem HasSources.ends_attachedSource {sibling : PathName} {x : Except Failure (Option Text)}
    (h : HasSources m r sibling)
    (htext : Ends launcher m (attachedText sibling.toText (Entry.javaEntry r.entry)) x m []) :
    Ends launcher m (attachedSource r) (x.map (·.map (attachedReading sibling r.entry))) m [] := by
  unfold attachedSource
  rw [h.named]
  refine (Ends.look (congrArg (Except.mapError Failure.badPath) h.isFile)).after ?_
  cases x with
  | ok text => exact htext.after (.pure _)
  | error f => exact htext.bind_error

theorem Attached.ends {sibling : PathName} {text : Text} (h : Attached m r sibling text) :
    Ends launcher m (attachedSource r) (.ok (some (attachedReading sibling r.entry text))) m [] :=
  h.sources.ends_attachedSource (Ends.look h.text).tryCatch_ok

theorem Unattached.ends (h : Unattached m r) :
    Ends launcher m (attachedSource r) (.ok none) m [] := by
  cases h with
  | noName h =>
    unfold attachedSource
    rw [h]
    exact .pure _
  | noFile h hfile =>
    unfold attachedSource
    rw [h]
    exact (Ends.look (congrArg (Except.mapError Failure.badPath) hfile)).after (.pure _)
  | noEntry h htext => exact h.ends_attachedSource (Ends.look htext).tryCatch_ok
  | @unreadable sibling _ h htext =>
    have hnone : Ends launcher m (attachedText sibling.toText (Entry.javaEntry r.entry)) (.ok none)
        m [] :=
      (Ends.look htext).tryCatch_error (Ends.log.after (.pure none))
    exact h.ends_attachedSource hnone

theorem AttachFails.ends (h : AttachFails m r f) :
    Ends launcher m (attachedSource r) (.error f) m [] := by
  cases h with
  | file h hfile =>
    unfold attachedSource
    rw [h]
    exact (Ends.look (congrArg (Except.mapError Failure.badPath) hfile)).bind_error
  | @read sibling f h htext hf =>
    have herror : Ends launcher m (attachedText sibling.toText (Entry.javaEntry r.entry)) (.error f)
        m [] := by
      refine (Ends.look htext).tryCatch_error ?_
      cases f with
      | notFound cause => exact absurd rfl (hf cause)
      | _ => exact .throw _
    exact h.ends_attachedSource herror

end

/-- Sources are attached, or not, or looking for them fails. -/
theorem attached_cases (m : Machine) (r : ClassRequest) :
    (∃ sibling text, Attached m r sibling text) ∨ Unattached m r ∨ ∃ f, AttachFails m r f := by
  cases hsibling : (PathName.ofText r.archive).sourceSibling? with
  | none => exact .inr (.inl (.noName hsibling))
  | some sibling =>
    rcases hfile : m.isFile sibling.toText with trouble | isFile
    · exact .inr (.inr ⟨_, .file hsibling hfile⟩)
    · cases isFile with
      | false => exact .inr (.inl (.noFile hsibling hfile))
      | true =>
        have hsources : HasSources m r sibling := ⟨hsibling, hfile⟩
        rcases htext : m.readText sibling.toText (Entry.javaEntry r.entry) with f | text
        · by_cases hf : ∃ cause, f = .notFound cause
          · obtain ⟨cause, rfl⟩ := hf
            exact .inr (.inl (.unreadable hsources htext))
          · exact .inr (.inr ⟨f, .read hsources htext fun cause heq => hf ⟨cause, heq⟩⟩)
        · cases text with
          | none => exact .inr (.inl (.noEntry hsources htext))
          | some text => exact .inl ⟨sibling, text, hsources, htext⟩

/-! ## The decompiler -/

/-- Where the decompiler writes. -/
def outputPlace (m : Machine) : Place :=
  m.freshScratch "cfr".toList

/-- Where the source text of a class is expected of the decompiler. -/
def outputPath (m : Machine) (r : ClassRequest) : Text :=
  decompiledPath (outputPlace m).toText r.entry

/-- What the decompiler is asked, with a new folder to write to. -/
def requestIn (m : Machine) (r : ClassRequest) (decompiler : Text) : ToolRequest :=
  decompilerRequest (m.withScratch "cfr".toList) decompiler r.archive (outputPlace m).toText
    r.className

/-- What comes of running the decompiler with a new folder to write to. -/
def DecompilerRuns (launcher : Launcher) (m : Machine) (r : ClassRequest) (decompiler : Text) :
    Except Failure Outcome → Machine → List Launch → Prop :=
  (requestIn m r decompiler).Runs launcher (m.withScratch "cfr".toList)

/-- What the second tier can come to: what is found of the decompiler's work, the machine that it
leaves, and the tools that were started. -/
inductive Decompiles (launcher : Launcher) (m : Machine) (r : ClassRequest) :
    Decompiled → Machine → List Launch → Prop
  | notLocated {f} (h : findDecompiler decompilerFile m = .error f) (hf : meansNoTool f = true) :
      Decompiles launcher m r (.notRun f) m []
  /-- The command is missing or not executable. -/
  | notStarted {decompiler f m' tried} (h : findDecompiler decompilerFile m = .ok decompiler)
      (hrun : DecompilerRuns launcher m r decompiler (.error f) m' tried)
      (hf : meansNoTool f = true) :
      Decompiles launcher m r (.notRun f) (m'.withoutScratch (outputPlace m)) tried
  | failed {decompiler o m' tried} (h : findDecompiler decompilerFile m = .ok decompiler)
      (hrun : DecompilerRuns launcher m r decompiler (.ok o) m' tried)
      (hexit : o.exitCode ≠ some 0) :
      Decompiles launcher m r ⟨none, o.exitCode, saidBy o⟩ (m'.withoutScratch (outputPlace m)) tried
  /-- It succeeded but left no text. -/
  | silent {decompiler o m' tried} (h : findDecompiler decompilerFile m = .ok decompiler)
      (hrun : DecompilerRuns launcher m r decompiler (.ok o) m' tried)
      (hexit : o.exitCode = some 0)
      (hout : textIfFile (outputPath m r) m' = .ok none ∨
        textIfFile (outputPath m r) m' = .ok (some [])) :
      Decompiles launcher m r
        ⟨none, o.exitCode, firstNonEmpty (saidBy o) (noOutputMessage r.entry)⟩
        (m'.withoutScratch (outputPlace m)) tried
  | wrote {decompiler o m' tried text} (h : findDecompiler decompilerFile m = .ok decompiler)
      (hrun : DecompilerRuns launcher m r decompiler (.ok o) m' tried)
      (hexit : o.exitCode = some 0)
      (hout : textIfFile (outputPath m r) m' = .ok (some text)) (htext : text ≠ []) :
      Decompiles launcher m r ⟨some text, o.exitCode, saidBy o⟩ (m'.withoutScratch (outputPlace m))
        tried

/-- The failures of the second tier that end the read. -/
inductive DecompileFails (launcher : Launcher) (m : Machine) (r : ClassRequest) :
    Failure → List Launch → Prop
  | locate {f} (h : findDecompiler decompilerFile m = .error f) (hf : meansNoTool f = false) :
      DecompileFails launcher m r f []
  | start {decompiler f m' tried} (h : findDecompiler decompilerFile m = .ok decompiler)
      (hrun : DecompilerRuns launcher m r decompiler (.error f) m' tried)
      (hf : meansNoTool f = false) : DecompileFails launcher m r f tried
  /-- The text that it left cannot be read. -/
  | output {decompiler o m' tried f} (h : findDecompiler decompilerFile m = .ok decompiler)
      (hrun : DecompilerRuns launcher m r decompiler (.ok o) m' tried)
      (hexit : o.exitCode = some 0) (hout : textIfFile (outputPath m r) m' = .error f) :
      DecompileFails launcher m r f tried

section

variable {launcher : Launcher} {m m' : Machine} {r : ClassRequest} {f : Failure}
  {tried : List Launch}

theorem ends_locateDecompiler_ok {decompiler : Text}
    (h : findDecompiler decompilerFile m = .ok decompiler) :
    Ends launcher m (locateDecompiler decompilerFile) (.ok decompiler) m [] :=
  (Ends.look h).after (Ends.logMessage.after (.pure _))

theorem ends_locateDecompiler_error (h : findDecompiler decompilerFile m = .error f) :
    Ends launcher m (locateDecompiler decompilerFile) (.error f) m [] :=
  (Ends.look h).bind_error

/-- A decompiler that is found works in a folder of its own. -/
theorem ends_decompile {decompiler : Text} {x : Except Failure Decompiled}
    (h : findDecompiler decompilerFile m = .ok decompiler)
    (hbody : Ends launcher (m.withScratch "cfr".toList)
      (decompileIn decompiler r.archive r.entry r.className (outputPlace m)) x m' tried) :
    Ends launcher m (decompile r.archive r.entry r.className) x
      (m'.withoutScratch (outputPlace m)) tried :=
  (ends_orNoTool_ok (ends_locateDecompiler_ok h)).after (ends_withScratch hbody)

/-- A decompiler that has run leaves its outcome to be collected. -/
theorem ends_decompileIn {decompiler : Text} {o : Outcome} {x : Except Failure Decompiled}
    (hrun : DecompilerRuns launcher m r decompiler (.ok o) m' tried)
    (hcollect : Ends launcher m'
      (collectDecompiled (outputPlace m).toText r.entry r.className o) x m' []) :
    Ends launcher (m.withScratch "cfr".toList)
      (decompileIn decompiler r.archive r.entry r.className (outputPlace m)) x m' tried :=
  Ends.machine.after ((ends_orNoTool_ok hrun.ends).before hcollect)

theorem Outcome.ok_iff {o : Outcome} : o.ok = true ↔ o.exitCode = some 0 := by
  simp [Outcome.ok]

theorem Decompiles.ends {d : Decompiled} (h : Decompiles launcher m r d m' tried) :
    Ends launcher m (decompile r.archive r.entry r.className) (.ok d) m' tried := by
  cases h with
  | notLocated h hf =>
    exact (ends_orNoTool_absorbed (ends_locateDecompiler_error h) hf).after (.pure _)
  | notStarted h hrun hf =>
    exact ends_decompile h
      (Ends.machine.after ((ends_orNoTool_absorbed hrun.ends hf).before (.pure _)))
  | @failed decompiler o m' tried h hrun hexit =>
    refine ends_decompile h (ends_decompileIn hrun ?_)
    have hok : o.ok = false := by rw [← Bool.not_eq_true, Outcome.ok_iff]; exact hexit
    simp only [collectDecompiled, hok]
    exact Ends.log.after (.pure _)
  | @silent decompiler o m' tried h hrun hexit hout =>
    refine ends_decompile h (ends_decompileIn hrun ?_)
    simp only [collectDecompiled, Outcome.ok_iff.2 hexit]
    rcases hout with hout | hout <;>
      exact (Ends.look hout).after (Ends.log.after (.pure _))
  | @wrote decompiler o m' tried text h hrun hexit hout htext =>
    refine ends_decompile h (ends_decompileIn hrun ?_)
    simp only [collectDecompiled, Outcome.ok_iff.2 hexit]
    cases text with
    | nil => exact absurd rfl htext
    | cons c text => exact (Ends.look hout).after (.pure _)

theorem DecompileFails.ends (h : DecompileFails launcher m r f tried) :
    ∃ m', Ends launcher m (decompile r.archive r.entry r.className) (.error f) m' tried := by
  cases h with
  | locate h hf => exact ⟨m, (ends_orNoTool_error (ends_locateDecompiler_error h) hf).bind_error⟩
  | start h hrun hf =>
    exact ⟨_, ends_decompile h
      (Ends.machine.after (ends_orNoTool_error hrun.ends hf).bind_error)⟩
  | @output decompiler o m' tried f h hrun hexit hout =>
    refine ⟨_, ends_decompile h (ends_decompileIn hrun ?_)⟩
    simp only [collectDecompiled, Outcome.ok_iff.2 hexit]
    exact (Ends.look hout).bind_error

end

theorem decompile_cases (launcher : Launcher) (m : Machine) (r : ClassRequest) :
    (∃ d m' tried, Decompiles launcher m r d m' tried) ∨
      ∃ f tried, DecompileFails launcher m r f tried := by
  rcases hfind : findDecompiler decompilerFile m with f | decompiler
  · cases hf : meansNoTool f with
    | true => exact .inl ⟨_, _, _, .notLocated hfind hf⟩
    | false => exact .inr ⟨_, _, .locate hfind hf⟩
  · obtain ⟨x, m', tried, hrun⟩ := ToolRequest.Runs.total launcher (m.withScratch "cfr".toList)
      (requestIn m r decompiler)
    rcases x with f | o
    · cases hf : meansNoTool f with
      | true => exact .inl ⟨_, _, _, .notStarted hfind hrun hf⟩
      | false => exact .inr ⟨_, _, .start hfind hrun hf⟩
    · by_cases hexit : o.exitCode = some 0
      · rcases hout : textIfFile (outputPath m r) m' with f | text
        · exact .inr ⟨_, _, .output hfind hrun hexit hout⟩
        · rcases text with - | text
          · exact .inl ⟨_, _, _, .silent hfind hrun hexit (.inl hout)⟩
          · by_cases htext : text = []
            · exact .inl ⟨_, _, _, .silent hfind hrun hexit (.inr (htext ▸ hout))⟩
            · exact .inl ⟨_, _, _, .wrote hfind hrun hexit hout htext⟩
      · exact .inl ⟨_, _, _, .failed hfind hrun hexit⟩

/-! ## Signatures -/

/-- What comes of running the command that prints signatures. -/
def SignatureRuns (launcher : Launcher) (m : Machine) (r : ClassRequest) :
    Except Failure Outcome → Machine → List Launch → Prop :=
  (signatureRequest m r.archive r.className).Runs launcher m

/-- What the last tier can come to: the signatures printed, if any, and the tools that were
started. -/
inductive Signs (launcher : Launcher) (m : Machine) (r : ClassRequest) :
    Option Text → List Launch → Prop
  | notStarted {f m' tried} (hrun : SignatureRuns launcher m r (.error f) m' tried)
      (hf : meansNoTool f = true) : Signs launcher m r none tried
  | failed {o m' tried} (hrun : SignatureRuns launcher m r (.ok o) m' tried)
      (hexit : o.exitCode ≠ some 0) : Signs launcher m r none tried
  | silent {o m' tried} (hrun : SignatureRuns launcher m r (.ok o) m' tried)
      (hexit : o.exitCode = some 0) (hout : o.stdout = []) (herr : o.stderr = []) :
      Signs launcher m r none tried
  | printed {o m' tried} (hrun : SignatureRuns launcher m r (.ok o) m' tried)
      (hexit : o.exitCode = some 0) (hsaid : o.stdout ≠ [] ∨ o.stderr ≠ []) :
      Signs launcher m r (some (firstNonEmpty o.stdout o.stderr)) tried

/-- The failures of the last tier that are no lack of a text. -/
inductive SignFails (launcher : Launcher) (m : Machine) (r : ClassRequest) :
    Failure → List Launch → Prop
  | start {f m' tried} (hrun : SignatureRuns launcher m r (.error f) m' tried)
      (hf : meansNoTool f = false) : SignFails launcher m r f tried

section

variable {launcher : Launcher} {m m' : Machine} {r : ClassRequest} {f : Failure}
  {tried : List Launch}

theorem firstNonEmpty_eq_nil {a b : Text} : firstNonEmpty a b = [] ↔ a = [] ∧ b = [] := by
  unfold firstNonEmpty
  split
  · next h => simp [h]
  · next h => simp [h]

/-- What a successful reader says is the answer, its output before its errors. -/
theorem printedSignatures?_of_ne {o : Outcome} (hexit : o.exitCode = some 0)
    (hsaid : o.stdout ≠ [] ∨ o.stderr ≠ []) :
    printedSignatures? o = some (firstNonEmpty o.stdout o.stderr) := by
  have hne : firstNonEmpty o.stdout o.stderr ≠ [] := by
    rw [ne_eq, firstNonEmpty_eq_nil]
    rintro ⟨hout, herr⟩
    rcases hsaid with h | h
    · exact h hout
    · exact h herr
  simp [printedSignatures?, Outcome.ok, hexit, hne]

/-- A command that has run leaves its outcome to be looked at. -/
theorem ends_signature {o : Outcome} (hrun : SignatureRuns launcher m r (.ok o) m' tried) :
    Ends launcher m (signature r.archive r.className) (.ok (printedSignatures? o)) m' tried :=
  Ends.machine.after ((ends_orNoTool_ok hrun.ends).before (.pure _))

theorem Signs.ends {x : Option Text} (h : Signs launcher m r x tried) :
    ∃ m', Ends launcher m (signature r.archive r.className) (.ok x) m' tried := by
  cases h with
  | notStarted hrun hf =>
    exact ⟨_, Ends.machine.after ((ends_orNoTool_absorbed hrun.ends hf).before (.pure _))⟩
  | @failed o m' tried hrun hexit =>
    have hnone : printedSignatures? o = none := by
      simp [printedSignatures?, Outcome.ok, hexit]
    exact ⟨m', hnone ▸ ends_signature hrun⟩
  | @silent o m' tried hrun hexit hout herr =>
    have hnone : printedSignatures? o = none := by
      simp [printedSignatures?, Outcome.ok, hexit, firstNonEmpty, hout, herr]
    exact ⟨m', hnone ▸ ends_signature hrun⟩
  | @printed o m' tried hrun hexit hsaid =>
    exact ⟨m', printedSignatures?_of_ne hexit hsaid ▸ ends_signature hrun⟩

theorem SignFails.ends (h : SignFails launcher m r f tried) :
    ∃ m', Ends launcher m (signature r.archive r.className) (.error f) m' tried := by
  cases h with
  | start hrun hf => exact ⟨_, Ends.machine.after (ends_orNoTool_error hrun.ends hf).bind_error⟩

end

theorem signature_cases (launcher : Launcher) (m : Machine) (r : ClassRequest) :
    (∃ x tried, Signs launcher m r x tried) ∨ ∃ f tried, SignFails launcher m r f tried := by
  obtain ⟨x, m', tried, hrun⟩ :=
    ToolRequest.Runs.total launcher m (signatureRequest m r.archive r.className)
  rcases x with f | o
  · cases hf : meansNoTool f with
    | true => exact .inl ⟨_, _, .notStarted hrun hf⟩
    | false => exact .inr ⟨_, _, .start hrun hf⟩
  · by_cases hexit : o.exitCode = some 0
    · by_cases hsaid : o.stdout = [] ∧ o.stderr = []
      · exact .inl ⟨_, _, .silent hrun hexit hsaid.1 hsaid.2⟩
      · have hsome : o.stdout ≠ [] ∨ o.stderr ≠ [] := by
          by_cases hout : o.stdout = []
          · exact .inr fun herr => hsaid ⟨hout, herr⟩
          · exact .inl hout
        exact .inl ⟨_, _, .printed hrun hexit hsome⟩
    · exact .inl ⟨_, _, .failed hrun hexit⟩

end JarLens.Source
