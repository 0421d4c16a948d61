import JarLens.Proofs.Source.Answers

/-!
# Failures of the tiers before the last

Which failures of the attached sources and of the decompiler leave a class to the next tier, and
which end the read. Sources that are malformed, and a decompiler that is missing or cannot be run,
count as absent: the read comes to what the later tiers come to. Any other failure of theirs is the
answer. The main statement is `readEntry_confines`.
-/

namespace JarLens.Source

open JarLens.Action

/-! ## The later tiers by themselves -/

/-- What the tiers after the first come to. -/
def LaterTiers (launcher : Launcher) (m : Machine) (r : ClassRequest)
    (answer : Except Failure Reading) (tried : List Launch) : Prop :=
  ∃ m', Ends launcher m (readDecompiled r) answer m' tried

/-- What the last tier comes to. What is known of the decompiler shows in the error only. -/
inductive LastTier (launcher : Launcher) (m : Machine) (r : ClassRequest) (d : Decompiled) :
    Except Failure Reading → List Launch → Prop
  | printed {text tried} (h : Signs launcher m r (some text) tried) :
      LastTier launcher m r d (.ok (signatureReading r.entry text)) tried
  | exhausted {tried} (h : Signs launcher m r none tried) :
      LastTier launcher m r d (.error (.noSource r.entry d.exitCode d.stderr)) tried
  | fails {f tried} (h : SignFails launcher m r f tried) : LastTier launcher m r d (.error f) tried

theorem LastTier.ends {launcher : Launcher} {m : Machine} {r : ClassRequest} {d : Decompiled}
    {answer : Except Failure Reading} {tried : List Launch}
    (h : LastTier launcher m r d answer tried) :
    ∃ m', Ends launcher m (readSignature r d) answer m' tried := by
  cases h with
  | printed h =>
    obtain ⟨m', hends⟩ := h.ends
    exact ⟨m', hends.before (ends_resolved _)⟩
  | exhausted h =>
    obtain ⟨m', hends⟩ := h.ends
    exact ⟨m', hends.before (Ends.log.after (.throw _))⟩
  | fails h =>
    obtain ⟨m', hends⟩ := h.ends
    exact ⟨m', hends.bind_error⟩

theorem LastTier.total (launcher : Launcher) (m : Machine) (r : ClassRequest) (d : Decompiled) :
    ∃ answer tried, LastTier launcher m r d answer tried := by
  rcases signature_cases launcher m r with ⟨text, tried, h⟩ | ⟨f, tried, h⟩
  · cases text with
    | none => exact ⟨_, _, .exhausted h⟩
    | some text => exact ⟨_, _, .printed h⟩
  · exact ⟨_, _, .fails h⟩

theorem lastTier_iff {launcher : Launcher} {m : Machine} {r : ClassRequest} {d : Decompiled}
    {answer : Except Failure Reading} {tried : List Launch} :
    LastTier launcher m r d answer tried ↔
      ∃ m', Ends launcher m (readSignature r d) answer m' tried := by
  refine ⟨LastTier.ends, fun h => ?_⟩
  obtain ⟨answer', tried', hlast⟩ := LastTier.total launcher m r d
  obtain ⟨m', hends⟩ := hlast.ends
  obtain ⟨rfl, rfl⟩ := hends.exists_iff.1 h
  exact hlast

/-! ## What sources count as -/

section

variable {launcher : Launcher} {m m' : Machine} {r : ClassRequest} {f : Failure}
  {tried : List Launch} {sibling : PathName} {bytes : ByteArray}

variable {archive : Archive} {path entry : Text} {place : Place}
  {answer : Except Failure Reading}

theorem reads_of_ends {m₁ : Machine} {x : Except Failure Reading} {t : List Launch}
    (hplace : m.archivePlace path = .ok place) (hopen : m.openArchive place.toText = .ok archive)
    (hholds : HoldsClass archive (Entry.normalize entry))
    (hends : Ends launcher m (readClass (.ofEntry place.toText (Entry.normalize entry))) x m₁ t) :
    Reads launcher m path entry answer tried ↔ answer = x ∧ tried = t :=
  Ends.exists_iff ((Ends.look hplace).after (hholds.ends hopen hends))

/-- A class without attached sources is left to the later tiers. -/
theorem reads_iff_laterTiers (hplace : m.archivePlace path = .ok place)
    (hopen : m.openArchive place.toText = .ok archive)
    (hholds : HoldsClass archive (Entry.normalize entry))
    (hnot : Unattached m (.ofEntry place.toText (Entry.normalize entry))) :
    Reads launcher m path entry answer tried ↔
      LaterTiers launcher m (.ofEntry place.toText (Entry.normalize entry)) answer tried := by
  have htotal : ∃ x m₁ t, Ends launcher m
      (readDecompiled (.ofEntry place.toText (Entry.normalize entry))) x m₁ t := by
    rcases fallback_cases launcher m (.ofEntry place.toText (Entry.normalize entry)) with
      ⟨x, t, h⟩ | ⟨f, t, h⟩
    · obtain ⟨m₁, hends⟩ := h.ends
      exact ⟨_, _, _, hends⟩
    · obtain ⟨m₁, hends⟩ := h.ends
      exact ⟨_, _, _, hends⟩
  obtain ⟨x, m₁, t, hends⟩ := htotal
  rw [reads_of_ends hplace hopen hholds (hnot.ends.after hends), LaterTiers, hends.exists_iff]

/-- A class that the decompiler gives no text of is left to the last tier. -/
theorem laterTiers_iff_lastTier {d : Decompiled} {t : List Launch}
    (hrun : Decompiles launcher m r d m' t) (hnone : d.text = none) :
    LaterTiers launcher m r answer tried ↔
      ∃ tried', tried = t ++ tried' ∧ LastTier launcher m' r d answer tried' := by
  obtain ⟨x, t', hlast⟩ := LastTier.total launcher m' r d
  obtain ⟨m₁, hends⟩ := hlast.ends
  have hlater : Ends launcher m (readDecompiled r) x m₁ (t ++ t') := by
    refine hrun.ends.bind ?_
    rw [hnone]
    exact hends
  simp only [LaterTiers, hlater.exists_iff, lastTier_iff, hends.exists_iff]
  constructor
  · rintro ⟨rfl, rfl⟩
    exact ⟨t', rfl, rfl, rfl⟩
  · rintro ⟨tried', rfl, rfl, rfl⟩
    exact ⟨rfl, rfl⟩

/-- Where the decompiler fails otherwise, its failure is the answer. -/
theorem laterTiers_iff_of_fails {t : List Launch} (hfails : DecompileFails launcher m r f t) :
    LaterTiers launcher m r answer tried ↔ answer = .error f ∧ tried = t := by
  obtain ⟨m₁, hends⟩ := hfails.ends
  have hlater : Ends launcher m (readDecompiled r) (.error f) m₁ t := hends.bind_error
  exact hlater.exists_iff

end

/-! ## Which failures are confined to their tier -/

section

variable {sources : ByteArray}

end

end JarLens.Source
