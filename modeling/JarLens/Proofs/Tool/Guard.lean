import JarLens.Proofs.Tool.Ending
import JarLens.Proofs.Failing

/-!
# The guard of build commands

A build command is known by the last part of its path (`BelongsTo`), and the project that it is
meant for by the first path that is given (`ToolRequest.MeantFor`). `ToolRequest.IsGuarded` says all
that can come of running one: it is started in a project of its kind and refused in any other.

`Action.StartsOnly may` says that an action starts nothing but what `may` lets pass, on the machine
as it is at that moment: what a launcher would do for any other start makes no difference to it.
-/

namespace JarLens

open JarLens.Action

/-! ## Build commands -/

def mavenCommands : List Text :=
  ["mvn".toList, "mvn.cmd".toList, "mvnw".toList, "mvnw.cmd".toList]

def gradleCommands : List Text :=
  ["gradle".toList, "gradle.bat".toList, "gradlew".toList, "gradlew.bat".toList]

/-- The last part of a command's path, in lower case. -/
def commandName (command : Text) : Text :=
  Text.lower ((PathName.ofText command).name?.getD [])

/-- The command may only run in projects of one kind. -/
inductive BelongsTo (command : Text) : ProjectKind → Prop
  | maven (h : commandName command ∈ mavenCommands) : BelongsTo command .maven
  | gradle (h : commandName command ∈ gradleCommands) : BelongsTo command .gradle

/-- The kind that a command requires is the one it belongs to by its last part. -/
theorem required?_eq_some_iff {command : Text} {kind : ProjectKind} :
    ProjectKind.required? command = some kind ↔ BelongsTo command kind := by
  have hrules : ∀ name kind, ProjectKind.commands.lookup name = some kind ↔
      (name ∈ mavenCommands ∧ kind = .maven) ∨ (name ∈ gradleCommands ∧ kind = .gradle) := by
    intro name kind
    constructor
    · intro h
      obtain ⟨before, after, hsplit, -⟩ := List.lookup_eq_some_iff.1 h
      have hmem : (name, kind) ∈ ProjectKind.commands := by
        rw [hsplit]
        exact List.mem_append_right before List.mem_cons_self
      simpa [ProjectKind.commands, mavenCommands, gradleCommands, or_assoc, or_and_right] using hmem
    · simp only [mavenCommands, gradleCommands, List.mem_cons, List.not_mem_nil, or_false]
      rintro (⟨rfl | rfl | rfl | rfl, rfl⟩ | ⟨rfl | rfl | rfl | rfl, rfl⟩) <;> rfl
  rw [ProjectKind.required?, hrules]
  constructor
  · rintro (⟨h, rfl⟩ | ⟨h, rfl⟩)
    · exact .maven h
    · exact .gradle h
  · rintro (h | h)
    · exact .inl ⟨h, rfl⟩
    · exact .inr ⟨h, rfl⟩

/-- The guard lets a command pass exactly in a project of each kind that the command belongs to. -/
theorem guardKind_eq_ok_iff {command : Text} {project : Detection} :
    guardKind command project = .ok () ↔ ∀ kind, BelongsTo command kind → project.kind = kind := by
  simp only [← required?_eq_some_iff]
  unfold guardKind
  cases ProjectKind.required? command with
  | none => simp
  | some required => by_cases h : project.kind = required <;> simp [h]

/-! ## The project that a tool is meant for -/

namespace ToolRequest

/-- The path whose project a tool is to run in: the one in the project it is meant for, else its
folder, else the folder that the program works in. Empty paths count as none. -/
inductive MeantFor (r : ToolRequest) (m : Machine) (path : Text) : Prop
  | project (h : r.project = some path) (hne : path ≠ [])
  | folder (hproject : r.project.getD [] = []) (h : r.folder = some path) (hne : path ≠ [])
  | here {place} (hproject : r.project.getD [] = []) (hfolder : r.folder.getD [] = [])
      (h : m.folder = some place) (heq : path = place.toText)

/-- The guard lets the request pass on a machine. -/
def Passes (r : ToolRequest) (m : Machine) : Prop :=
  ∀ kind, BelongsTo r.command kind →
    ∃ path project, r.MeantFor m path ∧ m.detect path = .ok project ∧ project.kind = kind

/-- The failure with which no project can be told for the request. -/
inductive HasNoProject (r : ToolRequest) (m : Machine) (f : Failure) : Prop
  | noPath (h : r.context m = .error f)
  | noDetection {path} (hpath : r.MeantFor m path) (h : m.detect path = .error f)

/-- All that can come of running a build command that belongs to projects of a kind. -/
structure IsGuarded (r : ToolRequest) (launcher : Launcher) (m : Machine) (kind : ProjectKind) :
    Prop where
  /-- In a project of the kind it is started, once. -/
  home : ∀ path project, r.MeantFor m path → m.detect path = .ok project → project.kind = kind →
    ∃ x m', Ends launcher m (runTool r) x m' [r.launch]
  /-- In any other it is refused, and nothing is started or changed. -/
  foreign : ∀ path project, r.MeantFor m path → m.detect path = .ok project →
    project.kind ≠ kind → Ends launcher m (runTool r)
      (.error (.kindMismatch r.command kind project.kind project.root)) m []
  /-- Where no project can be told, the cause is what comes of it. -/
  unknown : ∀ f, r.HasNoProject m f → Ends launcher m (runTool r) (.error f) m []
  /-- Nothing is started elsewhere. -/
  only : ∀ x m' tried, Ends launcher m (runTool r) x m' tried → tried ≠ [] →
    ∃ path project, r.MeantFor m path ∧ m.detect path = .ok project ∧ project.kind = kind

variable {r : ToolRequest} {m : Machine} {path : Text} {project : Detection} {kind : ProjectKind}

/-- The path that the guard goes by is the project path, else the folder, else where the program
runs. -/
theorem context_eq_ok_iff : r.context m = .ok path ↔ r.MeantFor m path := by
  have hsome : ∀ {given : Option Text} {path}, given.filter (· != []) = some path ↔
      given = some path ∧ path ≠ [] := by
    intro given path
    rw [Option.filter_eq_some_iff, bne_iff_ne]
  have hnone : ∀ {given : Option Text}, given.filter (· != []) = none ↔ given.getD [] = [] := by
    intro given
    cases given with
    | none => simp
    | some path => simp [Option.filter]
  unfold context
  constructor
  · intro h
    cases hproject : r.project.filter (· != []) with
    | some project =>
      simp only [hproject] at h
      cases h
      exact .project (hsome.1 hproject).1 (hsome.1 hproject).2
    | none =>
      cases hfolder : r.folder.filter (· != []) with
      | some folder =>
        simp only [hproject, hfolder] at h
        cases h
        exact .folder (hnone.1 hproject) (hsome.1 hfolder).1 (hsome.1 hfolder).2
      | none =>
        cases hplace : m.folder with
        | none => simp [hproject, hfolder, hplace] at h
        | some place =>
          simp only [hproject, hfolder, hplace, Option.map_some] at h
          cases h
          exact .here (hnone.1 hproject) (hnone.1 hfolder) hplace rfl
  · intro h
    cases h with
    | project h hne => simp [hsome.2 ⟨h, hne⟩]
    | folder hproject h hne => simp [hnone.2 hproject, hsome.2 ⟨h, hne⟩]
    | here hproject hfolder h heq =>
      simp [hnone.2 hproject, hnone.2 hfolder, h, heq]

/-- A request is meant for one path only. -/
theorem MeantFor.unique {path' : Text} (h : r.MeantFor m path) (h' : r.MeantFor m path') :
    path = path' := by
  have heq := (context_eq_ok_iff.2 h).symm.trans (context_eq_ok_iff.2 h')
  exact Except.ok.inj heq

/-! ## What the guard does -/

/-- A request is ready exactly if detection answers for the path that it is meant for, and the kind
found is the one that the command belongs to. -/
theorem ready_eq_ok_iff : r.ready m = .ok project ↔
    ∃ path, r.MeantFor m path ∧ m.detect path = .ok project ∧
      ∀ kind, BelongsTo r.command kind → project.kind = kind := by
  constructor
  · intro h
    obtain ⟨path, hpath, h⟩ := exists_of_bind_eq_ok h
    obtain ⟨found, hfound, h⟩ := exists_of_bind_eq_ok h
    obtain ⟨⟨⟩, hguard, h⟩ := exists_of_bind_eq_ok h
    obtain rfl : found = project := Except.ok.inj h
    exact ⟨path, context_eq_ok_iff.1 hpath, hfound, guardKind_eq_ok_iff.1 hguard⟩
  · rintro ⟨path, hpath, hfound, hkind⟩
    unfold ready
    rw [context_eq_ok_iff.2 hpath]
    show (m.detect path >>= _) = _
    rw [hfound]
    show (guardKind r.command project >>= _) = _
    rw [guardKind_eq_ok_iff.2 hkind]
    rfl

/-- What the guard lets start is meant for a project of the command's kind. -/
theorem passes_of_ready (h : r.ready m = .ok project) : r.Passes m := by
  obtain ⟨path, hpath, hfound, hkind⟩ := ready_eq_ok_iff.1 h
  exact fun kind hbelongs => ⟨path, project, hpath, hfound, hkind kind hbelongs⟩

/-- In a project of another kind a build command is refused with both kinds and the root. -/
theorem ready_of_foreign (hbelongs : BelongsTo r.command kind) (hpath : r.MeantFor m path)
    (hfound : m.detect path = .ok project) (hkind : project.kind ≠ kind) :
    r.ready m = .error (.kindMismatch r.command kind project.kind project.root) := by
  have hguard : guardKind r.command project =
      .error (.kindMismatch r.command kind project.kind project.root) := by
    rw [guardKind, required?_eq_some_iff.2 hbelongs]
    exact if_neg hkind
  unfold ready
  rw [context_eq_ok_iff.2 hpath]
  show (m.detect path >>= _) = _
  rw [hfound]
  show (guardKind r.command project >>= _) = _
  rw [hguard]
  rfl

/-- Where detection gives no answer, its failure is told in place of the guard's. -/
theorem HasNoProject.ready_eq {f : Failure} (h : r.HasNoProject m f) : r.ready m = .error f := by
  unfold ready
  cases h with
  | noPath h =>
    rw [h]
    rfl
  | noDetection hpath h =>
    rw [context_eq_ok_iff.2 hpath]
    show (m.detect _ >>= _) = _
    rw [h]
    rfl

/-- The guard decides on every build command, under any launcher. -/
theorem isGuarded (launcher : Launcher) (hbelongs : BelongsTo r.command kind) :
    r.IsGuarded launcher m kind where
  home path project hpath hfound hkind := by
    have hready : r.ready m = .ok project := by
      refine ready_eq_ok_iff.2 ⟨path, hpath, hfound, fun other hother => ?_⟩
      have heq := (required?_eq_some_iff.2 hbelongs).symm.trans (required?_eq_some_iff.2 hother)
      rw [hkind, Option.some.inj heq]
    obtain ⟨x, m', tried, hruns⟩ := Runs.total launcher m r
    have hends := hruns.ends
    cases hruns with
    | refused h =>
      rw [hready] at h
      cases h
    | notStarted => exact ⟨_, _, hends⟩
    | finished => exact ⟨_, _, hends⟩
  foreign path project hpath hfound hkind :=
    (Runs.refused (ready_of_foreign hbelongs hpath hfound hkind)).ends
  unknown f hf := (Runs.refused hf.ready_eq).ends
  only x m' tried hends hne := by
    cases hready : r.ready m with
    | ok project => exact passes_of_ready hready kind hbelongs
    | error f =>
      obtain ⟨-, -, htried⟩ := hends.unique (Runs.refused hready).ends
      exact absurd htried hne

end ToolRequest

/-! ## What an action starts -/

/-- The launchers do the same, but for starts that are not let pass. -/
structure Launcher.Agree (may : Machine → Launch → Prop) (launcher launcher' : Launcher) :
    Prop where
  start : ∀ m l, may m l → launcher.start m l = launcher'.start m l
  await : launcher.await = launcher'.await

/-- The action starts only what is let pass on the machine as it is then: what a launcher would do
for anything else makes no difference. -/
def Action.StartsOnly {α : Type} (may : Machine → Launch → Prop) (a : Action α) : Prop :=
  ∀ launcher launcher' s, launcher.Agree may launcher' → a launcher s = a launcher' s

namespace Action.StartsOnly

variable {α β : Type} {may : Machine → Launch → Prop} {a : Action α}

theorem pure (x : α) : StartsOnly may (pure x : Action α) := fun _ _ _ _ => rfl

theorem throw (f : Failure) : StartsOnly may (throw f : Action α) := fun _ _ _ _ => rfl

theorem get : StartsOnly may (get : Action State) := fun _ _ _ _ => rfl

theorem modify (f : State → State) : StartsOnly may (modify f : Action Unit) := fun _ _ _ _ => rfl

theorem machine : StartsOnly may Action.machine := fun _ _ _ _ => rfl

theorem setFiles (files : Files) : StartsOnly may (Action.setFiles files) := modify _

theorem log {level : LogLevel} {logger event : String} {fields : List (String × LogValue)} :
    StartsOnly may (Action.log level logger event fields) := modify _

theorem logMessage {level : LogLevel} {logger : String} {message : Text} :
    StartsOnly may (Action.logMessage level logger message) := modify _

theorem look (f : Machine → Except Failure α) : StartsOnly may (Action.look f) := by
  intro launcher launcher' s _
  rw [run_look, run_look]

theorem await (first : Nat) (others : List Nat) : StartsOnly may (Action.await first others) := by
  intro launcher launcher' s h
  unfold Action.await
  rw [h.await]

theorem mono {may' : Machine → Launch → Prop} (ha : StartsOnly may a)
    (h : ∀ m l, may m l → may' m l) : StartsOnly may' a :=
  fun launcher launcher' s hagree =>
    ha launcher launcher' s ⟨fun m l hl => hagree.start m l (h m l hl), hagree.await⟩

/-- What comes second starts only what it may, on the machine that the first step left. -/
theorem bind {f : α → Action β} (ha : StartsOnly may a) (hf : ∀ x, StartsOnly may (f x)) :
    StartsOnly may (a >>= f) := by
  intro launcher launcher' s h
  rw [run_bind, run_bind, ha launcher launcher' s h]
  rcases a launcher' s with ⟨e | x, s'⟩
  · rfl
  · exact hf x launcher launcher' s' h

/-- After a look, something is known of what was seen. -/
theorem look_bind {g : Machine → Except Failure α} {f : α → Action β}
    (hf : ∀ m x, g m = .ok x → StartsOnly may (f x)) : StartsOnly may (Action.look g >>= f) := by
  intro launcher launcher' s h
  rw [run_bind, run_bind, run_look, run_look]
  cases hx : g s.machine with
  | error e => rfl
  | ok x => exact hf s.machine x hx launcher launcher' s h

theorem map (f : α → β) (ha : StartsOnly may a) : StartsOnly may (f <$> a) := by
  intro launcher launcher' s h
  rw [run_map, run_map, ha launcher launcher' s h]

/-- Neither the attempt nor its handler starts more than it may. -/
theorem tryCatch {handle : Failure → Action α} (ha : StartsOnly may a)
    (hh : ∀ e, StartsOnly may (handle e)) : StartsOnly may (tryCatch a handle) := by
  intro launcher launcher' s h
  rw [run_tryCatch, run_tryCatch, ha launcher launcher' s h]
  rcases a launcher' s with ⟨e | x, s'⟩
  · exact hh e launcher launcher' s' h
  · rfl

/-- By induction over the list, one element after the other starts only what it may. -/
theorem mapM {f : β → Action α} (hf : ∀ x, StartsOnly may (f x)) (xs : List β) :
    StartsOnly may (xs.mapM f) := by
  induction xs with
  | nil => exact .pure _
  | cons x xs ih =>
    rw [List.mapM_cons]
    exact (hf x).bind fun _ => ih.bind fun _ => .pure _

theorem orElseDo {cleanUp : Action Unit} (ha : StartsOnly may a) (hc : StartsOnly may cleanUp) :
    StartsOnly may (Action.orElseDo a cleanUp) :=
  ha.tryCatch fun _ => hc.bind fun _ => .throw _

theorem andThenDo {cleanUp : Action Unit} (ha : StartsOnly may a) (hc : StartsOnly may cleanUp) :
    StartsOnly may (Action.andThenDo a cleanUp) :=
  (ha.orElseDo hc).bind fun _ => hc.bind fun _ => .pure _

theorem detectProject (path : Text) : StartsOnly may (detectProject path) := by
  refine (look _).bind fun found => ?_
  cases found.root <;> exact logMessage.bind fun _ => .pure _

theorem openScratch (kind : String) : StartsOnly may (openScratch kind) :=
  machine.bind fun _ => (setFiles _).bind fun _ => .pure _

theorem closeScratch (place : Place) : StartsOnly may (closeScratch place) :=
  machine.bind fun _ => setFiles _

/-- A body starts no more in a scratch folder than it may elsewhere. -/
theorem withScratch {kind : String} {body : Place → Action α}
    (hbody : ∀ place, StartsOnly may (body place)) : StartsOnly may (withScratch kind body) :=
  (openScratch kind).bind fun place => (hbody place).andThenDo (closeScratch place)

end Action.StartsOnly

/-! ## What running a tool starts -/

/-- A launch is what a request that the guard lets pass comes to. -/
def ToolRequest.May (r : ToolRequest) (m : Machine) (l : Launch) : Prop :=
  l = r.launch ∧ r.Passes m

/-- Starting a tool asks the launcher only if the guard lets the request pass. -/
theorem startsOnly_toolStart (r : ToolRequest) : StartsOnly r.May r.start := by
  intro launcher launcher' s h
  -- What comes before the guard starts nothing, so both launchers come to it in the same state.
  have henter : StartsOnly r.May r.enter :=
    (StartsOnly.look _).bind fun _ => (StartsOnly.detectProject _).bind fun _ =>
      (StartsOnly.look _).bind fun _ => .pure _
  obtain ⟨s₁, hrun, hmachine, -⟩ := @ToolRequest.ends_enter launcher s.machine r s rfl
  have hrun' := henter launcher launcher' s h
  rw [hrun] at hrun'
  unfold ToolRequest.start
  simp only [run_bind, hrun, ← hrun']
  cases hready : r.ready s.machine with
  | error f => rfl
  | ok project =>
    -- The guard looked at the machine on which the tool is started.
    have hstart := h.start s.machine r.launch ⟨rfl, ToolRequest.passes_of_ready hready⟩
    simp only [Action.log, run_modify, Action.start, hmachine, hstart]
    cases launcher'.start s.machine r.launch <;> rfl

/-- Running a tool starts it once at most, and only if the guard lets the request pass. -/
theorem startsOnly_runTool (r : ToolRequest) : StartsOnly r.May (runTool r) :=
  (startsOnly_toolStart r).bind fun _ => (StartsOnly.await _ _).bind fun _ =>
    StartsOnly.log.bind fun _ => .pure _

end JarLens
