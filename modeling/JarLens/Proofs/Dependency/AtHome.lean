import JarLens.Proofs.Dependency.Moves
import JarLens.Proofs.Dependency.SameBuild
import JarLens.Proofs.Project.Revisited
import JarLens.Proofs.Tool.Guard

/-!
# Builds at home

A scan looks for its project twice: when it is asked for, and when the build tool is started in the
root that was found. While the markers in that root are the same, both looks find the same project,
and the command that is started belongs to its kind, so that the guard lets it pass
(`ready_buildRequest`). So starting a build comes to no refusal, and to at most one tool, at home
(`ends_startBuild`). All else that a scan does is quiet: it starts nothing and refuses nothing
(`Action.IsQuiet`).
-/

namespace JarLens

open JarLens.Action

/-! ## Actions that start nothing -/

/-- A build command was refused for the kind of the project. -/
def Failure.IsMismatch : Failure → Prop
  | kindMismatch _ _ _ _ => True
  | _ => False

/-- The action starts no tool, and refuses no build command. -/
def Action.IsQuiet {α : Type} (a : Action α) : Prop :=
  ∀ launcher s, (a launcher s).2.launches = s.launches ∧
    ∀ f, (a launcher s).1 = .error f → ¬f.IsMismatch

namespace Action.IsQuiet

variable {α β : Type} {a : Action α}

theorem pure (x : α) : IsQuiet (pure x : Action α) := fun _ _ => ⟨rfl, fun _ h => by cases h⟩

/-- Any failure but a refusal of a build command may be thrown. -/
theorem throw {f : Failure} (hf : ¬f.IsMismatch) : IsQuiet (throw f : Action α) := by
  intro launcher s
  refine ⟨rfl, fun f' h => ?_⟩
  cases h
  exact hf

theorem modify {f : State → State} (h : ∀ s, (f s).launches = s.launches) :
    IsQuiet (modify f : Action Unit) := fun _ s => ⟨h s, fun _ h => by cases h⟩

theorem get : IsQuiet (get : Action State) := fun _ _ => ⟨rfl, fun _ h => by cases h⟩

theorem machine : IsQuiet Action.machine := fun _ _ => ⟨rfl, fun _ h => by cases h⟩

theorem log {level : LogLevel} {logger event : String} {fields : List (String × LogValue)} :
    IsQuiet (Action.log level logger event fields) := modify fun _ => rfl

theorem logMessage {level : LogLevel} {logger : String} {message : Text} :
    IsQuiet (Action.logMessage level logger message) := modify fun _ => rfl

theorem setFiles (files : Files) : IsQuiet (Action.setFiles files) := modify fun _ => rfl

theorem look {f : Machine → Except Failure α} (h : ∀ m e, f m = .error e → ¬e.IsMismatch) :
    IsQuiet (Action.look f) := by
  intro launcher s
  rw [run_look]
  exact ⟨rfl, h s.machine⟩

theorem lookPath (f : Machine → Except PathTrouble α) :
    IsQuiet (Action.look fun m => (f m).mapError Failure.badPath) := by
  refine look fun m e h => ?_
  cases hm : f m <;> rw [hm] at h <;> cases h
  exact id

theorem bind {f : α → Action β} (ha : IsQuiet a) (hf : ∀ x, IsQuiet (f x)) :
    IsQuiet (a >>= f) := by
  intro launcher s
  obtain ⟨hlaunches, hfails⟩ := ha launcher s
  rw [run_bind]
  rcases hrun : a launcher s with ⟨e | x, s'⟩ <;> rw [hrun] at hlaunches hfails
  · exact ⟨hlaunches, fun f h => hfails f (by cases h; rfl)⟩
  · obtain ⟨hlaunches', hfails'⟩ := hf x launcher s'
    exact ⟨hlaunches'.trans hlaunches, hfails'⟩

theorem map (f : α → β) (ha : IsQuiet a) : IsQuiet (f <$> a) := by
  intro launcher s
  obtain ⟨hlaunches, hfails⟩ := ha launcher s
  rw [run_map]
  rcases hrun : a launcher s with ⟨e | x, s'⟩ <;> rw [hrun] at hlaunches hfails
  · exact ⟨hlaunches, fun f h => hfails f (by cases h; rfl)⟩
  · exact ⟨hlaunches, fun f h => by cases h⟩

/-- The handler of a quiet attempt is never given a refusal, so it has to be quiet for other
failures only. -/
theorem tryCatch {handle : Failure → Action α} (ha : IsQuiet a)
    (hh : ∀ f, ¬f.IsMismatch → IsQuiet (handle f)) : IsQuiet (tryCatch a handle) := by
  intro launcher s
  obtain ⟨hlaunches, hfails⟩ := ha launcher s
  rw [run_tryCatch]
  rcases hrun : a launcher s with ⟨f | x, s'⟩ <;> rw [hrun] at hlaunches hfails
  · obtain ⟨hlaunches', hfails'⟩ := hh f (hfails f rfl) launcher s'
    exact ⟨hlaunches'.trans hlaunches, hfails'⟩
  · exact ⟨hlaunches, fun f h => by cases h⟩

theorem andThenDo {cleanUp : Action Unit} (ha : IsQuiet a) (hc : IsQuiet cleanUp) :
    IsQuiet (Action.andThenDo a cleanUp) :=
  (ha.tryCatch fun _ hf => hc.bind fun _ => throw hf).bind fun x => hc.bind fun _ => pure x

end Action.IsQuiet

/-- What a path leads to is a file that can be run as a program. -/
def Machine.CanRun (m : Machine) (path : Text) : Prop :=
  ∃ content mode, m.find path = .ok (.file content mode) ∧ isExecutable mode = true

namespace Dependency

theorem isQuiet_closeScratch (place : Place) : IsQuiet (closeScratch place) :=
  IsQuiet.machine.bind fun _ => .setFiles _

/-- Detection starts no tool, and its failures are no refusals. -/
theorem isQuiet_locateProject (path : Text) (options : ScanOptions) :
    IsQuiet (locateProject path options) := by
  have hdetect : ∀ t, IsQuiet (detectProject t) := fun t =>
    (IsQuiet.lookPath _).bind fun found => by
      cases found.root <;> exact IsQuiet.logMessage.bind fun _ => .pure _
  refine (IsQuiet.lookPath _).bind fun place => (hdetect _).bind fun found => ?_
  cases found.root with
  | none => exact .throw id
  | some root => exact .pure _

/-- An answer from the cache starts nothing. -/
theorem isQuiet_answerOr {α : Type} {r : ScanRequest} {found : ScanResult → α} {missed : Action α}
    (h : IsQuiet missed) : IsQuiet (answerOr r found missed) := by
  refine IsQuiet.get.bind fun s => ?_
  split
  · exact (IsQuiet.log.bind fun _ => .pure _).map found
  · exact h

theorem isQuiet_claimLock (r : ScanRequest) : IsQuiet (claimLock r) := .modify fun _ => rfl

theorem isQuiet_storeResult (r : ScanRequest) (built : ScanResult) :
    IsQuiet (storeResult r built) := by
  refine IsQuiet.bind (.modify fun _ => rfl) fun _ => ?_
  exact IsQuiet.log.bind fun _ => .pure _

/-- A build that failed is told as such, which is no refusal of its command. -/
theorem isQuiet_collect (b : Build) (o : Outcome) : IsQuiet (b.collect o) := by
  have hcheck : ∀ label, IsQuiet (checkExit label o) := by
    intro label
    unfold checkExit
    split
    · exact .pure ()
    · exact IsQuiet.log.bind fun _ => .throw id
  have hread : ∀ path, IsQuiet (readListing path) := by
    refine fun path => .look fun m e h => ?_
    split at h <;> cases h
    exact id
  unfold Build.collect
  cases b.request.kind with
  | maven => exact (hcheck _).bind fun _ => (hread _).bind fun _ => .pure _
  | gradle | native => exact (hcheck _).bind fun _ => .pure _

theorem isQuiet_finish (b : Build) (finished : Finished) : IsQuiet (b.finish finished) :=
  ((IsQuiet.log.bind fun _ => .pure _).bind (isQuiet_collect b)).andThenDo (isQuiet_closeScratch _)

/-! ## The tool of a build -/

/-- Where the wrapper lies in a project, if it has one. -/
def wrapperIn (folder : Place) : Text :=
  (folder ++ ["gradlew".toList]).toText

/-- The command that builds the project in a folder, by the kind of the project. -/
inductive BuildsWith (m : Machine) (folder : Place) : ProjectKind → Text → Prop
  | maven : BuildsWith m folder .maven "mvn".toList
  | wrapper (h : m.CanRun (wrapperIn folder)) : BuildsWith m folder .gradle (wrapperIn folder)
  | gradle (h : ¬m.CanRun (wrapperIn folder)) : BuildsWith m folder .gradle "gradle".toList

section Commands

variable {files : Files} {m : Machine} {folder : Place} {command : Text} {kind : ProjectKind}

/-- The wrapper's path is that of a file in the root. -/
theorem wrapperIn_eq (h : files.IsReal folder) :
    (PathName.ofText folder.toText ++ PathName.ofText "gradlew".toList).toText =
      wrapperIn folder := by
  rw [PathName.ofText_toText_of_isReal h]
  rfl

/-- Gradle is run by the root's own wrapper if that is an executable file, else by name. -/
theorem buildsWith_of_gradleCommand (hreal : files.IsReal folder)
    (h : gradleCommand m folder.toText = .ok command) : BuildsWith m folder .gradle command := by
  unfold gradleCommand at h
  simp only [wrapperIn_eq hreal] at h
  split at h
  · next content mode hfind =>
    split at h
    · next hrun =>
      cases h
      exact .wrapper ⟨content, mode, hfind, hrun⟩
    · next hrun =>
      cases h
      refine .gradle ?_
      rintro ⟨content', mode', hfind', hrun'⟩
      rw [hfind] at hfind'
      cases hfind'
      exact hrun hrun'
  · cases h
  · cases h
  · next hfile _ _ =>
    cases h
    refine .gradle ?_
    rintro ⟨content, mode, hfind, -⟩
    exact hfile content mode hfind

/-- The command that a build is run with belongs to the project's kind, so that the guard asks for
this kind. -/
theorem BuildsWith.required?_eq (h : BuildsWith m folder kind command)
    (hreal : files.IsReal folder) : ProjectKind.required? command = some kind := by
  cases h with
  | maven => decide +kernel
  | gradle => decide +kernel
  | wrapper =>
    have hnames : ∀ name ∈ folder ++ ["gradlew".toList], IsPlaceName name := by
      intro name hname
      rcases List.mem_append.1 hname with hmem | hmem
      · exact hreal.isPlaceName name hmem
      · have hown : ("gradlew".toList ≠ [] ∧ "gradlew".toList ≠ ['.'] ∧
            "gradlew".toList ≠ ['.', '.']) ∧ '/' ∉ "gradlew".toList := by
          decide
        exact List.mem_singleton.1 hmem ▸ ⟨⟨hown.1.1, hown.1.2.1, hown.1.2.2⟩, hown.2⟩
    have hname : (PathName.ofText (wrapperIn folder)).name? = some "gradlew".toList := by
      rw [wrapperIn, PathName.ofText_toText (by simp) hnames]
      exact List.getLast?_concat
    rw [ProjectKind.required?, hname]
    decide +kernel

end Commands

/-! ## A build is started at home -/

/-- The machine with the listing script at a path, if it can be written there. -/
def withScript (m : Machine) (path : Text) (options : ScanOptions) : Machine :=
  match m.files.write [] path
      (Text.encodeUtf8 (initScript options.configurations options.excludeTransitive)) with
  | .ok files => m.withFiles files
  | .error _ => m

namespace ScanRequest

/-- The request is what comes of asking about a path on a machine. -/
def IsLocated (r : ScanRequest) (m : Machine) (path : Text) : Prop :=
  ∃ place found, m.place path = .ok place ∧ m.detect place.toText = .ok found ∧
    found.root = some r.root ∧ found.kind = r.kind

/-- The machine that a build's tool is started on: with a scratch folder, and with the script in it
if the tool reads one. -/
def workplace (r : ScanRequest) (m : Machine) : Machine :=
  let opened := m.withScratch r.scratchKind.toList
  match r.kind with
  | .maven => opened
  | _ => withScript opened (m.freshScratch r.scratchKind.toList ++ [scriptName]).toText r.options

/-- What is started is the project's own build tool, in the root of the project. -/
def IsHomeLaunch (r : ScanRequest) (m : Machine) (l : Launch) : Prop :=
  l.folder = some r.root ∧ ∃ folder : Place, m.files.IsReal folder ∧ r.root = folder.toText ∧
    BuildsWith m folder r.kind l.command

/-- No build command is refused, and at most one tool is started, at home. -/
structure StaysHome {α : Type} (r : ScanRequest) (m : Machine) (x : Except Failure α)
    (tried : List Launch) : Prop where
  no_mismatch : ∀ f, x = .error f → ¬f.IsMismatch
  home : tried = [] ∨ ∃ l, tried = [l] ∧ r.IsHomeLaunch m l

end ScanRequest

section Starting

variable {r : ScanRequest} {m₀ m w : Machine} {path command : Text} {folder : Place}
  {launcher : Launcher}

/-- A located request has the root and the kind that detection found for its path. -/
theorem isLocated_of_locateProject {options : ScanOptions} {s s' : State}
    (h : locateProject path options launcher s = (.ok r, s')) : r.IsLocated s.machine path := by
  obtain ⟨place, found, -, hplace, hdetect, hroot, hkind, -⟩ := exists_of_locateProject h
  exact ⟨place, found, hplace, hdetect, hroot, hkind⟩

/-- The kind of a project is one that has markers. -/
theorem ScanRequest.IsLocated.kind_ne (h : r.IsLocated m₀ path) : r.kind ≠ .native := by
  obtain ⟨place, found, -, hdetect, hroot, hkind⟩ := h
  intro hnative
  rw [← hkind, ← root_eq_none_iff hdetect, hroot] at hnative
  cases hnative

/-- The guard lets the build command pass where the project was found. -/
theorem ready_buildRequest (hlocated : r.IsLocated m₀ path)
    (hsame : m₀.files.SameMarkers w.files r.root) (hreal : w.files.IsReal folder)
    (hcommand : BuildsWith w folder r.kind command) (arguments : List Text) :
    (∃ project, (buildRequest r.root command arguments).ready w = .ok project) ∨
      (buildRequest r.root command arguments).ready w = .error (.badPath .nul) := by
  obtain ⟨place, found, -, hdetect, hroot, hkind⟩ := hlocated
  have hne : r.root ≠ [] := by
    obtain ⟨folder, hfolder, -⟩ := hsame
    rw [hfolder]
    exact List.cons_ne_nil _ _
  have hpath : (buildRequest r.root command arguments).MeantFor w r.root := .project rfl hne
  rcases detect_root hdetect hroot hsame with hagain | hnul
  · left
    refine ⟨found, ToolRequest.ready_eq_ok_iff.2 ⟨r.root, hpath, hagain, fun kind hbelongs => ?_⟩⟩
    have heq := (hcommand.required?_eq hreal).symm.trans (required?_eq_some_iff.2 hbelongs)
    rw [hkind, Option.some.inj heq]
  · right
    exact (ToolRequest.HasNoProject.noDetection hpath hnul).ready_eq

/-- A hint neither makes a refusal nor hides one. -/
theorem hinted_isMismatch (tool hint : Text) (f : Failure) :
    (hinted tool hint f).IsMismatch ↔ f.IsMismatch := by
  cases f <;> exact Iff.rfl

/-- While the markers in the root are the same, the guard lets the build tool pass, and all that is
tried is to start it in the root. -/
theorem ends_startTool (hlocated : r.IsLocated m₀ path)
    (hsame : m₀.files.SameMarkers w.files r.root) (hroot : r.root = folder.toText)
    (hreal : w.files.IsReal folder) (hcommand : BuildsWith w folder r.kind command)
    (hint : Text) (arguments : List Text) :
    ∃ x m' tried, Ends launcher w (startTool r.root command hint arguments) x m' tried ∧
      r.StaysHome w x tried := by
  rw [startTool_eq]
  have hhome : r.IsHomeLaunch w (buildRequest r.root command arguments).launch :=
    ⟨rfl, folder, hreal, hroot, hcommand⟩
  obtain ⟨x, m', tried, hstarts⟩ :=
    ToolRequest.Starts.total launcher w (buildRequest r.root command arguments)
  have hends := hstarts.ends
  cases hstarts with
  | refused h =>
    -- The guard finds the project again, so what it refuses can only be a path with a NUL in it.
    refine ⟨_, _, _, hends.tryCatch_error (.throw _), ⟨fun f hf => ?_, .inl rfl⟩⟩
    cases hf
    rw [hinted_isMismatch]
    rcases ready_buildRequest hlocated hsame hreal hcommand arguments with ⟨project, hok⟩ | hnul
    · rw [hok] at h
      cases h
    · rw [hnul] at h
      cases h
      exact id
  | @notStarted project fault h hstart =>
    refine ⟨_, _, _, hends.tryCatch_error (.throw _), ⟨fun f hf => ?_, .inr ⟨_, rfl, hhome⟩⟩⟩
    cases hf
    rw [hinted_isMismatch]
    cases fault <;> exact id
  | started h hstart =>
    exact ⟨_, _, _, hends.tryCatch_ok, ⟨fun f hf => (by cases hf), .inr ⟨_, rfl, hhome⟩⟩⟩

/-- The listing script is written, or the path is told that it could not be written at. -/
theorem ends_writeScript (launcher : Launcher) (m : Machine) (path : Text) (options : ScanOptions) :
    Ends launcher m (writeScript path options) (.ok ()) (withScript m path options) [] ∨
      ∃ trouble, Ends launcher m (writeScript path options) (.error (.badPath trouble)) m [] := by
  unfold writeScript withScript
  cases hwrite : m.files.write [] path
      (Text.encodeUtf8 (initScript options.configurations options.excludeTransitive)) with
  | ok files =>
    left
    refine Ends.machine.after ?_
    rw [hwrite]
    exact .setFiles files
  | error fault =>
    right
    refine ⟨troubleOf path fault, Ends.machine.after ?_⟩
    rw [hwrite]
    exact .throw _

theorem ScanRequest.StaysHome.badPath {α : Type} (trouble : PathTrouble) :
    r.StaysHome w (.error (.badPath trouble) : Except Failure α) [] :=
  ⟨fun f hf => (by cases hf; exact id), .inl rfl⟩

/-- Whatever the kind of the project, its tool is the only one that is tried, in the root. -/
theorem ends_startIn (hlocated : r.IsLocated m₀ path)
    (hsame : m₀.files.SameMarkers (r.workplace m).files r.root) :
    ∃ x m' tried, Ends launcher (m.withScratch r.scratchKind.toList)
      (startIn r (m.freshScratch r.scratchKind.toList)) x m' tried ∧
      r.StaysHome (r.workplace m) x tried := by
  obtain ⟨folder, hroot, hreal, hmarkers⟩ := id hsame
  unfold startIn
  cases hkind : r.kind with
  | native => exact absurd hkind hlocated.kind_ne
  | maven =>
    have hwork : m.withScratch r.scratchKind.toList = r.workplace m := by
      unfold ScanRequest.workplace
      rw [hkind]
    rw [hwork]
    exact ends_startTool hlocated hsame hroot hreal (hkind ▸ .maven) _ _
  | gradle =>
    have hwork : withScript (m.withScratch r.scratchKind.toList)
        (m.freshScratch r.scratchKind.toList ++ [scriptName]).toText r.options = r.workplace m := by
      unfold ScanRequest.workplace
      rw [hkind]
    rcases ends_writeScript launcher (m.withScratch r.scratchKind.toList)
        (m.freshScratch r.scratchKind.toList ++ [scriptName]).toText r.options with
      hwritten | ⟨trouble, hfails⟩
    · rw [hwork] at hwritten
      have hlook : Ends launcher (r.workplace m)
          (Action.look fun m => (gradleCommand m r.root).mapError Failure.badPath)
          ((gradleCommand (r.workplace m) r.root).mapError Failure.badPath) (r.workplace m) [] :=
        .look rfl
      cases hcommand : gradleCommand (r.workplace m) r.root with
      | error trouble =>
        rw [hcommand] at hlook
        exact ⟨_, _, _, hwritten.after hlook.bind_error, .badPath trouble⟩
      | ok command =>
        rw [hcommand] at hlook
        have hbuilds : BuildsWith (r.workplace m) folder r.kind command := by
          rw [hroot] at hcommand
          exact hkind ▸ buildsWith_of_gradleCommand hreal hcommand
        obtain ⟨x, m', tried, hends, hstays⟩ := @ends_startTool r m₀ _ path command folder launcher
          hlocated hsame hroot hreal hbuilds _ _
        exact ⟨x, m', tried, hwritten.after (hlook.after hends), hstays⟩
    · exact ⟨_, _, _, hfails.bind_error, .badPath trouble⟩

/-- Starting a build tries at most one tool, at home, and refuses no command. -/
theorem ends_startBuild (hlocated : r.IsLocated m₀ path)
    (hsame : m₀.files.SameMarkers (r.workplace m).files r.root) :
    ∃ x m' tried, Ends launcher m (startBuild r) x m' tried ∧
      r.StaysHome (r.workplace m) x tried := by
  obtain ⟨x, m₁, tried, hends, hstays⟩ := @ends_startIn r m₀ m path launcher hlocated hsame
  unfold startBuild
  rw [start_eq]
  cases x with
  | error f =>
    have hcleared : Ends launcher (m.withScratch r.scratchKind.toList)
        (orElseDo (startIn r (m.freshScratch r.scratchKind.toList))
          (closeScratch (m.freshScratch r.scratchKind.toList))) (.error f) _ tried :=
      hends.tryCatch_error (ends_closeScratch.after (.throw f))
    exact ⟨_, _, _, Ends.log.after (ends_openScratch.after hcleared.bind_error),
      ⟨fun f' hf => hstays.no_mismatch f' (by cases hf; rfl), hstays.home⟩⟩
  | ok tool =>
    exact ⟨_, _, _, Ends.log.after (ends_openScratch.after (hends.tryCatch_ok.before (.pure _))),
      ⟨fun f hf => (by cases hf), hstays.home⟩⟩

end Starting

end Dependency

end JarLens
