import JarLens.Dependency.Crowd
import JarLens.Proofs.Dependency.Frame
import JarLens.Proofs.Dependency.Lookup
import Mathlib.Logic.Relation

/-!
# Scans at the same time, move by move

`Crowd.Move` is every way in which some scans and the world around them can go on by one step, in
any order and under any launcher; scans can be asked for at any moment. A scan is known by its
position. What one scan can do is said once, by `Stage.Goes`, which reads nothing of the state but
the cache. `Crowd.Move.cases` is the inversion that the invariants rest on, and `runs_runAll` says
that the scheduler of this library makes only such moves.
-/

namespace JarLens.Dependency

open JarLens.Action

/-! ## What one scan can do -/

namespace Stage

/-- The request of a scan between its second look at the cache and the storing of its result. -/
def resolving? : Stage → Option ScanRequest
  | clear r _ | built r _ _ => some r
  | building b _ => some b.request
  | _ => none

/-- One step of a scan on a machine, by what it does to the cache. `free` are the locks that no
other scan has. -/
inductive Goes (m : Machine) (free : Nat → Prop) : Cache → Stage → Cache → Stage → Prop
  | locate {c path options r} (h : r.IsFor m path options) :
      Goes m free c (asked path options) c (located r)
  | noProject {c path options f} : Goes m free c (asked path options) c (done none (.error f))
  | miss {c r lock} (h : c.get? r.key = none) (hlock : (c.withLock r.key).lock? r.key = some lock) :
      Goes m free c (located r) (c.withLock r.key) (missed r lock)
  | hit {c r stored} (h : c.get? r.key = some stored) :
      Goes m free c (located r) c (answered r (r.answer stored))
  | acquire {c r lock} (h : free lock) : Goes m free c (missed r lock) c (holding r lock)
  | clear {c r lock} (h : c.get? r.key = none) :
      Goes m free c (holding r lock) c (clear r lock)
  | hitLater {c r lock stored} (h : c.get? r.key = some stored) :
      Goes m free c (holding r lock) c (answered r (r.answer stored))
  | start {c r lock b} (h : b.request = r) : Goes m free c (clear r lock) c (building b lock)
  | finish {c b lock result} (h : b.request.Builds result) :
      Goes m free c (building b lock) c (built b.request lock result)
  | fail {c stage r f} (h : stage.resolving? = some r) :
      Goes m free c stage c (done (some r) (.error f))
  | store {c r lock result} :
      Goes m free c (built r lock result) (c.put r.key result)
        (answered r (r.freshAnswer result))
  | stay {c stage} : Goes m free c stage c stage

/-- A scan that can go on can also do so where more locks are free. -/
theorem Goes.mono {m : Machine} {P Q : Nat → Prop} (hPQ : ∀ lock, P lock → Q lock)
    {c c' : Cache} {stage stage' : Stage} (h : Goes m P c stage c' stage') :
    Goes m Q c stage c' stage' := by
  cases h with
  | acquire h => exact .acquire (hPQ _ h)
  | _ => constructor <;> assumption

section AnswerOr

variable {α : Type} {r : ScanRequest} {found : ScanResult → α} {missed : Action α}
  {launcher : Launcher} {s : State}

theorem run_answerOr_of_some {stored : ScanResult} (h : s.cache.get? r.key = some stored) :
    answerOr r found missed launcher s =
      (.ok (found (r.answer stored)), (logScan "scanner.cache_hit" r [] launcher s).2) := by
  unfold answerOr
  simp only [run_bind, run_get, h]
  rfl

theorem run_answerOr_of_none (h : s.cache.get? r.key = none) :
    answerOr r found missed launcher s = missed launcher s := by
  unfold answerOr
  simp only [run_bind, run_get, h]

end AnswerOr

/-- Where a result is stored it is the answer, and the cache stays; else the other action is done.
-/
theorem run_answerOr {α : Type} (r : ScanRequest) (found : ScanResult → α) (missed : Action α)
    (launcher : Launcher) (s : State) :
    (∃ stored s', s.cache.get? r.key = some stored ∧ s'.cache = s.cache ∧
      answerOr r found missed launcher s = (.ok (found (r.answer stored)), s')) ∨
    (s.cache.get? r.key = none ∧ answerOr r found missed launcher s = missed launcher s) := by
  cases hget : s.cache.get? r.key with
  | none => exact .inr ⟨rfl, run_answerOr_of_none hget⟩
  | some stored => exact .inl ⟨stored, (logScan "scanner.cache_hit" r [] launcher s).2, rfl, rfl,
      run_answerOr_of_some hget⟩

/-- A failure is no failure of the step but the answer of the scan. -/
theorem run_orDone (r : Option ScanRequest) (body : Action Stage) (launcher : Launcher)
    (s : State) :
    orDone r body launcher s =
      match body launcher s with
      | (.ok stage, s') => (.ok stage, s')
      | (.error f, s') => (.ok (done r (.error f)), s') := by
  unfold orDone
  rw [run_tryCatch]
  rcases body launcher s with ⟨_ | _, _⟩ <;> rfl

/-- A step that a scan makes by itself gives a next stage, whatever happens. -/
theorem goes_step (isFree : Nat → Bool) (stage : Stage) (launcher : Launcher) (s : State) :
    ∃ stage' s', stage.step isFree launcher s = (.ok stage', s') ∧
      Goes s.machine (isFree · = true) s.cache stage s'.cache stage' := by
  cases stage with
  | asked path options =>
    have hcache := (keeps_locateProject : Keeps State.cache (locateProject path options)) launcher s
    have hfor := @isFor_of_locateProject path options launcher s
    simp only [step, run_orDone, run_map]
    rcases hrun : locateProject path options launcher s with ⟨f | r, s'⟩ <;>
      simp only [hrun] at hcache hfor ⊢
    · exact ⟨_, _, rfl, by rw [hcache]; exact .noProject⟩
    · exact ⟨_, _, rfl, by rw [hcache]; exact .locate (hfor rfl)⟩
  | located r =>
    simp only [step]
    rcases run_answerOr r (answered r) (missed r <$> lockFor r) launcher s with
      ⟨stored, s', hget, hcache, hrun⟩ | ⟨hget, hrun⟩
    · exact ⟨_, _, hrun, by rw [hcache]; exact .hit hget⟩
    · exact ⟨_, _, hrun, .miss hget (Cache.lock?_withLock ..)⟩
  | missed r lock =>
    simp only [step, run_pure]
    split
    · next hfree => exact ⟨_, _, rfl, .acquire hfree⟩
    · exact ⟨_, _, rfl, .stay⟩
  | holding r lock =>
    simp only [step]
    rcases run_answerOr r (answered r) (pure (Stage.clear r lock)) launcher s with
      ⟨stored, s', hget, hcache, hrun⟩ | ⟨hget, hrun⟩
    · exact ⟨_, _, hrun, by rw [hcache]; exact .hitLater hget⟩
    · exact ⟨_, _, hrun, .clear hget⟩
  | clear r lock =>
    have hcache := @keepsCache_startBuild r launcher s
    have hrequest := request_of_startBuild r launcher s
    simp only [step, run_orDone, run_map]
    rcases hrun : startBuild r launcher s with ⟨f | b, s'⟩ <;>
      simp only [hrun] at hcache hrequest ⊢
    · exact ⟨_, _, rfl, by rw [hcache]; exact .fail rfl⟩
    · exact ⟨_, _, rfl, by rw [hcache]; exact .start (hrequest b rfl)⟩
  | built r lock result => exact ⟨_, _, rfl, .store⟩
  | building b lock => exact ⟨_, _, rfl, .stay⟩
  | done r answer => exact ⟨_, _, rfl, .stay⟩

/-- A scan whose build is finished goes on to a next stage, whatever happens. -/
theorem goes_conclude (free : Nat → Prop) (finished : Finished) (stage : Stage)
    (launcher : Launcher) (s : State) :
    ∃ stage' s', stage.conclude finished launcher s = (.ok stage', s') ∧
      Goes s.machine free s.cache stage s'.cache stage' := by
  cases stage with
  | building b lock =>
    have hcache := @keepsCache_finish b finished launcher s
    have hbuilds := builds_of_finish b finished launcher s
    simp only [conclude, run_orDone, run_map]
    rcases hrun : b.finish finished launcher s with ⟨f | result, s'⟩ <;>
      simp only [hrun] at hcache hbuilds ⊢
    · exact ⟨_, _, rfl, by rw [hcache]; exact .fail rfl⟩
    · exact ⟨_, _, rfl, by rw [hcache]; exact .finish (hbuilds result rfl)⟩
  | _ => exact ⟨_, _, rfl, .stay⟩

end Stage

/-! ## What a crowd of scans can do -/

/-- Scans that go on at the same time, and what they work on. A scan is known by its position. -/
structure Crowd where
  state : State
  stages : List Stage

namespace Crowd

/-- The result that is stored for a key. -/
def stored? (c : Crowd) (key : CacheKey) : Option ScanResult :=
  c.state.cache.get? key

/-- One step of a scan or of the world around. -/
inductive Move : Crowd → Crowd → Prop
  /-- Another scan is asked for. -/
  | ask {s stages} (path options) : Move ⟨s, stages⟩ ⟨s, stages ++ [.asked path options]⟩
  /-- Something else goes on, which has nothing to do with the cache. -/
  | world {s s' stages} (h : s'.cache = s.cache) : Move ⟨s, stages⟩ ⟨s', stages⟩
  /-- A scan makes a step by itself, under any launcher. -/
  | step {before stage after s stage' s'} (launcher : Launcher)
      (h : stage.step (isFreeOf (before ++ after)) launcher s = (.ok stage', s')) :
      Move ⟨s, before ++ stage :: after⟩ ⟨s', before ++ stage' :: after⟩
  /-- The tool of a build ends in any way. -/
  | conclude {launcher finished before stage after s stage' s'}
      (h : stage.conclude finished launcher s = (.ok stage', s')) :
      Move ⟨s, before ++ stage :: after⟩ ⟨s', before ++ stage' :: after⟩
  /-- A build breaks off for a cause that no launcher tells. -/
  | breakOff {before stage after s s' r} (f : Failure) (h : stage.resolving? = some r)
      (hs : s'.cache = s.cache) :
      Move ⟨s, before ++ stage :: after⟩ ⟨s', before ++ .done (some r) (.error f) :: after⟩

/-- Any number of moves. -/
def Runs : Crowd → Crowd → Prop :=
  Relation.ReflTransGen Move

/-- What comes of an empty cache, by any moves. -/
def Reachable (c : Crowd) : Prop :=
  ∃ s, s.cache = {} ∧ Runs ⟨s, []⟩ c

/-- No scan but the one at `i` has a lock. -/
def FreeFor (c : Crowd) (i : Nat) (lock : Nat) : Prop :=
  ∀ j stage, c.stages[j]? = some stage → stage.holds lock = true → j = i

theorem isFreeOf_iff {stages : List Stage} {lock : Nat} :
    isFreeOf stages lock = true ↔ ∀ stage ∈ stages, stage.holds lock = false := by
  simp [isFreeOf]

/-- A lock that none of the other scans has is free for this one. -/
theorem freeFor_of_isFreeOf {s : State} {before after : List Stage} {stage : Stage} {lock : Nat}
    (h : isFreeOf (before ++ after) lock = true) :
    FreeFor ⟨s, before ++ stage :: after⟩ before.length lock := by
  intro j other hj hholds
  have hothers : other ∉ before ++ after := by
    intro hmem
    rw [isFreeOf_iff.1 h other hmem] at hholds
    cases hholds
  rcases Nat.lt_trichotomy j before.length with hlt | heq | hgt
  · rw [List.getElem?_append_left hlt] at hj
    exact absurd (List.mem_append_left _ (List.mem_of_getElem? hj)) hothers
  · exact heq
  · obtain ⟨k, rfl⟩ : ∃ k, j = before.length + (k + 1) := ⟨j - before.length - 1, by omega⟩
    rw [List.getElem?_append_right (Nat.le_add_right ..), Nat.add_sub_cancel_left,
      List.getElem?_cons_succ] at hj
    exact absurd (List.mem_append_right _ (List.mem_of_getElem? hj)) hothers

/-- Every move but those of one scan leaves the cache alone and only adds scans. -/
theorem Move.cases {c c' : Crowd} (h : Move c c') :
    (∃ more, (∀ stage ∈ more, ∃ path options, stage = .asked path options) ∧
      c'.stages = c.stages ++ more ∧ c'.state.cache = c.state.cache) ∨
    ∃ i stage stage', c.stages[i]? = some stage ∧ c'.stages = c.stages.set i stage' ∧
      Stage.Goes c.state.machine (c.FreeFor i) c.state.cache stage c'.state.cache stage' := by
  cases h with
  | ask path options => exact .inl ⟨[_], by simp, rfl, rfl⟩
  | world h => exact .inl ⟨[], by simp, by simp, h⟩
  | @step before stage after s stage' s' launcher h =>
    refine .inr ⟨before.length, stage, stage', by simp, by simp, ?_⟩
    obtain ⟨stage₂, s₂, hrun, hgoes⟩ :=
      Stage.goes_step (isFreeOf (before ++ after)) stage launcher s
    rw [h] at hrun
    cases hrun
    exact hgoes.mono fun lock hfree => freeFor_of_isFreeOf hfree
  | @conclude launcher finished before stage after s stage' s' h =>
    refine .inr ⟨before.length, stage, stage', by simp, by simp, ?_⟩
    obtain ⟨stage₂, s₂, hrun, hgoes⟩ := Stage.goes_conclude _ finished stage launcher s
    rw [h] at hrun
    cases hrun
    exact hgoes
  | @breakOff before stage after s s' r f h hs =>
    refine .inr ⟨before.length, stage, .done (some r) (.error f), by simp, by simp, ?_⟩
    show Stage.Goes _ _ s.cache _ s'.cache _
    rw [hs]
    exact .fail h

/-! ## The scheduler makes no other moves -/

section Scheduler

variable (launcher : Launcher) (s : State)

/-- Advancing a scan is one move, or two where it is clear to build. -/
theorem runs_advance (before after : List Stage) (stage : Stage) :
    ∃ stage' s', stage.advance (isFreeOf (before ++ after)) launcher s = (.ok stage', s') ∧
      Runs ⟨s, before ++ stage :: after⟩ ⟨s', before ++ stage' :: after⟩ := by
  obtain ⟨stage₁, s₁, hrun, -⟩ :=
    Stage.goes_step (isFreeOf (before ++ after)) stage launcher s
  have hmove := Relation.ReflTransGen.single (Move.step launcher hrun)
  unfold Stage.advance
  simp only [run_bind, hrun]
  split
  · next r lock =>
    obtain ⟨stage₂, s₂, hrun₂, -⟩ :=
      Stage.goes_step (isFreeOf (before ++ after)) (.clear r lock) launcher s₁
    exact ⟨stage₂, s₂, hrun₂, hmove.tail (.step launcher hrun₂)⟩
  · exact ⟨stage₁, s₁, rfl, hmove⟩

/-- By induction over the scans that have not made their step, a round is a run. -/
theorem runs_stepAll (before after : List Stage) :
    ∃ stages s', stepAll before after launcher s = (.ok stages, s') ∧
      Runs ⟨s, before ++ after⟩ ⟨s', stages⟩ := by
  induction after generalizing before s with
  | nil => exact ⟨before, s, rfl, by rw [List.append_nil]; exact .refl⟩
  | cons stage after ih =>
    obtain ⟨stage', s₁, hrun, hmoves⟩ := runs_advance launcher s before after stage
    obtain ⟨stages, s₂, hrest, hmoves₂⟩ := ih s₁ (before ++ [stage'])
    simp only [List.append_assoc, List.singleton_append] at hmoves₂
    refine ⟨stages, s₂, ?_, hmoves.trans hmoves₂⟩
    simp only [stepAll, run_bind, hrun, hrest]

/-- Settling a scan is no move, or the end of its tool and the storing of its result. -/
theorem runs_settle (before after : List Stage) (stage : Stage) (number : Nat)
    (finished : Finished) :
    ∃ stage' s', stage.settle number finished launcher s = (.ok stage', s') ∧
      Runs ⟨s, before ++ stage :: after⟩ ⟨s', before ++ stage' :: after⟩ := by
  unfold Stage.settle
  split
  · obtain ⟨stage₁, s₁, hrun, -⟩ :=
      Stage.goes_conclude (fun _ => True) finished stage launcher s
    have hmove : Runs ⟨s, before ++ stage :: after⟩ ⟨s₁, before ++ stage₁ :: after⟩ :=
      .single (.conclude hrun)
    simp only [run_bind, hrun]
    split
    · next r lock result =>
      -- Storing does not ask for a lock, so that any answer about free locks will do.
      have hstore : Move ⟨s₁, before ++ .built r lock result :: after⟩
          ⟨((Stage.built r lock result).step (fun _ => false) launcher s₁).2,
            before ++ .answered r (r.freshAnswer result) :: after⟩ :=
        .step launcher rfl
      exact ⟨_, _, rfl, hmove.tail hstore⟩
    · exact ⟨stage₁, s₁, rfl, hmove⟩
  · exact ⟨stage, s, rfl, .refl⟩

theorem runs_settleAll (before after : List Stage) (number : Nat) (finished : Finished) :
    ∃ stages s', (after.mapM (·.settle number finished) : Action (List Stage)) launcher s =
        (.ok stages, s') ∧
      Runs ⟨s, before ++ after⟩ ⟨s', before ++ stages⟩ := by
  induction after generalizing before s with
  | nil => exact ⟨[], s, rfl, .refl⟩
  | cons stage after ih =>
    obtain ⟨stage', s₁, hrun, hmoves⟩ :=
      runs_settle launcher s before after stage number finished
    obtain ⟨stages, s₂, hrest, hmoves₂⟩ := ih s₁ (before ++ [stage'])
    simp only [List.append_assoc, List.singleton_append] at hmoves₂
    refine ⟨stage' :: stages, s₂, ?_, hmoves.trans hmoves₂⟩
    simp only [List.mapM_cons, run_bind, hrun, hrest, run_pure]

/-- The scheduler always ends, and what it did is a run of the crowd. -/
theorem runs_runAll (rounds : Nat) (stages : List Stage) :
    ∃ stages' s', runAll rounds stages launcher s = (.ok stages', s') ∧
      Runs ⟨s, stages⟩ ⟨s', stages'⟩ := by
  induction rounds generalizing stages s with
  | zero => exact ⟨stages, s, rfl, .refl⟩
  | succ rounds ih =>
    unfold runAll
    split
    · obtain ⟨stages₁, s₁, hrun, hmoves⟩ := runs_stepAll launcher s [] stages
      obtain ⟨stages₂, s₂, hrest, hmoves₂⟩ := ih s₁ stages₁
      exact ⟨stages₂, s₂, by simp only [run_bind, hrun, hrest], hmoves.trans hmoves₂⟩
    · cases stages.filterMap (·.tool?) with
      | nil => exact ⟨stages, s, rfl, .refl⟩
      | cons first others =>
        rcases hwait : Action.await first others launcher s with ⟨waited, s₁⟩
        have hcache : s₁.cache = s.cache := by
          rw [show s₁ = (Action.await first others launcher s).2 by rw [hwait]]
          rfl
        obtain ⟨number, finished, rfl⟩ : ∃ number finished, waited = .ok (number, finished) := by
          cases hwait
          exact ⟨_, _, rfl⟩
        obtain ⟨stages₁, s₂, hrun, hmoves⟩ :=
          runs_settleAll launcher s₁ [] stages number finished
        obtain ⟨stages₂, s₃, hrest, hmoves₂⟩ := ih s₂ stages₁
        refine ⟨stages₂, s₃, ?_, .head (.world hcache) (hmoves.trans hmoves₂)⟩
        simp only [run_bind, hwait, hrun, hrest]

theorem runs_ask (asked : List (Text × ScanOptions)) (stages : List Stage) :
    Runs ⟨s, stages⟩ ⟨s, stages ++ asked.map fun (path, options) => .asked path options⟩ := by
  induction asked generalizing stages with
  | nil =>
    rw [List.map_nil, List.append_nil]
    exact .refl
  | cons first asked ih =>
    have hrest := ih (stages ++ [.asked first.1 first.2])
    rw [List.append_assoc, List.singleton_append] at hrest
    exact .head (.ask first.1 first.2) hrest

/-- What the scheduler leaves of scans that are asked for at once. -/
def scheduled (rounds : Nat) (asked : List (Text × ScanOptions)) : Crowd :=
  match runAll rounds (asked.map fun (path, options) => .asked path options) launcher s with
  | (.ok stages, s') => ⟨s', stages⟩
  | (.error _, s') => ⟨s', []⟩

/-- What the scheduler leaves, started with an empty cache, is reachable. -/
theorem reachable_scheduled (rounds : Nat) (asked : List (Text × ScanOptions))
    (hs : s.cache = {}) : (scheduled launcher s rounds asked).Reachable := by
  obtain ⟨stages, s', hrun, hmoves⟩ :=
    runs_runAll launcher s rounds (asked.map fun (path, options) => .asked path options)
  simp only [scheduled, hrun]
  exact ⟨s, hs, (runs_ask s asked []).trans hmoves⟩

end Scheduler

end Crowd

end JarLens.Dependency
