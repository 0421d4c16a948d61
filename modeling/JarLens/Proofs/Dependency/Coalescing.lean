import JarLens.Proofs.Dependency.Moves

/-!
# Scans of one key share a build

For any number of scans over one cache that starts empty, in any order of their moves: each key is
built by at most one scan at a time, a result that is stored stays, and of the scans of a key at
most one answers from its own build. The others answer from what that one stored, after it did.

The invariant is `Crowd.Sound`. It ties four things together: which lock the cache has for a key,
who has a lock, what is stored, and how far each scan has come. Scans of one key got one lock from
the cache, since a key that has a lock keeps it. A scan that has looked twice and found nothing has
the lock of its key, and while it has it nobody else can store a result for that key.
-/

namespace JarLens.Dependency

namespace Stage

/-- The request of a scan, once its project is known. -/
def request? : Stage → Option ScanRequest
  | located r | missed r _ | holding r _ | clear r _ | built r _ _ => some r
  | building b _ => some b.request
  | done r _ => r
  | asked _ _ => none

/-- The key of a scan with the lock that it waits for or has. -/
def claim? : Stage → Option (CacheKey × Nat)
  | missed r lock | holding r lock | clear r lock | built r lock _ => some (r.key, lock)
  | building b lock => some (b.request.key, lock)
  | _ => none

/-- What is true of a scan, given what is stored: nothing is stored for a key that is being built,
and an answer was made from what is stored for its key. -/
def Fits (cache : Cache) : Stage → Prop
  | clear r _ => cache.get? r.key = none
  | building b _ => cache.get? b.request.key = none
  | built r _ result => cache.get? r.key = none ∧ r.Builds result
  | done request (.ok result) => ∃ r stored, request = some r ∧ cache.get? r.key = some stored ∧
      (result = r.answer stored ∨ r.Builds stored ∧ result = r.freshAnswer stored)
  | _ => True

/-- A scan that builds has a lock, which it got for its key. -/
theorem claim_of_resolving {stage : Stage} {r : ScanRequest} (h : stage.resolving? = some r) :
    ∃ lock, stage.claim? = some (r.key, lock) ∧ stage.holds lock = true := by
  cases stage with
  | clear _ lock | built _ lock _ =>
    cases h
    exact ⟨lock, rfl, by simp [holds]⟩
  | building _ lock =>
    cases h
    exact ⟨lock, rfl, by simp [holds]⟩
  | _ => cases h

theorem request_of_resolving {stage : Stage} {r : ScanRequest} (h : stage.resolving? = some r) :
    stage.request? = some r := by
  cases stage <;> simp_all [resolving?, request?]

theorem Fits.unstored {cache : Cache} {stage : Stage} {r : ScanRequest} (hfits : stage.Fits cache)
    (h : stage.resolving? = some r) : cache.get? r.key = none := by
  cases stage <;> simp_all [resolving?, Fits]

/-- What is true of a scan only depends on what is stored for its own key. -/
theorem Fits.congr {cache cache' : Cache} {stage : Stage} (hfits : stage.Fits cache)
    (h : ∀ key, (∃ r, stage.resolving? = some r ∧ r.key = key) ∨ cache.get? key ≠ none →
      cache'.get? key = cache.get? key) : stage.Fits cache' := by
  cases stage with
  | clear r _ => exact (h r.key (.inl ⟨r, rfl, rfl⟩)).trans hfits
  | building b _ => exact (h b.request.key (.inl ⟨b.request, rfl, rfl⟩)).trans hfits
  | built r _ result => exact ⟨(h r.key (.inl ⟨r, rfl, rfl⟩)).trans hfits.1, hfits.2⟩
  | done r answer =>
    rcases answer with f | result
    · trivial
    · obtain ⟨r, stored, hr, hget, hresult⟩ := hfits
      refine ⟨r, stored, hr, ?_, hresult⟩
      rw [h r.key (.inr (by simp [hget])), hget]
  | _ => trivial

namespace Goes

variable {m : Machine} {free : Nat → Prop} {c c' : Cache} {stage stage' : Stage}

/-- A lock that a scan has after a move was its own or was free. -/
theorem holds_or_free (h : Goes m free c stage c' stage') {lock : Nat}
    (hlock : stage'.holds lock = true) : stage.holds lock = true ∨ free lock := by
  cases h with
  | acquire hfree =>
    obtain rfl : _ = lock := by simpa [holds] using hlock
    exact .inr hfree
  | start => exact .inl hlock
  | finish => exact .inl hlock
  | clear => exact .inl hlock
  | stay => exact .inl hlock
  | _ => simp [holds, answered] at hlock

/-- A key that has a lock keeps it. -/
theorem lock?_eq (h : Goes m free c stage c' stage') {key : CacheKey} {lock : Nat}
    (hlock : c.lock? key = some lock) : c'.lock? key = some lock := by
  cases h with
  | miss => exact Cache.lock?_withLock_of_some hlock _
  | _ => exact hlock

/-- A scan that waits for the lock of its key, or has it, got it from the cache. -/
theorem claims (h : Goes m free c stage c' stage')
    (hown : ∀ {key lock}, stage.claim? = some (key, lock) → c.lock? key = some lock)
    {key : CacheKey} {lock : Nat} (hclaim : stage'.claim? = some (key, lock)) :
    c'.lock? key = some lock := by
  cases h with
  | miss _ hlock =>
    cases hclaim
    exact hlock
  | start hb =>
    subst hb
    exact hown hclaim
  | acquire => exact hown hclaim
  | clear => exact hown hclaim
  | finish => exact hown hclaim
  | stay => exact hown hclaim
  | _ => cases hclaim

/-- Storing the result of a build is the only move that changes what is stored. -/
theorem cache_cases (h : Goes m free c stage c' stage') :
    (∀ key, c'.get? key = c.get? key) ∨
    ∃ r lock result, stage = built r lock result ∧ stage' = answered r (r.freshAnswer result) ∧
      ∀ key, c'.get? key = if key = r.key then some result else c.get? key := by
  cases h with
  | miss => exact .inl fun key => Cache.get?_withLock ..
  | store => exact .inr ⟨_, _, _, rfl, rfl, fun key => Cache.get?_put ..⟩
  | _ => exact .inl fun _ => rfl

/-- A scan that is over makes no further move. -/
theorem stays_done {r : Option ScanRequest} {answer : Except Failure ScanResult}
    (h : Goes m free c (done r answer) c' stage') : stage' = done r answer := by
  generalize hstage : done r answer = stage at h
  cases h with
  | fail hr => subst hstage; cases hr
  | stay => rfl
  | _ => cases hstage

theorem fits (h : Goes m free c stage c' stage') (hfits : stage.Fits c) : stage'.Fits c' := by
  cases h with
  | hit h => exact ⟨_, _, rfl, h, .inl rfl⟩
  | hitLater h => exact ⟨_, _, rfl, h, .inl rfl⟩
  | clear h => exact h
  | start h => subst h; exact hfits
  | finish h => exact ⟨hfits, h⟩
  | store => exact ⟨_, _, rfl, by rw [Cache.get?_put, if_pos rfl], .inr ⟨hfits.2, rfl⟩⟩
  | stay => exact hfits
  | _ => trivial

theorem asked_cases {path : Text} {options : ScanOptions}
    (h : Goes m free c (asked path options) c' stage') :
    (∃ r, r.IsFor m path options ∧ stage' = located r) ∨
    (∃ f, stage' = done none (.error f)) ∨ stage' = asked path options := by
  cases h with
  | locate h => exact .inl ⟨_, h, rfl⟩
  | noProject => exact .inr (.inl ⟨_, rfl⟩)
  | fail h => cases h
  | stay => exact .inr (.inr rfl)

/-- A scan does not forget what it was asked. -/
theorem request_eq (h : Goes m free c stage c' stage')
    (hasked : ∀ path options, stage ≠ .asked path options) :
    stage'.request? = stage.request? ∧ ∀ path options, stage' ≠ .asked path options := by
  cases h with
  | locate => exact absurd rfl (hasked _ _)
  | noProject => exact absurd rfl (hasked _ _)
  | start h => subst h; exact ⟨rfl, by simp⟩
  | fail h => exact ⟨(request_of_resolving h).symm, by simp⟩
  | stay => exact ⟨rfl, hasked⟩
  | _ => exact ⟨rfl, by simp [answered]⟩

/-- A scan that fails stores nothing. -/
theorem cache_of_failed {r : Option ScanRequest} {f : Failure}
    (h : Goes m free c stage c' (done r (.error f))) : c' = c := by
  generalize hstage : done r (.error f) = stage' at h
  cases h with
  | miss => cases hstage
  | store => cases hstage
  | _ => rfl

/-- A scan that gets an answer answers from what is stored already, or stores its own build. -/
theorem answered_cases (h : Goes m free c stage c' stage') {r : ScanRequest} {result : ScanResult}
    (hstage : stage' = answered r result) (hnew : stage ≠ answered r result) :
    (∃ stored, c.get? r.key = some stored ∧ result = r.answer stored) ∨
    ∃ lock built, stage = .built r lock built ∧ result = r.freshAnswer built ∧
      c'.get? r.key = some built := by
  cases h with
  | hit h => cases hstage; exact .inl ⟨_, h, rfl⟩
  | hitLater h => cases hstage; exact .inl ⟨_, h, rfl⟩
  | store => cases hstage; exact .inr ⟨_, _, rfl, rfl, by rw [Cache.get?_put, if_pos rfl]⟩
  | stay => exact absurd hstage hnew
  | _ => cases hstage

end Goes

end Stage

/-! ## The invariant -/

namespace Crowd

/-- The invariant: scans go by the lock that the cache has for their key, one lock has one holder,
every scan fits what is stored, and what is stored for a key was stored by exactly one scan that
answered from its own build. -/
structure Sound (c : Crowd) : Prop where
  locked : ∀ {i : Nat} {stage : Stage} {key : CacheKey} {lock : Nat}, c.stages[i]? = some stage →
    stage.claim? = some (key, lock) → c.state.cache.lock? key = some lock
  exclusive : ∀ {i j : Nat} {a b : Stage} {lock : Nat}, c.stages[i]? = some a →
    c.stages[j]? = some b → a.holds lock = true → b.holds lock = true → i = j
  fits : ∀ {i : Nat} {stage : Stage}, c.stages[i]? = some stage → stage.Fits c.state.cache
  maker : ∀ {key : CacheKey} {stored : ScanResult}, c.stored? key = some stored →
    ∃ (i : Nat) (r : ScanRequest), c.stages[i]? = some (.answered r (r.freshAnswer stored)) ∧
      r.key = key ∧ r.Builds stored
  oneMaker : ∀ {i j : Nat} {r r' : ScanRequest} {a b : ScanResult},
    c.stages[i]? = some (.answered r a) → c.stages[j]? = some (.answered r' b) →
    r.key = r'.key → a.cached = false → b.cached = false → i = j

/-- Both scans answered from their own builds of one key. -/
def BuiltAlike (x y : Stage) : Prop :=
  ∃ (r r' : ScanRequest) (a b : ScanResult), x = .answered r a ∧ y = .answered r' b ∧
    r.key = r'.key ∧ a.cached = false ∧ b.cached = false

theorem BuiltAlike.symm {x y : Stage} : BuiltAlike x y → BuiltAlike y x
  | ⟨r, r', a, b, hx, hy, hkey, ha, hb⟩ => ⟨r', r, b, a, hy, hx, hkey.symm, hb, ha⟩

section Change

variable {stages : List Stage} {i j k : Nat} {stage x y : Stage}

/-- Where one scan went on, a scan is that one at its new stage, or another one as it was. -/
theorem at_set (h : (stages.set i stage)[j]? = some x) :
    (j = i ∧ x = stage) ∨ (j ≠ i ∧ stages[j]? = some x) := by
  rw [List.getElem?_set] at h
  split at h
  · next hij =>
    split at h
    · cases h
      exact .inl ⟨hij.symm, rfl⟩
    · cases h
  · next hij => exact .inr ⟨Ne.symm hij, h⟩

/-- If no two scans are related, none are after one of them went on to a stage that is not related
to any other scan's. -/
theorem eq_of_set {P : Stage → Stage → Prop} (hsymm : ∀ {x y}, P x y → P y x)
    (h : ∀ {j k : Nat} {x y}, stages[j]? = some x → stages[k]? = some y → P x y → j = k)
    (hnew : ∀ {k : Nat} {y}, k ≠ i → stages[k]? = some y → ¬P stage y)
    (hj : (stages.set i stage)[j]? = some x) (hk : (stages.set i stage)[k]? = some y)
    (hP : P x y) : j = k := by
  rcases at_set hj with ⟨rfl, rfl⟩ | ⟨hji, hj'⟩ <;> rcases at_set hk with ⟨rfl, rfl⟩ | ⟨hki, hk'⟩
  · rfl
  · exact absurd hP (hnew hki hk')
  · exact absurd (hsymm hP) (hnew hji hj')
  · exact h hj' hk' hP

end Change

namespace Sound

theorem empty {s : State} (hs : s.cache = {}) : Sound ⟨s, []⟩ where
  locked h := by simp at h
  exclusive h := by simp at h
  fits h := by simp at h
  maker h := by simp [stored?, hs] at h
  oneMaker h := by simp at h

variable {c c' : Crowd}

/-- Of the scans of one key only one builds, for they go by one lock. -/
theorem eq_of_resolving (h : c.Sound) {i j : Nat} {a b : Stage} {r r' : ScanRequest}
    (hi : c.stages[i]? = some a) (hj : c.stages[j]? = some b) (ha : a.resolving? = some r)
    (hb : b.resolving? = some r') (hkey : r.key = r'.key) : i = j := by
  obtain ⟨lock, hclaim, hholds⟩ := Stage.claim_of_resolving ha
  obtain ⟨lock', hclaim', hholds'⟩ := Stage.claim_of_resolving hb
  have hlock := h.locked hi hclaim
  rw [hkey, h.locked hj hclaim'] at hlock
  cases hlock
  exact h.exclusive hi hj hholds hholds'

theorem eq_of_builtAlike (h : c.Sound) {i j : Nat} {a b : Stage} (hi : c.stages[i]? = some a)
    (hj : c.stages[j]? = some b) (hbuilt : BuiltAlike a b) : i = j := by
  obtain ⟨r, r', x, y, rfl, rfl, hkey, hx, hy⟩ := hbuilt
  exact h.oneMaker hi hj hkey hx hy

/-- Scans that are only asked for change nothing. -/
theorem grow (h : c.Sound) {more : List Stage}
    (hmore : ∀ stage ∈ more, ∃ path options, stage = .asked path options)
    (hstages : c'.stages = c.stages ++ more) (hcache : c'.state.cache = c.state.cache) :
    c'.Sound := by
  have hold : ∀ {i : Nat} {stage : Stage}, c'.stages[i]? = some stage →
      c.stages[i]? = some stage ∨ ∃ path options, stage = .asked path options := by
    intro i stage hi
    rw [hstages, List.getElem?_append] at hi
    split at hi
    · exact .inl hi
    · exact .inr (hmore stage (List.mem_of_getElem? hi))
  refine ⟨?_, ?_, ?_, ?_, ?_⟩
  · intro i stage key lock hi hclaim
    rw [hcache]
    rcases hold hi with hi | ⟨path, options, rfl⟩
    · exact h.locked hi hclaim
    · cases hclaim
  · intro i j a b lock hi hj ha hb
    rcases hold hi with hi | ⟨path, options, rfl⟩
    · rcases hold hj with hj | ⟨path, options, rfl⟩
      · exact h.exclusive hi hj ha hb
      · cases hb
    · cases ha
  · intro i stage hi
    rw [hcache]
    rcases hold hi with hi | ⟨path, options, rfl⟩
    · exact h.fits hi
    · trivial
  · intro key stored hkey
    rw [stored?, hcache] at hkey
    obtain ⟨i, r, hi, hr⟩ := h.maker hkey
    have hlt : i < c.stages.length := (List.getElem?_eq_some_iff.1 hi).1
    exact ⟨i, r, by rw [hstages, List.getElem?_append_left hlt, hi], hr⟩
  · intro i j r r' a b hi hj
    rcases hold hi with hi | ⟨path, options, hasked⟩
    · rcases hold hj with hj | ⟨path, options, hasked⟩
      · exact h.oneMaker hi hj
      · cases hasked
    · cases hasked

/-- A scan that gets its answer when another one of its key has an answer does not build: what it
would have to store is stored already. -/
theorem cached_of_answered {i j : Nat} {stage : Stage} {r r' : ScanRequest} {a b : ScanResult}
    {m : Machine} {free : Nat → Prop} {cache : Cache} (h : c.Sound)
    (hi : c.stages[i]? = some stage)
    (hgoes : Stage.Goes m free c.state.cache stage cache (.answered r a))
    (hnew : stage ≠ .answered r a) (hj : c.stages[j]? = some (.answered r' b))
    (hkey : r.key = r'.key) : a.cached = true := by
  rcases hgoes.answered_cases rfl hnew with ⟨stored, -, rfl⟩ | ⟨lock, built, rfl, -, -⟩
  · rfl
  · obtain ⟨r'', stored, hr, hget, -⟩ := h.fits hj
    cases hr
    have hnone := (h.fits hi).1
    rw [hkey, hget] at hnone
    cases hnone

/-- A move of one scan keeps the invariant. -/
theorem move {i : Nat} {stage stage' : Stage} (h : c.Sound) (hi : c.stages[i]? = some stage)
    (hstages : c'.stages = c.stages.set i stage')
    (hgoes : Stage.Goes c.state.machine (c.FreeFor i) c.state.cache stage c'.state.cache stage') :
    c'.Sound := by
  have hself : c'.stages[i]? = some stage' := by
    rw [hstages, List.getElem?_set_self (List.getElem?_eq_some_iff.1 hi).1]
  have hother : ∀ {j}, j ≠ i → c'.stages[j]? = c.stages[j]? := fun hj => by
    rw [hstages, List.getElem?_set_ne (Ne.symm hj)]
  refine ⟨?_, ?_, ?_, ?_, ?_⟩
  · intro j other key lock hj hclaim
    rcases at_set (hstages ▸ hj) with ⟨rfl, rfl⟩ | ⟨-, hj⟩
    · exact hgoes.claims (h.locked hi) hclaim
    · exact hgoes.lock?_eq (h.locked hj hclaim)
  · intro j k a b lock hj hk ha hb
    -- A lock that the scan comes to have is one that no other scan has.
    have hnew : ∀ {k other}, k ≠ i → c.stages[k]? = some other →
        ¬(stage'.holds lock = true ∧ other.holds lock = true) := by
      rintro k other hk hother ⟨hown, hholds⟩
      rcases hgoes.holds_or_free hown with hown | hfree
      · exact hk (h.exclusive hother hi hholds hown)
      · exact hk (hfree k other hother hholds)
    exact eq_of_set (P := fun x y => x.holds lock = true ∧ y.holds lock = true) And.symm
      (fun hj hk hholds => h.exclusive hj hk hholds.1 hholds.2) hnew (hstages ▸ hj) (hstages ▸ hk)
      ⟨ha, hb⟩
  · intro j other hj
    rcases at_set (hstages ▸ hj) with ⟨rfl, rfl⟩ | ⟨hji, hj⟩
    · exact hgoes.fits (h.fits hi)
    · -- What another scan depends on is stored, or locked by it, so this scan did not store it.
      refine (h.fits hj).congr fun key hkey => ?_
      rcases hgoes.cache_cases with hsame | ⟨r, lock, result, rfl, rfl, hput⟩
      · exact hsame key
      · have hne : key ≠ r.key := by
          rintro rfl
          rcases hkey with ⟨r', hresolving, hkey⟩ | hstored
          · exact hji (h.eq_of_resolving hj hi hresolving rfl hkey)
          · exact hstored (h.fits hi).1
        rw [hput, if_neg hne]
  · intro key stored hkey
    rcases hgoes.cache_cases with hsame | ⟨r, lock, result, rfl, rfl, hput⟩
    · obtain ⟨j, r, hj, hr⟩ := h.maker ((hsame key).symm.trans hkey)
      by_cases hji : j = i
      · subst hji
        rw [hi] at hj
        cases hj
        rw [hgoes.stays_done] at hself
        exact ⟨j, r, hself, hr⟩
      · exact ⟨j, r, by rw [hother hji, hj], hr⟩
    · have hkey' := (hput key).symm.trans hkey
      split at hkey'
      · next heq =>
        cases hkey'
        exact ⟨i, r, hself, heq.symm, (h.fits hi).2⟩
      · obtain ⟨j, r', hj, hr⟩ := h.maker hkey'
        have hji : j ≠ i := by
          rintro rfl
          rw [hi] at hj
          cases hj
        exact ⟨j, r', by rw [hother hji, hj], hr⟩
  · intro j k r r' a b hj hk hkey ha hb
    -- The scan has its own build's answer already, or no other scan of its key has an answer.
    have hnew : ∀ {k other}, k ≠ i → c.stages[k]? = some other → ¬BuiltAlike stage' other := by
      rintro k other hk hother ⟨r, r', a, b, rfl, rfl, hkey, ha, hb⟩
      by_cases hold : stage = .answered r a
      · exact hk (h.oneMaker (hold ▸ hi) hother hkey ha hb).symm
      · rw [h.cached_of_answered hi hgoes hold hother hkey] at ha
        cases ha
    exact eq_of_set BuiltAlike.symm h.eq_of_builtAlike hnew (hstages ▸ hj) (hstages ▸ hk)
      ⟨r, r', a, b, rfl, rfl, hkey, ha, hb⟩

/-- The invariant holds of whatever comes of an empty cache. -/
theorem of_reachable (h : c.Reachable) : c.Sound := by
  obtain ⟨s, hs, hruns⟩ := h
  induction hruns with
  | refl => exact empty hs
  | tail _ hmove ih =>
    rcases hmove.cases with ⟨more, hmore, hstages, hcache⟩ | ⟨i, stage, stage', hi, hstages, hgoes⟩
    · exact ih.grow hmore hstages hcache
    · exact ih.move hi hstages hgoes

end Sound

/-! ## One scan among the others -/

/-- A move lets a scan be, or lets it make one of its steps. -/
theorem Move.at {c c' : Crowd} (h : Move c c') {i : Nat} {stage : Stage}
    (hi : c.stages[i]? = some stage) :
    ∃ stage', c'.stages[i]? = some stage' ∧ (stage' = stage ∨
      Stage.Goes c.state.machine (c.FreeFor i) c.state.cache stage c'.state.cache stage') := by
  have hlt : i < c.stages.length := (List.getElem?_eq_some_iff.1 hi).1
  rcases h.cases with ⟨more, -, hstages, -⟩ | ⟨j, old, new, hj, hstages, hgoes⟩
  · exact ⟨stage, by rw [hstages, List.getElem?_append_left hlt, hi], .inl rfl⟩
  · by_cases hji : j = i
    · subst hji
      rw [hi] at hj
      cases hj
      exact ⟨new, by rw [hstages, List.getElem?_set_self hlt], .inr hgoes⟩
    · exact ⟨stage, by rw [hstages, List.getElem?_set_ne hji, hi], .inl rfl⟩

/-- A scan that is at a new stage after a move, other than the first one, made a step to it. -/
theorem Move.goes {c c' : Crowd} (h : Move c c') {i : Nat} {stage' : Stage}
    (hi : c'.stages[i]? = some stage') (hnew : c.stages[i]? ≠ some stage')
    (hasked : ∀ path options, stage' ≠ .asked path options) :
    ∃ stage, c.stages[i]? = some stage ∧
      Stage.Goes c.state.machine (c.FreeFor i) c.state.cache stage c'.state.cache stage' := by
  cases hold : c.stages[i]? with
  | some stage =>
    obtain ⟨stage₂, hi₂, hsame | hgoes⟩ := h.at hold
    · rw [hi] at hi₂
      cases hi₂
      exact absurd (hsame ▸ hold) hnew
    · rw [hi] at hi₂
      cases hi₂
      exact ⟨stage, rfl, hgoes⟩
  | none =>
    have hle : c.stages.length ≤ i := List.getElem?_eq_none_iff.1 hold
    rcases h.cases with ⟨more, hmore, hstages, -⟩ | ⟨j, old, new, hj, hstages, -⟩
    · rw [hstages, List.getElem?_append_right hle] at hi
      obtain ⟨path, options, rfl⟩ := hmore _ (List.mem_of_getElem? hi)
      exact absurd rfl (hasked path options)
    · have hlt := (List.getElem?_eq_some_iff.1 hi).1
      rw [hstages, List.length_set] at hlt
      omega

/-- What is stored stays. -/
theorem Sound.stored_move {c c' : Crowd} (h : c.Sound) (hmove : Move c c') {key : CacheKey}
    {stored : ScanResult} (hkey : c.stored? key = some stored) : c'.stored? key = some stored := by
  unfold stored? at hkey ⊢
  rcases hmove.cases with ⟨-, -, -, hcache⟩ | ⟨i, stage, stage', hi, -, hgoes⟩
  · rw [hcache, hkey]
  · rcases hgoes.cache_cases with hsame | ⟨r, lock, result, rfl, -, hput⟩
    · rw [hsame, hkey]
    · have hne : key ≠ r.key := by
        rintro rfl
        rw [(h.fits hi).1] at hkey
        cases hkey
      rw [hput, if_neg hne, hkey]

/-- A lock that a scan has is not taken by another one. -/
theorem Sound.holder_move {c c' : Crowd} (h : c.Sound) (hmove : Move c c') {i j : Nat}
    {a b : Stage} {lock : Nat} (hi : c.stages[i]? = some a) (ha : a.holds lock = true)
    (hj : c'.stages[j]? = some b) (hb : b.holds lock = true) : i = j := by
  by_cases hold : c.stages[j]? = some b
  · exact h.exclusive hi hold ha hb
  · obtain ⟨stage, hstage, hgoes⟩ := hmove.goes hj hold (by rintro _ _ rfl; cases hb)
    rcases hgoes.holds_or_free hb with hown | hfree
    · exact h.exclusive hi hstage ha hown
    · exact hfree i a hi ha

/-- A lock that a scan gives up by a move is free. -/
theorem Sound.isFreeOf_move {c c' : Crowd} (h : c.Sound) (hmove : Move c c') {i : Nat}
    {a b : Stage} {lock : Nat} (hi : c.stages[i]? = some a) (ha : a.holds lock = true)
    (hi' : c'.stages[i]? = some b) (hb : b.holds lock = false) :
    isFreeOf c'.stages lock = true := by
  rw [isFreeOf_iff]
  intro other hmem
  obtain ⟨j, hj⟩ := List.mem_iff_getElem?.1 hmem
  cases hholds : other.holds lock with
  | false => rfl
  | true =>
    obtain rfl : i = j := h.holder_move hmove hi ha hj hholds
    rw [hi'] at hj
    cases hj
    rw [hb] at hholds
    cases hholds

theorem stored_runs {c c' : Crowd} (h : c.Reachable) (hruns : Runs c c') {key : CacheKey}
    {stored : ScanResult} (hkey : c.stored? key = some stored) : c'.stored? key = some stored := by
  induction hruns with
  | refl => exact hkey
  | tail hmoves hmove ih =>
    obtain ⟨s, hs, hstart⟩ := h
    exact (Sound.of_reachable ⟨s, hs, hstart.trans hmoves⟩).stored_move hmove ih

/-- A scan that was asked for is still at its start, or it has the request that came of what was
asked, on the machine as it was at some moment in between. -/
theorem request_runs {c c' : Crowd} (hruns : Runs c c') {i : Nat} {path : Text}
    {options : ScanOptions} (hi : c.stages[i]? = some (.asked path options)) :
    c'.stages[i]? = some (.asked path options) ∨
    ∃ stage, c'.stages[i]? = some stage ∧ (∀ path options, stage ≠ .asked path options) ∧
      ∀ r, stage.request? = some r →
        ∃ c₁, Runs c c₁ ∧ Runs c₁ c' ∧ r.IsFor c₁.state.machine path options := by
  induction hruns with
  | refl => exact .inl hi
  | @tail b d hmoves hmove ih =>
    -- The move that leaves the first stage resolves the path; no later one changes the request.
    rcases ih with hasked | ⟨stage, hstage, hnot, hfor⟩
    · obtain ⟨stage', hi', rfl | hgoes⟩ := hmove.at hasked
      · exact .inl hi'
      · rcases hgoes.asked_cases with ⟨r, hr, rfl⟩ | ⟨f, rfl⟩ | rfl
        · refine .inr ⟨_, hi', by simp, fun r' hr' => ?_⟩
          cases hr'
          exact ⟨b, hmoves, .single hmove, hr⟩
        · exact .inr ⟨_, hi', by simp, fun r' hr' => by cases hr'⟩
        · exact .inl hi'
    · obtain ⟨stage', hi', hgoes⟩ := hmove.at hstage
      have hkept : stage'.request? = stage.request? ∧
          ∀ path options, stage' ≠ .asked path options := by
        rcases hgoes with rfl | hgoes
        · exact ⟨rfl, hnot⟩
        · exact hgoes.request_eq hnot
      refine .inr ⟨stage', hi', hkept.2, fun r hr => ?_⟩
      obtain ⟨c₁, hbefore, hafter, hr⟩ := hfor r (hkept.1 ▸ hr)
      exact ⟨c₁, hbefore, hafter.tail hmove, hr⟩

/-! ## What is promised of scans at the same time -/

/-- A scan gets its result by a move. -/
def Completes (c c' : Crowd) (i : Nat) (r : ScanRequest) (result : ScanResult) : Prop :=
  Move c c' ∧ c'.stages[i]? = some (.answered r result) ∧
    c.stages[i]? ≠ some (.answered r result)

/-- The build of a scan breaks off by a move. -/
def Fails (c c' : Crowd) (i : Nat) (r : ScanRequest) (f : Failure) : Prop :=
  Move c c' ∧ (∃ stage, c.stages[i]? = some stage ∧ stage.resolving? = some r) ∧
    c'.stages[i]? = some (.done (some r) (.error f))

/-- What callers of scans at the same time can rely on, from a moment on. -/
structure SharesBuilds (c : Crowd) : Prop where
  /-- At most one scan of a key is between its second look and the storing of its result. -/
  one_build : ∀ {i j : Nat} {a b : Stage} {r r' : ScanRequest}, c.stages[i]? = some a →
    c.stages[j]? = some b → a.resolving? = some r → b.resolving? = some r' → r.key = r'.key → i = j
  /-- A stored result is neither replaced nor removed. -/
  stored_stays : ∀ {c' : Crowd} {key : CacheKey} {stored : ScanResult}, Runs c c' →
    c.stored? key = some stored → c'.stored? key = some stored
  /-- At most one scan of a key answers from its own build. -/
  one_uncached : ∀ {i j : Nat} {r r' : ScanRequest} {a b : ScanResult},
    c.stages[i]? = some (.answered r a) → c.stages[j]? = some (.answered r' b) → r.key = r'.key →
    a.cached = false → b.cached = false → i = j
  /-- It is the one whose result is stored, where nothing was stored before. -/
  uncached_stores : ∀ {c' : Crowd} {i : Nat} {r : ScanRequest} {result : ScanResult},
    Completes c c' i r result → result.cached = false →
    ∃ lock built, c.stages[i]? = some (.built r lock built) ∧ c.stored? r.key = none ∧
      c'.stored? r.key = some built ∧ result = r.freshAnswer built
  /-- All others get their result after it got its own, from what it stored. -/
  cached_after : ∀ {c' : Crowd} {i : Nat} {r : ScanRequest} {result : ScanResult},
    Completes c c' i r result → result.cached = true →
    ∃ (stored : ScanResult) (j : Nat) (r' : ScanRequest), c.stored? r.key = some stored ∧
      result = r.answer stored ∧ r'.key = r.key ∧ stored.cached = false ∧
      c.stages[j]? = some (.answered r' (r'.freshAnswer stored))
  /-- A result carries the scan's own path, and the records of the stored one that match the scan's
  own query. -/
  own_answer : ∀ {i : Nat} {request : Option ScanRequest} {result : ScanResult},
    c.stages[i]? = some (.done request (.ok result)) →
    ∃ r stored, request = some r ∧ c.stored? r.key = some stored ∧ result.projectPath = r.path ∧
      result.dependencies = matching r.options.query stored.dependencies ∧
      result.projectRoot = stored.projectRoot ∧ result.kind = stored.kind ∧
      result.logTail = stored.logTail
  /-- A scan's own path and options are the ones that it was asked for, the path resolved at some
  moment since. -/
  own_request : ∀ {c' : Crowd} {i : Nat} {path : Text} {options : ScanOptions} {r : ScanRequest}
    {answer : Except Failure ScanResult}, c.stages[i]? = some (.asked path options) → Runs c c' →
    c'.stages[i]? = some (.done (some r) answer) →
    ∃ c₁, Runs c c₁ ∧ Runs c₁ c' ∧ r.IsFor c₁.state.machine path options
  /-- A build that breaks off stores nothing and frees the lock, and every scan that waits for it
  can go on to a build of its own. -/
  failed_frees : ∀ {c' : Crowd} {i : Nat} {r : ScanRequest} {f : Failure}, Fails c c' i r f →
    c'.state.cache = c.state.cache ∧ c'.stored? r.key = none ∧
    ∃ lock, c'.state.cache.lock? r.key = some lock ∧ isFreeOf c'.stages lock = true ∧
      ∀ {j : Nat} {r' : ScanRequest} {lock' : Nat}, c'.stages[j]? = some (.missed r' lock') →
        r'.key = r.key → ∃ c'', Runs c' c'' ∧ c''.stages = c'.stages.set j (.clear r' lock')

/-- A scan that waits for a free lock of a key without a result can take the lock and look again,
and is clear to build then. -/
theorem runs_clear {c : Crowd} {j : Nat} {r : ScanRequest} {lock : Nat}
    (hj : c.stages[j]? = some (.missed r lock)) (hfree : isFreeOf c.stages lock = true)
    (hnone : c.stored? r.key = none) :
    ∃ c', Runs c c' ∧ c'.stages = c.stages.set j (.clear r lock) := by
  obtain ⟨s, stages⟩ := c
  obtain ⟨before, after, rfl, rfl⟩ : ∃ before after,
      stages = before ++ .missed r lock :: after ∧ before.length = j := by
    obtain ⟨hlt, hget⟩ := List.getElem?_eq_some_iff.1 hj
    refine ⟨stages.take j, stages.drop (j + 1), ?_, List.length_take_of_le (Nat.le_of_lt hlt)⟩
    rw [← hget, List.getElem_cons_drop, List.take_append_drop]
  have hothers : isFreeOf (before ++ after) lock = true := by
    rw [isFreeOf_iff] at hfree ⊢
    intro stage hmem
    exact hfree stage ((List.mem_append.1 hmem).elim (List.mem_append_left _)
      fun hafter => List.mem_append_right _ (List.mem_cons_of_mem _ hafter))
  have hacquire : Move ⟨s, before ++ .missed r lock :: after⟩
      ⟨s, before ++ .holding r lock :: after⟩ :=
    .step default (by simp only [Stage.step, hothers, ↓reduceIte]; rfl)
  have hclear : Move ⟨s, before ++ .holding r lock :: after⟩
      ⟨s, before ++ .clear r lock :: after⟩ := by
    refine .step default ?_
    rcases Stage.run_answerOr r (Stage.answered r) (pure (Stage.clear r lock)) default s with
      ⟨stored, -, hget, -⟩ | ⟨-, hrun⟩
    · exact absurd (hget.symm.trans hnone) (by simp)
    · exact hrun
  exact ⟨_, .tail (.single hacquire) hclear, by simp⟩

/-- Scans of one key share a build, whatever they do and in whatever order. -/
theorem sharesBuilds_of_reachable {c : Crowd} (h : c.Reachable) : c.SharesBuilds := by
  have hsound : c.Sound := .of_reachable h
  refine
    { one_build := ?_, stored_stays := fun hruns => stored_runs h hruns,
      one_uncached := hsound.oneMaker, uncached_stores := ?_, cached_after := ?_, own_answer := ?_,
      own_request := ?_, failed_frees := ?_ }
  · intro i j a b r r' hi hj ha hb hkey
    exact hsound.eq_of_resolving hi hj ha hb hkey
  · rintro c' i r result ⟨hmove, hi', hnew⟩ huncached
    obtain ⟨stage, hi, hgoes⟩ := hmove.goes hi' hnew (by simp [Stage.answered])
    rcases hgoes.answered_cases rfl (fun heq => hnew (heq ▸ hi)) with
      ⟨stored, -, rfl⟩ | ⟨lock, built, rfl, rfl, hput⟩
    · cases huncached
    · exact ⟨lock, built, hi, (hsound.fits hi).1, hput, rfl⟩
  · rintro c' i r result ⟨hmove, hi', hnew⟩ hcached
    obtain ⟨stage, hi, hgoes⟩ := hmove.goes hi' hnew (by simp [Stage.answered])
    rcases hgoes.answered_cases rfl (fun heq => hnew (heq ▸ hi)) with
      ⟨stored, hget, rfl⟩ | ⟨lock, built, rfl, rfl, -⟩
    · obtain ⟨j, r', hj, hkey, hbuilds⟩ := hsound.maker hget
      exact ⟨stored, j, r', hget, rfl, hkey, hbuilds.cached_eq, hj⟩
    · have huncached := (hsound.fits hi).2.cached_eq
      exact absurd (huncached.symm.trans hcached) (by decide)
  · intro i request result hi
    obtain ⟨r, stored, hr, hget, hresult⟩ := hsound.fits hi
    refine ⟨r, stored, hr, hget, ?_⟩
    rcases hresult with rfl | ⟨hbuilds, rfl⟩
    · exact ⟨rfl, rfl, rfl, rfl, rfl⟩
    · exact ⟨hbuilds.projectPath_eq, rfl, rfl, rfl, rfl⟩
  · intro c' i path options r answer hi hruns hi'
    rcases request_runs hruns hi with hasked | ⟨stage, hstage, -, hfor⟩
    · rw [hi'] at hasked
      cases hasked
    · rw [hi'] at hstage
      cases hstage
      exact hfor r rfl
  · rintro c' i r f ⟨hmove, ⟨stage, hi, hresolving⟩, hi'⟩
    have hnew : c.stages[i]? ≠ some (.done (some r) (.error f)) := by
      rw [hi]
      rintro heq
      cases heq
      cases hresolving
    obtain ⟨stage₂, hi₂, hgoes⟩ := hmove.goes hi' hnew (by simp)
    rw [hi] at hi₂
    cases hi₂
    have hcache : c'.state.cache = c.state.cache := hgoes.cache_of_failed
    have hnone : c'.stored? r.key = none := by
      rw [stored?, hcache]
      exact (hsound.fits hi).unstored hresolving
    obtain ⟨lock, hclaim, hown⟩ := Stage.claim_of_resolving hresolving
    have hlock : c'.state.cache.lock? r.key = some lock := hgoes.lock?_eq (hsound.locked hi hclaim)
    have hfree : isFreeOf c'.stages lock = true :=
      hsound.isFreeOf_move hmove hi hown hi' rfl
    refine ⟨hcache, hnone, lock, hlock, hfree, fun {j r' lock'} hj hkey => ?_⟩
    -- The cache gave the waiting scan the same lock, since it waits for the same key.
    obtain ⟨s, hs, hruns⟩ := h
    have hsound' : c'.Sound := .of_reachable ⟨s, hs, hruns.tail hmove⟩
    have hlock' := hsound'.locked hj rfl
    rw [hkey, hlock] at hlock'
    cases hlock'
    exact runs_clear hj hfree (hkey ▸ hnone)

/-- Two scans of the Maven project at the root of a machine, by a tool that lists nothing. -/
def twoScans : Crowd :=
  let files := (({} : Files).makeFolders ["tmp".toList]).put ["pom.xml".toList] (.file .empty 0o644)
  let machine : Machine :=
    { files, environment := {}, folder := some [], scratch := ["tmp".toList], programFolders := []
      homes := [] }
  let launcher : Launcher :=
    { start := fun m _ => .ok (0, m.toSite)
      await := fun m first _ => (first, ⟨0, .empty, .empty⟩, m.toSite) }
  scheduled launcher { machine } 11 [(['/'], {}), (['/'], { query := some ['x'] })]

theorem sharesBuilds_twoScans : twoScans.Reachable ∧
    twoScans.stages.filterMap (·.answer?.bind (·.toOption.map (·.cached))) = [false, true] ∧
    twoScans.SharesBuilds := by
  have hreachable : twoScans.Reachable := reachable_scheduled _ _ _ _ rfl
  exact ⟨hreachable, by decide +kernel, sharesBuilds_of_reachable hreachable⟩

end Crowd

end JarLens.Dependency
