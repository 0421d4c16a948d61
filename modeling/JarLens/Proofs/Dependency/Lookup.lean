import JarLens.Dependency.Cache

/-!
# Looking up what was stored

What `get?` and `lock?` give after each operation on the cache. A key that has a lock keeps it
(`lock?_withLock_of_some`). Later proofs know a cache by its look-ups only.
-/

namespace JarLens.Dependency.Cache

theorem lookup_cons_if (key k : CacheKey) (result : ScanResult)
    (entries : List (CacheKey × ScanResult)) :
    ((key, result) :: entries).lookup k = if k = key then some result else entries.lookup k := by
  by_cases h : k = key
  · simp [h]
  · have hne : (k == key) = false := beq_eq_false_iff_ne.2 h
    simp only [List.lookup_cons, hne, h, ↓reduceIte]

/-- Replacing the value of a key changes no look-up but the one of that key. -/
theorem lookup_map_replace (entries : List (CacheKey × ScanResult)) (key k : CacheKey)
    (result : ScanResult) :
    (entries.map fun entry => if entry.1 = key then (key, result) else entry).lookup k =
      if k = key then (entries.lookup key).map fun _ => result else entries.lookup k := by
  induction entries with
  | nil => simp
  | cons entry entries ih =>
    obtain ⟨key', value⟩ := entry
    simp only [List.map_cons]
    split
    · next hkey =>
      subst hkey
      rw [lookup_cons_if, lookup_cons_if, lookup_cons_if, ih]
      split <;> simp
    · next hkey =>
      have hne : ¬key = key' := fun h => hkey h.symm
      rw [lookup_cons_if, lookup_cons_if, lookup_cons_if, ih]
      simp only [hne, ↓reduceIte]
      split
      · next hk =>
        subst hk
        simp [hkey]
      · rfl

/-- Storing changes the look-up of its own key only. -/
theorem get?_put (c : Cache) (key k : CacheKey) (result : ScanResult) :
    (c.put key result).get? k = if k = key then some result else c.get? k := by
  unfold put get?
  cases hget : c.results.lookup key with
  | some old => simp [lookup_map_replace, hget]
  | none =>
    simp only [Option.isSome_none, Bool.false_eq_true, ↓reduceIte, List.lookup_append,
      lookup_cons_if]
    split
    · next hk => simp [hk, hget]
    · simp

@[simp] theorem get?_withLock (c : Cache) (key k : CacheKey) :
    (c.withLock key).get? k = c.get? k := by
  unfold withLock
  split <;> rfl

@[simp] theorem get?_empty (k : CacheKey) : ({} : Cache).get? k = none := rfl

/-! ## Locks -/

@[simp] theorem lock?_put (c : Cache) (key k : CacheKey) (result : ScanResult) :
    (c.put key result).lock? k = c.lock? k := rfl

theorem exists_lock?_withLock (c : Cache) (key : CacheKey) :
    ∃ i, (c.withLock key).lock? key = some i := by
  have hmem : key ∈ (c.withLock key).locks := by
    unfold withLock
    split
    · next h => exact h
    · exact List.mem_append_right c.locks (List.mem_singleton.2 rfl)
  exact Option.isSome_iff_exists.1 (List.isSome_idxOf?.2 hmem)

/-- A key for which a lock was made has the one that is named for it. -/
theorem lock?_withLock (c : Cache) (key : CacheKey) :
    (c.withLock key).lock? key = some ((c.withLock key).lockOf key) := by
  obtain ⟨i, hi⟩ := exists_lock?_withLock c key
  rw [lockOf, hi, Option.getD_some]

/-- Locks are made for other keys, but none is replaced. -/
theorem lock?_withLock_of_some {c : Cache} {k : CacheKey} {i : Nat} (h : c.lock? k = some i)
    (key : CacheKey) : (c.withLock key).lock? k = some i := by
  unfold withLock
  split
  · exact h
  · show (c.locks ++ [key]).findIdx? (· == k) = some i
    have hfound : c.locks.findIdx? (· == k) = some i := h
    rw [List.findIdx?_append, hfound, Option.some_or]

end JarLens.Dependency.Cache
