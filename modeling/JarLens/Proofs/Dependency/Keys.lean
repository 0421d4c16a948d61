import JarLens.Proofs.Dependency.Lookup
import JarLens.Proofs.Text.Sorting
import JarLens.Proofs.Text.Trimming
import Mathlib.Data.List.Induction
import Mathlib.Data.List.Nodup

/-!
# What cache keys tell apart

Two requests have one key if they ask for the same (`ScanOptions.key_eq_iff`), and a key has one slot
for its result and one lock, whatever was asked of the cache before (`Cache.get?_after`,
`Cache.lock?_after`).
-/

namespace JarLens.Dependency

open JarLens.Text

/-! ## Requests -/

/-- A name is asked for that is not blank, maybe with white space around it. -/
structure Asks (names : List (Option Text)) (name : Text) : Prop where
  ne_nil : name ≠ []
  trimmed : IsTrimmed name
  mem : ∃ before after, AllBlank before ∧ AllBlank after ∧ some (before ++ name ++ after) ∈ names

variable {names names' : List (Option Text)} {name : Text}

/-- The normalized names are the names that are asked for once blanks are taken off. -/
theorem mem_normalizeNames : name ∈ normalizeNames names ↔ Asks names name := by
  have hmem : name ∈ normalizeNames names ↔ (∃ t, some t ∈ names ∧ strip t = name) ∧ name ≠ [] := by
    rw [normalizeNames, mem_sortTexts, mem_distinct, List.mem_filter, List.mem_filterMap]
    simp
  rw [hmem]
  constructor
  · rintro ⟨⟨t, ht, rfl⟩, hne⟩
    obtain ⟨before, after, hbefore, hafter, htrimmed, hsplit⟩ := exists_strip t
    exact ⟨hne, htrimmed, before, after, hbefore, hafter, hsplit ▸ ht⟩
  · rintro ⟨hne, htrimmed, before, after, hbefore, hafter, ht⟩
    exact ⟨⟨_, ht, strip_between hbefore htrimmed hafter⟩, hne⟩

/-- Order, repetition, blank names and white space around names make no difference. -/
theorem normalizeNames_eq_iff :
    normalizeNames names = normalizeNames names' ↔ ∀ name, Asks names name ↔ Asks names' name := by
  constructor
  · intro h name
    rw [← mem_normalizeNames, h, mem_normalizeNames]
  · intro h
    refine sortTexts_distinct_congr fun name => ?_
    have hname := h name
    rw [← mem_normalizeNames, ← mem_normalizeNames, normalizeNames, normalizeNames, mem_sortTexts,
      mem_sortTexts, mem_distinct, mem_distinct] at hname
    exact hname

/-- The key of a scan holds everything that is asked for but the query. -/
theorem ScanOptions.key_eq_iff {options options' : ScanOptions} {root root' : Text} :
    options.key root = options'.key root' ↔
      root = root' ∧ options.excludeTransitive = options'.excludeTransitive ∧
        options.includeLogTail = options'.includeLogTail ∧
        ∀ name, Asks options.configurations name ↔ Asks options'.configurations name := by
  rw [← normalizeNames_eq_iff, key, key, CacheKey.mk.injEq]
  constructor
  · rintro ⟨hroot, hexclude, hnames, htail⟩
    exact ⟨hroot, hexclude, htail, hnames⟩
  · rintro ⟨hroot, hexclude, htail, hnames⟩
    exact ⟨hroot, hexclude, hnames, htail⟩

/-! ## Histories of a cache -/

namespace Cache

/-- What is asked of a cache. -/
inductive Operation where
  | get (key : CacheKey)
  | put (key : CacheKey) (result : ScanResult)
  | lock (key : CacheKey)

/-- The cache after an operation. -/
def Operation.perform (c : Cache) : Operation → Cache
  | get _ => c
  | put key result => c.put key result
  | lock key => c.withLock key

/-- A new cache after the operations of a history, the earliest first. -/
def after (history : List Operation) : Cache :=
  history.foldl Operation.perform {}

/-- The result that an operation stores under a key. -/
def Operation.stores? (key : CacheKey) : Operation → Option ScanResult
  | put other result => if other = key then some result else none
  | _ => none

variable {c : Cache} {key key' : CacheKey} {operation : Operation} {history : List Operation}

theorem after_append (history later : List Operation) :
    after (history ++ later) = later.foldl Operation.perform (after history) :=
  List.foldl_append

theorem after_concat (history : List Operation) (operation : Operation) :
    after (history ++ [operation]) = operation.perform (after history) :=
  after_append history [operation]

/-- A key has the result that was stored last under this very key. -/
theorem get?_after (history : List Operation) (key : CacheKey) :
    (after history).get? key = history.reverse.findSome? (·.stores? key) := by
  induction history using List.reverseRecOn with
  | nil => rfl
  | append_singleton history operation ih =>
    rw [after_concat, List.reverse_append, List.reverse_singleton, List.singleton_append,
      List.findSome?_cons]
    cases operation with
    | get other => exact ih
    | lock other => exact (get?_withLock ..).trans ih
    | put other result =>
      simp only [Operation.perform, Operation.stores?, get?_put]
      by_cases hkey : other = key
      · simp [hkey]
      · have hne : ¬key = other := fun h => hkey h.symm
        simp only [hne, hkey, ↓reduceIte]
        exact ih

/-! ### Slots -/

/-- The keys with a result, the earliest first. -/
def keys (c : Cache) : List CacheKey :=
  c.results.map (·.1)

theorem isSome_get? : (c.get? key).isSome = true ↔ key ∈ c.keys := by
  rw [get?, List.lookup_isSome_iff, keys, List.mem_map]
  simp only [beq_iff_eq]
  exact exists_congr fun entry => and_congr_right fun _ => eq_comm

/-- Storing adds its key at the end, unless the key has a result already. -/
theorem keys_put (c : Cache) (key : CacheKey) (result : ScanResult) :
    (c.put key result).keys = if key ∈ c.keys then c.keys else c.keys ++ [key] := by
  unfold put
  by_cases h : key ∈ c.keys
  · rw [if_pos h, if_pos (isSome_get?.2 h), keys, keys, List.map_map]
    refine List.map_congr_left fun entry _ => ?_
    simp only [Function.comp_apply]
    split
    · next heq => exact heq.symm
    · rfl
  · rw [if_neg h, if_neg (mt isSome_get?.1 h), keys, keys, List.map_append]
    rfl

/-- A key has no second result. -/
theorem nodup_keys_after (history : List Operation) : (after history).keys.Nodup := by
  induction history using List.reverseRecOn with
  | nil => exact List.nodup_nil
  | append_singleton history operation ih =>
    rw [after_concat]
    cases operation with
    | get other => exact ih
    | lock other =>
      show ((after history).withLock other).keys.Nodup
      unfold withLock
      split <;> exact ih
    | put other result =>
      show ((after history).put other result).keys.Nodup
      rw [keys_put]
      split
      · exact ih
      · next hnew =>
        rw [← List.concat_eq_append]
        exact ih.concat hnew

/-! ### Locks -/

/-- No operation takes a key's lock away or changes it. -/
theorem lock?_perform {i : Nat} (h : c.lock? key = some i) :
    (operation.perform c).lock? key = some i := by
  cases operation with
  | get other => exact h
  | put other result => exact h
  | lock other => exact lock?_withLock_of_some h other

theorem lock?_foldl {i : Nat} (h : c.lock? key = some i) (later : List Operation) :
    (later.foldl Operation.perform c).lock? key = some i := by
  induction later generalizing c with
  | nil => exact h
  | cons operation later ih => exact ih (lock?_perform h)

/-- In one cache two keys have one lock only if they are the same key. -/
theorem lock?_inj {i j : Nat} (hi : c.lock? key = some i) (hj : c.lock? key' = some j) :
    i = j ↔ key = key' := by
  obtain ⟨hlt, hat, -⟩ := List.idxOf?_eq_some_iff.1 hi
  constructor
  · rintro rfl
    obtain ⟨_, hat', -⟩ := List.idxOf?_eq_some_iff.1 hj
    exact hat.symm.trans hat'
  · rintro rfl
    exact Option.some.inj (hi.symm.trans hj)

/-- The locks that are given out for two keys, with anything between, are the same lock if they are
given out for one key, and else they are not. -/
theorem lock?_after (history between : List Operation) (key key' : CacheKey) :
    ∃ i j, (after (history ++ [.lock key])).lock? key = some i ∧
      (after (history ++ [.lock key] ++ between ++ [.lock key'])).lock? key' = some j ∧
      (i = j ↔ key = key') := by
  have hfirst : ∃ i, (after (history ++ [.lock key])).lock? key = some i := by
    rw [after_concat]
    exact exists_lock?_withLock _ key
  have hsecond : ∃ j, (after (history ++ [.lock key] ++ between ++ [.lock key'])).lock? key' =
      some j := by
    rw [after_concat]
    exact exists_lock?_withLock _ key'
  obtain ⟨i, hi⟩ := hfirst
  obtain ⟨j, hj⟩ := hsecond
  have hkept : (after (history ++ [.lock key] ++ between ++ [.lock key'])).lock? key = some i := by
    rw [List.append_assoc _ between, after_append]
    exact lock?_foldl hi _
  exact ⟨i, j, hi, hj, lock?_inj hkept hj⟩

end Cache

end JarLens.Dependency
