import JarLens.Dependency.Record
import JarLens.Proofs.Text.Sorting

/-!
# One record for each path

`firstByPath` keeps the paths in the order in which they first occur (`map_path_firstByPath`), each
with the first of its records (`find?_of_mem_firstByPath`). More records add those of their own
whose paths are new (`firstByPath_append`).
-/

namespace JarLens.Dependency

theorem firstByPath_singleton (r : Record) : firstByPath [r] = [r] := by
  simp [firstByPath, firstByUnseenPath]

/-- By induction over the records, their paths are kept in the order of their first appearance. -/
theorem map_path_firstByUnseenPath (records : List Record) (set : Std.HashSet Text)
    (seen : List Text) (h : ∀ path, set.contains path = seen.contains path) :
    (records.map (·.path)).foldl
        (fun seen path => if seen.contains path then seen else seen ++ [path]) seen =
      seen ++ (firstByUnseenPath set records).map (·.path) := by
  induction records generalizing set seen with
  | nil => simp [firstByUnseenPath]
  | cons r records ih =>
    rw [List.map_cons, List.foldl_cons, firstByUnseenPath, h r.path]
    split
    · exact ih set seen h
    · have hinsert : ∀ path,
          (set.insert r.path).contains path = (seen ++ [r.path]).contains path := by
        intro path
        rw [Std.HashSet.contains_insert, h, Bool.eq_iff_iff]
        simp only [Bool.or_eq_true, beq_iff_eq, List.contains_iff_mem, List.mem_append,
          List.mem_singleton]
        rw [or_comm, eq_comm (a := r.path)]
      rw [ih _ _ hinsert, List.map_cons, List.append_assoc, List.singleton_append]

theorem map_path_firstByPath (records : List Record) :
    (firstByPath records).map (·.path) = distinct (records.map (·.path)) := by
  have h := map_path_firstByUnseenPath records ∅ [] (by simp)
  rw [List.nil_append] at h
  exact h.symm

/-! ## One record in front of others -/

theorem firstByPath_cons_unseen (r : Record) (records : List Record) :
    firstByPath (r :: records) = r :: firstByUnseenPath (Std.HashSet.insert ∅ r.path) records := by
  simp [firstByPath, firstByUnseenPath]

/-- To have seen some paths before is to leave out their records at the end. -/
theorem firstByUnseenPath_eq_filter (set : Std.HashSet Text) (records : List Record) :
    firstByUnseenPath set records = (firstByPath records).filter (!set.contains ·.path) := by
  induction records generalizing set with
  | nil => rfl
  | cons r records ih =>
    rw [firstByPath_cons_unseen, ih (Std.HashSet.insert ∅ r.path), firstByUnseenPath, ih set,
      ih (set.insert r.path), List.filter_cons, List.filter_filter]
    cases hset : set.contains r.path with
    | true =>
      simp only [Bool.not_true, Bool.false_eq_true, if_false, if_true]
      refine List.filter_congr fun x _ => ?_
      by_cases hx : r.path = x.path
      · simp [← hx, hset]
      · simp [hx]
    | false =>
      simp only [Bool.not_false, Bool.false_eq_true, if_false, if_true, List.cons.injEq, true_and]
      refine List.filter_congr fun x _ => ?_
      simp [Std.HashSet.contains_insert, Bool.and_comm]

/-- The first record stays and takes all others of its path away. -/
theorem firstByPath_cons (r : Record) (records : List Record) :
    firstByPath (r :: records) = r :: (firstByPath records).filter (·.path ≠ r.path) := by
  rw [firstByPath_cons_unseen, firstByUnseenPath_eq_filter]
  refine congrArg (r :: ·) (List.filter_congr fun x _ => ?_)
  by_cases hx : x.path = r.path
  · simp [hx]
  · simp [hx, Ne.symm hx]

/-- The record kept for a path is the first one with it. -/
theorem find?_of_mem_firstByPath {records : List Record} {r : Record}
    (h : r ∈ firstByPath records) : records.find? (·.path == r.path) = some r := by
  induction records with
  | nil => cases h
  | cons x records ih =>
    rw [firstByPath_cons, List.mem_cons, List.mem_filter] at h
    rcases h with rfl | ⟨hr, hne⟩
    · simp
    · have hother : (x.path == r.path) = false :=
        beq_eq_false_iff_ne.2 (Ne.symm (of_decide_eq_true hne))
      rw [List.find?_cons, hother, ih hr]

/-- Of later records only those with new paths are left. -/
theorem firstByPath_append (xs ys : List Record) :
    firstByPath (xs ++ ys) =
      firstByPath xs ++ (firstByPath ys).filter (·.path ∉ xs.map (·.path)) := by
  induction xs with
  | nil =>
    rw [List.nil_append, List.map_nil, List.filter_eq_self.2 fun _ _ => by simp]
    rfl
  | cons x xs ih =>
    rw [List.cons_append, firstByPath_cons, ih, firstByPath_cons, List.filter_append,
      List.filter_filter, List.cons_append]
    refine congrArg (x :: _ ++ ·) (List.filter_congr fun y _ => ?_)
    simp

theorem mem_map_path_firstByPath {path : Text} {records : List Record} :
    path ∈ (firstByPath records).map (·.path) ↔ path ∈ records.map (·.path) := by
  rw [map_path_firstByPath, mem_distinct]

theorem nodup_map_path_firstByPath (records : List Record) :
    ((firstByPath records).map (·.path)).Nodup := by
  rw [map_path_firstByPath]
  exact nodup_distinct _

end JarLens.Dependency
