import JarLens.Dependency.GradleListing
import JarLens.Dependency.MavenListing
import JarLens.Proofs.Dependency.FirstByPath
import JarLens.Proofs.Text.Lines

/-!
# Listings one after the other

A listing is read line by line, and a path belongs to the first line that gives it. Neither format
reads a record off an empty line, so that the record lists of two listings that are put together are
merged (`listings_merge`): the second one adds its records with new paths, and itself again nothing.
-/

namespace JarLens.Dependency

open JarLens.Text

/-- A reader of listings takes the records that its reader of lines gives, and of those with one
path the first. -/
structure MergesFirst (ofLine? : Text → Option Record) (read : Text → List Record) : Prop where
  /-- A listing that follows another one adds those of its records whose paths are new. -/
  append : ∀ a b, read (a ++ '\n' :: b) =
    read a ++ (read b).filter (·.path ∉ (read a).map (·.path))
  nodup : ∀ t, ((read t).map (·.path)).Nodup
  /-- A record is that of the first line that gives its path. -/
  first : ∀ t, ∀ r ∈ read t, ∃ before line after, lines t = before ++ line :: after ∧
    ofLine? line = some r ∧ ∀ l ∈ before, ∀ x, ofLine? l = some x → x.path ≠ r.path
  /-- No path of a line is lost. -/
  present : ∀ t, ∀ line ∈ lines t, ∀ r, ofLine? line = some r → ∃ x ∈ read t, x.path = r.path
  /-- A listing adds nothing to itself. -/
  repeated : ∀ t, read (t ++ '\n' :: t) = read t

section Reading

variable {ofLine? : Text → Option Record}

/-- What is found among the values of a list comes from the first place that gives such a value. -/
theorem exists_of_find?_filterMap {p : Record → Bool} {ls : List Text} {r : Record}
    (h : (ls.filterMap ofLine?).find? p = some r) :
    ∃ before line after, ls = before ++ line :: after ∧ ofLine? line = some r ∧
      ∀ l ∈ before, ∀ x, ofLine? l = some x → ¬p x = true := by
  obtain ⟨-, fronts, rest, hsplit, hbefore⟩ := List.find?_eq_some_iff_append.1 h
  obtain ⟨before, tail, rfl, rfl, htail⟩ := List.filterMap_eq_append_iff.1 hsplit
  obtain ⟨skipped, line, after, rfl, hskipped, hline, -⟩ := List.filterMap_eq_cons_iff.1 htail
  refine ⟨before ++ skipped, line, after, by simp, hline, fun l hl x hx => ?_⟩
  rcases List.mem_append.1 hl with hl | hl
  · simpa using hbefore x (List.mem_filterMap.2 ⟨l, hl, hx⟩)
  · rw [hskipped l hl] at hx
    cases hx

/-- The records of a listing whose lines are read by `ofLine?`, one for each path. -/
def recordsBy (ofLine? : Text → Option Record) (t : Text) : List Record :=
  firstByPath ((lines t).filterMap ofLine?)

theorem filterMap_lines_append (hempty : ofLine? [] = none) (a b : Text) :
    (lines (a ++ '\n' :: b)).filterMap ofLine? =
      (lines a).filterMap ofLine? ++ (lines b).filterMap ofLine? := by
  obtain ⟨gap, hgap, hlines⟩ := lines_append_lineFeed a b
  have hnone : gap.filterMap ofLine? = [] :=
    List.filterMap_eq_nil_iff.2 fun l hl => hgap l hl ▸ hempty
  rw [hlines, List.filterMap_append, List.filterMap_append, hnone, List.append_nil]

/-- Of a second listing only records with new paths are left. -/
theorem recordsBy_append (hempty : ofLine? [] = none) (a b : Text) :
    recordsBy ofLine? (a ++ '\n' :: b) = recordsBy ofLine? a ++
      (recordsBy ofLine? b).filter (·.path ∉ (recordsBy ofLine? a).map (·.path)) := by
  unfold recordsBy
  rw [filterMap_lines_append hempty, firstByPath_append]
  simp only [mem_map_path_firstByPath]

/-- Whatever lines are read as, records are merged if an empty line is read as none. -/
theorem mergesFirst_recordsBy (hempty : ofLine? [] = none) :
    MergesFirst ofLine? (recordsBy ofLine?) := by
  refine
    { append := recordsBy_append hempty, nodup := fun t => nodup_map_path_firstByPath _
      first := fun t r hr => ?_, present := fun t line hline r hr => ?_, repeated := fun t => ?_ }
  · obtain ⟨before, line, after, hlines, hline, hbefore⟩ :=
      exists_of_find?_filterMap (find?_of_mem_firstByPath hr)
    exact ⟨before, line, after, hlines, hline, fun l hl x hx => by simpa using hbefore l hl x hx⟩
  · have hmem : r.path ∈ ((lines t).filterMap ofLine?).map (·.path) :=
      List.mem_map_of_mem (List.mem_filterMap.2 ⟨line, hline, hr⟩)
    exact List.mem_map.1 (mem_map_path_firstByPath.2 hmem)
  · rw [recordsBy_append hempty, List.filter_eq_nil_iff.2 fun r hr => ?_, List.append_nil]
    simpa using ⟨r, hr, rfl⟩

end Reading

/-- Both formats read a path off the first line that gives it, so that listings are merged. -/
theorem listings_merge :
    MergesFirst Record.ofMavenLine? recordsOfMaven ∧
      MergesFirst Record.ofGradleLine? recordsOfGradle :=
  ⟨mergesFirst_recordsBy rfl, mergesFirst_recordsBy rfl⟩

end JarLens.Dependency
