import JarLens.Proofs.Dependency.GradleListing

/-!
# Which paths come back from the listing task

The listing task escapes nothing, so the reader of its output tells the fields apart by the bars and
the lines by any line break. `recordsOfGradle_line_iff` says for which resolved files the path comes
back as it was printed: a bar is harmless in a folder and harmful in the file name, and a line break
of any kind is harmful everywhere.
-/

namespace JarLens.Dependency

open JarLens.Text

/-- A file as a build reports it: its configuration has a proper name, and its path is absolute and
ends with the file name. -/
structure ListedFile.IsReported (f : ListedFile) : Prop where
  configuration_ne_nil : f.configuration ≠ []
  configuration_trimmed : IsTrimmed f.configuration
  configuration_bar : '|' ∉ f.configuration
  fileName_ne_nil : f.fileName ≠ []
  path_absolute : f.path.head? = some '/'
  path_eq : ∃ folder, f.path = folder ++ '/' :: f.fileName

/-- The printed line can be read back: it is one line, the file name ends where the path starts, and
the path does not end with white space. -/
structure ListedFile.IsLegible (f : ListedFile) : Prop where
  configuration_unbroken : IsUnbroken f.configuration
  path_unbroken : IsUnbroken f.path
  path_last : ∀ c ∈ f.path.getLast?, isBlank c = false
  fileName_bar : '|' ∉ f.fileName

/-! ## Records and the lines they come from -/

/-- Every record comes from a line of its own. -/
theorem exists_of_mem_recordsOfGradle {printed : Text} {r : Record}
    (h : r ∈ recordsOfGradle printed) :
    ∃ line ∈ lines printed, Record.ofGradleLine? line = some r := by
  have hmem := List.mem_of_find?_eq_some (find?_of_mem_firstByPath h)
  exact List.mem_filterMap.1 hmem

theorem recordsOfGradle_single {line : Text} (h : IsUnbroken line) :
    recordsOfGradle (line ++ ['\n']) = (Record.ofGradleLine? line).toList := by
  rw [recordsOfGradle, lines_single h]
  cases hline : Record.ofGradleLine? line with
  | none => simp [hline, firstByPath, firstByUnseenPath]
  | some r => simp [hline, firstByPath_singleton]

/-- Scope and path of a record are stripped pieces of its line. -/
theorem exists_of_ofGradleLine? {line : Text} {r : Record} (h : Record.ofGradleLine? line = some r) :
    (∃ scope, scope ⊆ line ∧ r.scope = strip scope) ∧ ∃ path, path ⊆ line ∧ r.path = strip path := by
  unfold Record.ofGradleLine? at h
  obtain ⟨fields, hfields, h⟩ := Option.bind_eq_some_iff.1 h
  -- Path and scope are pieces of the fields, and these a part of the line.
  have hline : fields ⊆ line := by
    refine fun c hc => strip_subset line ?_
    rw [dropPrefix?_eq_some.1 hfields]
    exact List.mem_append_right _ hc
  split at h
  · next configuration fileName p ps hsplit =>
    have hjoin : fields = configuration ++ ['|'] ++ (fileName ++ ['|'] ++ join ['|'] (p :: ps)) := by
      rw [← join_splitOn (c := '|') fields, hsplit, join_cons (List.cons_ne_nil _ _),
        join_cons (List.cons_ne_nil _ _)]
    dsimp only at h
    split at h
    · cases h
    · obtain rfl := Option.some.inj h
      refine ⟨⟨configuration, fun c hc => hline ?_, scope_ofResolvedFile _ _ _⟩,
        join ['|'] (p :: ps), fun c hc => hline ?_, path_ofResolvedFile _ _ _⟩ <;>
      · rw [hjoin]
        simp [hc]
  · cases h

/-- No field of a record holds a line break, or has white space at its end, whatever was printed. -/
theorem fields_of_mem_recordsOfGradle {printed : Text} {r : Record}
    (h : r ∈ recordsOfGradle printed) :
    IsUnbroken r.scope ∧ IsUnbroken r.path ∧ IsTrimmed r.path := by
  obtain ⟨line, hmem, hline⟩ := exists_of_mem_recordsOfGradle h
  have hunbroken := isUnbroken_of_mem_lines hmem
  obtain ⟨⟨scope, hscope, hscope_eq⟩, path, hpath, hpath_eq⟩ := exists_of_ofGradleLine? hline
  rw [hscope_eq, hpath_eq]
  exact ⟨(hunbroken.mono hscope).mono (strip_subset scope),
    (hunbroken.mono hpath).mono (strip_subset path), isTrimmed_strip path⟩

/-! ## Reading a reported file -/

theorem bar_not_mem_of_allBlank {b : Text} (h : AllBlank b) : '|' ∉ b := by
  intro hmem
  cases h '|' hmem

namespace ListedFile

variable {f : ListedFile}

theorem IsReported.path_ne_nil (hf : f.IsReported) : f.path ≠ [] := by
  intro h
  have habsolute := hf.path_absolute
  rw [h] at habsolute
  cases habsolute

theorem IsReported.fileName_subset (hf : f.IsReported) : f.fileName ⊆ f.path := by
  obtain ⟨folder, hpath⟩ := hf.path_eq
  intro c hc
  rw [hpath]
  exact List.mem_append_right _ (List.mem_cons_of_mem _ hc)

theorem IsReported.getLast?_fileName (hf : f.IsReported) :
    f.fileName.getLast? = f.path.getLast? := by
  obtain ⟨folder, hpath⟩ := hf.path_eq
  rw [hpath, List.getLast?_append, List.getLast?_cons_of_ne_nil hf.fileName_ne_nil,
    Option.or_of_isSome (by simpa using hf.fileName_ne_nil)]

theorem IsReported.isTrimmed_path (hf : f.IsReported)
    (hlast : ∀ c ∈ f.path.getLast?, isBlank c = false) : IsTrimmed f.path := by
  refine ⟨fun c hc => ?_, hlast⟩
  rw [hf.path_absolute] at hc
  obtain rfl : '/' = c := Option.some.inj hc
  decide

/-- No line break comes in with the file's name, which is part of the path. -/
theorem IsReported.isUnbroken_line (hf : f.IsReported) (hconfiguration : IsUnbroken f.configuration)
    (hpath : IsUnbroken f.path) : IsUnbroken f.line :=
  ListedFile.isUnbroken_line hconfiguration (hpath.mono hf.fileName_subset) hpath

/-- White space in front of the file name is lost, and that of the path is not. -/
theorem IsReported.recordsOfGradle_line (hf : f.IsReported) (h : f.IsLegible) :
    recordsOfGradle (f.line ++ ['\n']) =
      [Record.ofResolvedFile f.configuration (strip f.fileName) f.path] := by
  have hname : strip f.fileName ≠ [] := by
    intro hnil
    have hmem := List.getLast_mem hf.fileName_ne_nil
    have hlast := h.path_last (f.fileName.getLast hf.fileName_ne_nil) (by
      rw [← hf.getLast?_fileName]
      exact List.getLast?_eq_some_getLast hf.fileName_ne_nil)
    rw [strip_eq_nil_iff.1 hnil _ hmem] at hlast
    cases hlast
  rw [recordsOfGradle_single (hf.isUnbroken_line h.configuration_unbroken h.path_unbroken), line,
    ofGradleLine?_fields hf.configuration_ne_nil hf.configuration_trimmed hf.configuration_bar
      h.fileName_bar (isTrimmed_line hf.path_ne_nil h.path_last),
    strip_of_isTrimmed (hf.isTrimmed_path h.path_last), if_neg (by simp [hname, hf.path_ne_nil])]
  rfl

/-- With a bar in the file name, the path that is read holds a part of the name and one bar more. -/
theorem IsReported.path_ne_of_bar (hf : f.IsReported) (hunbroken : IsUnbroken f.line)
    (hlast : ∀ c ∈ f.path.getLast?, isBlank c = false) (hbar : '|' ∈ f.fileName) :
    ∀ r ∈ recordsOfGradle (f.line ++ ['\n']), r.path ≠ f.path := by
  intro r hr
  obtain ⟨name, rest, hname, hname_bar⟩ := List.eq_append_cons_of_mem hbar
  have hline : f.line =
      gradleMarker ++ f.configuration ++ '|' :: name ++ '|' :: (rest ++ '|' :: f.path) := by
    simp [line, hname]
  have htrimmed := isTrimmed_line hf.path_ne_nil hlast
  rw [hline] at htrimmed
  rw [recordsOfGradle_single hunbroken, hline,
    ofGradleLine?_fields hf.configuration_ne_nil hf.configuration_trimmed hf.configuration_bar
      hname_bar htrimmed] at hr
  split at hr
  · cases hr
  · obtain rfl : r = _ := List.mem_singleton.1 hr
    rw [path_ofResolvedFile]
    intro hpath
    obtain ⟨before, after, hbefore, hafter, -, hsplit⟩ := exists_strip (rest ++ '|' :: f.path)
    rw [hpath] at hsplit
    -- The bar after the file name is one more than the path has, and white space holds none.
    have hcount := congrArg (List.count '|') hsplit
    simp only [List.count_append, List.count_cons_self,
      List.count_eq_zero_of_not_mem (bar_not_mem_of_allBlank hbefore),
      List.count_eq_zero_of_not_mem (bar_not_mem_of_allBlank hafter)] at hcount
    omega

end ListedFile

/-- A resolved file is read back with its path and configuration exactly if its line is legible. -/
theorem recordsOfGradle_line_iff {f : ListedFile} (hf : f.IsReported) :
    (∃ r, recordsOfGradle (f.line ++ ['\n']) = [r] ∧ r.path = f.path ∧ r.scope = f.configuration) ↔
      f.IsLegible := by
  constructor
  · rintro ⟨r, hr, hpath, hscope⟩
    have hmem : r ∈ recordsOfGradle (f.line ++ ['\n']) := hr ▸ List.mem_singleton_self r
    obtain ⟨hscope_unbroken, hpath_unbroken, htrimmed⟩ := fields_of_mem_recordsOfGradle hmem
    rw [hscope] at hscope_unbroken
    rw [hpath] at hpath_unbroken htrimmed
    have hunbroken := hf.isUnbroken_line hscope_unbroken hpath_unbroken
    exact ⟨hscope_unbroken, hpath_unbroken, htrimmed.last,
      fun hbar => hf.path_ne_of_bar hunbroken htrimmed.last hbar r hmem hpath⟩
  · intro h
    exact ⟨_, hf.recordsOfGradle_line h, path_ofResolvedFile _ _ _, scope_ofResolvedFile _ _ _⟩

/-- A file below a folder with a bar and blanks in its name, and a blank in front of its own. -/
def folderBarFile : ListedFile :=
  { configuration := "compile".toList, fileName := " b-1.jar".toList
    path := "/r/a| odd/ b-1.jar".toList }

/-- A file whose folders have bars and blanks in their names. -/
theorem recordsOfGradle_folderBarFile :
    folderBarFile.IsReported ∧ folderBarFile.IsLegible ∧
    ∃ r, recordsOfGradle (folderBarFile.line ++ ['\n']) = [r] ∧
      r.path = "/r/a| odd/ b-1.jar".toList ∧ r.scope = "compile".toList := by
  have hf : folderBarFile.IsReported :=
    ⟨by decide, by decide, by decide, by decide, by decide, "/r/a| odd".toList, by decide⟩
  have hlast : ∀ c ∈ folderBarFile.path.getLast?, isBlank c = false := by
    rintro c ⟨⟩
    decide
  have hlegible : folderBarFile.IsLegible := ⟨by decide, by decide, hlast, by decide⟩
  exact ⟨hf, hlegible, (recordsOfGradle_line_iff hf).2 hlegible⟩

/-- A file with a bar in its own name. -/
def barFile : ListedFile :=
  { configuration := "c".toList, fileName := "a|b-1.jar".toList, path := "/r/a|b-1.jar".toList }

/-- What follows the bar in the file name is read as the start of the path. -/
theorem recordsOfGradle_barFile :
    barFile.IsReported ∧ '\n' ∉ barFile.path ∧ '\r' ∉ barFile.path ∧
    (recordsOfGradle (barFile.line ++ ['\n'])).map (·.path) = ["b-1.jar|/r/a|b-1.jar".toList] ∧
    ¬∃ r, recordsOfGradle (barFile.line ++ ['\n']) = [r] ∧ r.path = barFile.path ∧
      r.scope = barFile.configuration := by
  have hf : barFile.IsReported :=
    ⟨by decide, by decide, by decide, by decide, by decide, "/r".toList, by decide⟩
  have hunbroken : IsUnbroken barFile.line := by decide
  refine ⟨hf, by decide, by decide, ?_, ?_⟩
  · rw [recordsOfGradle_single hunbroken]
    decide
  · rintro ⟨r, hr, hpath, -⟩
    have hlast : ∀ c ∈ barFile.path.getLast?, isBlank c = false := by
      rintro c ⟨⟩
      decide
    exact hf.path_ne_of_bar hunbroken hlast (by decide) r (hr ▸ List.mem_singleton_self r) hpath

end JarLens.Dependency
