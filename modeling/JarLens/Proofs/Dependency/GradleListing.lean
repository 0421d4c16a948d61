import JarLens.Dependency.GradleListing
import JarLens.Proofs.Dependency.FirstByPath
import JarLens.Proofs.Text.Cutting
import JarLens.Proofs.Text.Lines
import JarLens.Proofs.Text.Trimming

/-!
# What the listing task prints

Reading the output of the listing task finds the files that it listed. `Prints files printed` is an
output with a line for each of the files, in this order, and any other lines between them;
`ListedFile.LiesAt` says where in the module cache a file lies. The main statement is
`recordsOfGradle_of_prints`: one record for each path, for the file that was listed first with it,
and its coordinates are those of its place.
-/

namespace JarLens.Dependency

open JarLens.Text

/-! ## What is printed -/

/-- A resolved file as the listing task sees it. -/
structure ListedFile where
  configuration : Text
  fileName : Text
  path : Text
  deriving DecidableEq

/-- The line that lists a file. -/
def ListedFile.line (f : ListedFile) : Text :=
  gradleMarker ++ f.configuration ++ '|' :: f.fileName ++ '|' :: f.path

/-- A printed field: something, without white space at its ends, on one line. -/
structure IsPrintedField (t : Text) : Prop where
  ne_nil : t ≠ []
  trimmed : IsTrimmed t
  unbroken : IsUnbroken t

/-- The fields of a file can be told apart on its line. -/
structure ListedFile.IsListable (f : ListedFile) : Prop where
  configuration : IsPrintedField f.configuration
  configuration_bar : '|' ∉ f.configuration
  fileName : IsPrintedField f.fileName
  fileName_bar : '|' ∉ f.fileName
  /-- The file name holds no slash, as it is what follows the last one of the path. -/
  fileName_slash : '/' ∉ f.fileName
  path : IsPrintedField f.path

/-- Outputs that list the files in order, with any other lines before, between and after them. What
stands last may lack a line end, and be nothing. -/
inductive Prints : List ListedFile → Text → Prop
  | rest {line} (hline : IsUnbroken line) (hmarker : ¬startsWith (strip line) gradleMarker = true) :
      Prints [] line
  | listed {f files printed ending} (hf : f.IsListable) (hending : IsLineEnd ending)
      (h : Prints files printed) : Prints (f :: files) (f.line ++ ending ++ printed)
  | other {line files printed ending} (hline : IsUnbroken line)
      (hmarker : ¬startsWith (strip line) gradleMarker = true) (hending : IsLineEnd ending)
      (h : Prints files printed) : Prints files (line ++ ending ++ printed)

/-! ## Places in the module cache -/

/-- What the module cache's layout says about a file. -/
structure CachePlace where
  group : Text
  artifact : Text
  version : Text
  hash : Text
  classifier : Option Text
  /-- The extension, without its dot. -/
  extension : Text

namespace CachePlace

/-- The file's name without extension. -/
def stem (place : CachePlace) : Text :=
  place.artifact ++ '-' :: place.version ++
    (match place.classifier with
    | some classifier => '-' :: classifier
    | none => [])

/-- The path below the module cache. -/
def pathInCache (place : CachePlace) (fileName : Text) : Text :=
  join ['/'] [place.group, place.artifact, place.version, place.hash, fileName]

/-- The record of a file at this place. -/
def record (place : CachePlace) (f : ListedFile) : Record :=
  { group := place.group, artifact := place.artifact, packaging := place.extension
    classifier := place.classifier, version := place.version, scope := f.configuration
    path := f.path }

/-- A folder name of the module cache. -/
structure IsFolderName (t : Text) : Prop where
  ne_nil : t ≠ []
  slash_not_mem : '/' ∉ t

/-- The parts of a place can be told apart. -/
structure IsProper (place : CachePlace) : Prop where
  group : IsFolderName place.group
  artifact : IsFolderName place.artifact
  version : IsFolderName place.version
  hash : IsFolderName place.hash
  classifier : ∀ c ∈ place.classifier, c ≠ []
  extension_ne_nil : place.extension ≠ []
  extension_dot : '.' ∉ place.extension

end CachePlace

/-- The file is named as the module cache names it, and its path goes there from where the cache
first shows, backslashes being read as slashes. -/
structure ListedFile.LiesAt (f : ListedFile) (place : CachePlace) : Prop where
  proper : place.IsProper
  fileName_eq : f.fileName = place.stem ++ '.' :: place.extension
  path : ∃ root, FirstOccurs moduleCache root
    (place.pathInCache (replaceChar '\\' '/' f.fileName)) (replaceChar '\\' '/' f.path)

/-! ## Reading a line -/

/-- A marked line with a configuration, a name up to the next bar, and the rest as the path. -/
theorem ofGradleLine?_fields {configuration name rest : Text} (hne : configuration ≠ [])
    (htrimmed : IsTrimmed configuration) (hconfiguration : '|' ∉ configuration) (hname : '|' ∉ name)
    (hline : IsTrimmed (gradleMarker ++ configuration ++ '|' :: name ++ '|' :: rest)) :
    Record.ofGradleLine? (gradleMarker ++ configuration ++ '|' :: name ++ '|' :: rest) =
      if strip name = [] ∨ strip rest = [] then none
      else some (Record.ofResolvedFile configuration (strip name) (strip rest)) := by
  have hdrop : dropPrefix? gradleMarker
      (strip (gradleMarker ++ configuration ++ '|' :: name ++ '|' :: rest)) =
      some (configuration ++ '|' :: (name ++ '|' :: rest)) := by
    rw [strip_of_isTrimmed hline, dropPrefix?_eq_some]
    simp
  obtain ⟨p, ps, hrest⟩ := List.exists_cons_of_ne_nil (splitOn_ne_nil (c := '|') rest)
  have hfields : splitOn '|' (configuration ++ '|' :: (name ++ '|' :: rest)) =
      configuration :: name :: p :: ps := by
    rw [splitOn_cons_piece hconfiguration, splitOn_cons_piece hname, hrest]
  have hjoin : join ['|'] (p :: ps) = rest := by rw [← hrest, join_splitOn]
  unfold Record.ofGradleLine?
  rw [hdrop]
  simp [hfields, hjoin, strip_of_isTrimmed htrimmed, hne]

namespace ListedFile

variable {f : ListedFile}

theorem isTrimmed_line (hne : f.path ≠ []) (hlast : ∀ c ∈ f.path.getLast?, isBlank c = false) :
    IsTrimmed f.line := by
  refine ⟨fun c hc => ?_, fun c hc => hlast c ?_⟩
  · obtain rfl : 'J' = c := Option.some.inj hc
    decide
  · rwa [line, List.getLast?_append, List.getLast?_cons_of_ne_nil hne,
      Option.or_of_isSome (by simpa using hne)] at hc

theorem isUnbroken_line (hconfiguration : IsUnbroken f.configuration)
    (hname : IsUnbroken f.fileName) (hpath : IsUnbroken f.path) : IsUnbroken f.line := by
  have hbar : IsUnbroken ['|'] := by decide
  have hmarker : IsUnbroken gradleMarker := by decide
  have hline := (((hmarker.append hconfiguration).append hbar).append hname).append
    (hbar.append hpath)
  simpa [line] using hline

/-- The line of a file that can be listed is read as its record. -/
theorem IsListable.ofGradleLine?_line (h : f.IsListable) :
    Record.ofGradleLine? f.line =
      some (Record.ofResolvedFile f.configuration f.fileName f.path) := by
  rw [line, ofGradleLine?_fields h.configuration.ne_nil h.configuration.trimmed h.configuration_bar
    h.fileName_bar (isTrimmed_line h.path.ne_nil h.path.trimmed.last),
    strip_of_isTrimmed h.fileName.trimmed, strip_of_isTrimmed h.path.trimmed, if_neg]
  simp [h.fileName.ne_nil, h.path.ne_nil]

end ListedFile

theorem ofGradleLine?_of_not_startsWith {line : Text}
    (h : ¬startsWith (strip line) gradleMarker = true) : Record.ofGradleLine? line = none := by
  have hdrop : dropPrefix? gradleMarker (strip line) = none := by
    simpa [startsWith] using h
  rw [Record.ofGradleLine?, hdrop]
  rfl

/-- The lines that list a file are read, the others are passed over. -/
theorem Prints.filterMap_lines {files : List ListedFile} {printed : Text} (h : Prints files printed) :
    (lines printed).filterMap Record.ofGradleLine? =
      files.map fun f => Record.ofResolvedFile f.configuration f.fileName f.path := by
  induction h with
  | @rest line hline hmarker =>
    rw [lines_of_isUnbroken hline]
    cases line with
    | nil => rfl
    | cons c line => exact List.filterMap_cons_none (ofGradleLine?_of_not_startsWith hmarker)
  | listed hf hending _ ih =>
    have hline := ListedFile.isUnbroken_line hf.configuration.unbroken hf.fileName.unbroken
      hf.path.unbroken
    rw [lines_append hline hending, List.filterMap_cons, hf.ofGradleLine?_line, ih, List.map_cons]
  | other hline hmarker hending _ ih =>
    rw [lines_append hline hending, List.filterMap_cons, ofGradleLine?_of_not_startsWith hmarker, ih]

theorem Prints.isListable {files : List ListedFile} {printed : Text} (h : Prints files printed) :
    ∀ f ∈ files, f.IsListable := by
  induction h with
  | rest => simp
  | listed hf _ _ ih => exact List.forall_mem_cons.2 ⟨hf, ih⟩
  | other _ _ _ _ ih => exact ih

/-! ## Reading a place -/

/-- The extension starts at the last dot, unless only dots stand in front of it. -/
theorem splitExtension_append {stem extension : Text} (hslash : '/' ∉ stem ++ '.' :: extension)
    (hdot : '.' ∉ extension) (hstem : ∃ c ∈ stem, c ≠ '.') :
    splitExtension (stem ++ '.' :: extension) = (stem, '.' :: extension) := by
  have hany : stem.any (· != '.') = true := by simpa using hstem
  have hfolder : cutFolder (stem ++ '.' :: extension) = ([], stem ++ '.' :: extension) := by
    rw [cutFolder, cutLast?_of_not_mem hslash]
  unfold splitExtension
  rw [hfolder]
  simp [cutLast?_append hdot, hany]

namespace ListedFile

variable {f : ListedFile} {place : CachePlace}

theorem LiesAt.splitExtension_eq (h : f.LiesAt place) (hf : f.IsListable) :
    splitExtension f.fileName = (place.stem, '.' :: place.extension) := by
  have hslash := hf.fileName_slash
  rw [h.fileName_eq] at hslash ⊢
  refine splitExtension_append hslash h.proper.extension_dot ⟨'-', ?_, by decide⟩
  simp [CachePlace.stem]

/-- The classifier is what stands between version and extension. -/
theorem LiesAt.classifierOf?_eq (h : f.LiesAt place) (hf : f.IsListable) :
    classifierOf? place.artifact place.version f.fileName = place.classifier := by
  unfold classifierOf?
  rw [h.splitExtension_eq hf]
  have hproper := h.proper.classifier
  unfold CachePlace.stem
  cases hclassifier : place.classifier with
  | none =>
    have hdrop : dropPrefix? (place.artifact ++ '-' :: place.version ++ ['-'])
        (place.artifact ++ '-' :: place.version ++ []) = none := by
      rw [Option.eq_none_iff_forall_ne_some]
      intro rest hrest
      have hlength := congrArg List.length (dropPrefix?_eq_some.1 hrest)
      simp at hlength
    simp only [hdrop]
  | some classifier =>
    obtain ⟨c, rest, rfl⟩ := List.exists_cons_of_ne_nil (hproper classifier hclassifier)
    have hdrop : dropPrefix? (place.artifact ++ '-' :: place.version ++ ['-'])
        (place.artifact ++ '-' :: place.version ++ '-' :: c :: rest) = some (c :: rest) := by
      rw [dropPrefix?_eq_some]
      simp
    simp only [hdrop]

/-- The coordinates are read off the folders of the module cache. -/
theorem LiesAt.ofCachePath?_eq (h : f.LiesAt place) (hf : f.IsListable) :
    Coordinates.ofCachePath? f.path f.fileName =
      some { group := place.group, artifact := place.artifact, version := place.version
             classifier := place.classifier } := by
  obtain ⟨root, hroot⟩ := h.path
  obtain ⟨hgroup, hartifact, hversion, hhash, -, -, -⟩ := h.proper
  obtain ⟨piece, pieces, hname⟩ :=
    List.exists_cons_of_ne_nil (splitOn_ne_nil (c := '/') (replaceChar '\\' '/' f.fileName))
  have hparts : splitOn '/' (place.pathInCache (replaceChar '\\' '/' f.fileName)) =
      place.group :: place.artifact :: place.version :: place.hash :: piece :: pieces := by
    simp only [CachePlace.pathInCache, join, List.append_assoc, List.singleton_append]
    rw [splitOn_cons_piece hgroup.slash_not_mem, splitOn_cons_piece hartifact.slash_not_mem,
      splitOn_cons_piece hversion.slash_not_mem, splitOn_cons_piece hhash.slash_not_mem, hname]
  unfold Coordinates.ofCachePath?
  rw [cut?_eq_some.2 hroot]
  simp [hparts, hgroup.ne_nil, hartifact.ne_nil, hversion.ne_nil, h.classifierOf?_eq hf]

/-- A file in the module cache is recorded by its place there. -/
theorem LiesAt.ofResolvedFile_eq (h : f.LiesAt place) (hf : f.IsListable) :
    Record.ofResolvedFile f.configuration f.fileName f.path = place.record f := by
  obtain ⟨c, rest, hextension⟩ := List.exists_cons_of_ne_nil h.proper.extension_ne_nil
  have hdot : c ≠ '.' := by
    rintro rfl
    exact h.proper.extension_dot (by rw [hextension]; exact List.mem_cons_self)
  have hpackaging : orElseText (trimStart (· == '.') ('.' :: place.extension)) "jar".toList =
      place.extension := by
    simp [hextension, trimStart, hdot, orElseText]
  unfold Record.ofResolvedFile
  rw [h.splitExtension_eq hf, h.ofCachePath?_eq hf]
  simp only [hpackaging]
  rfl

end ListedFile

theorem path_ofResolvedFile (configuration fileName path : Text) :
    (Record.ofResolvedFile configuration fileName path).path = path := by
  unfold Record.ofResolvedFile
  dsimp only
  split <;> rfl

theorem scope_ofResolvedFile (configuration fileName path : Text) :
    (Record.ofResolvedFile configuration fileName path).scope = configuration := by
  unfold Record.ofResolvedFile
  dsimp only
  split <;> rfl

/-! ## Reading the output -/

/-- The output of the listing task is read as one record for each path, in the order in which the
paths were printed first. A record is that of the file printed first with its path, and if this file
lies in the module cache, it has the coordinates of its place. -/
theorem recordsOfGradle_of_prints {files : List ListedFile} {printed : Text}
    (h : Prints files printed) :
    (recordsOfGradle printed).map (·.path) = distinct (files.map (·.path)) ∧
    ∀ r ∈ recordsOfGradle printed, ∃ f, files.find? (·.path == r.path) = some f ∧
      r.scope = f.configuration ∧ ∀ place, f.LiesAt place → r = place.record f := by
  unfold recordsOfGradle
  rw [h.filterMap_lines]
  constructor
  · rw [map_path_firstByPath, List.map_map]
    congr 1
    exact List.map_congr_left fun f _ => path_ofResolvedFile _ _ _
  · intro r hr
    have hfind := find?_of_mem_firstByPath hr
    rw [List.find?_map, Option.map_eq_some_iff] at hfind
    obtain ⟨f, hfind, rfl⟩ := hfind
    refine ⟨f, ?_, scope_ofResolvedFile _ _ _, fun place hplace => ?_⟩
    · rw [← hfind]
      congr 1
      funext g
      rw [Function.comp_apply, path_ofResolvedFile, path_ofResolvedFile]
    · exact hplace.ofResolvedFile_eq (h.isListable f (List.mem_of_find?_eq_some hfind))

def nativeName : Text :=
  "epoll-native-4.1.Final-linux-x86.64.jar".toList

/-- A path in the module cache, below a folder with a bar in its name. -/
def nativePath : Text :=
  "/odd|home/modules-2/files-2.1/io.netty/epoll-native/4.1.Final/d7/".toList ++ nativeName

def nativeFile (configuration : Text) : ListedFile :=
  { configuration, fileName := nativeName, path := nativePath }

def nativePlace : CachePlace :=
  { group := "io.netty".toList, artifact := "epoll-native".toList, version := "4.1.Final".toList
    hash := "d7".toList, classifier := some "linux-x86.64".toList, extension := "jar".toList }

/-- The file in two configurations, with other lines between and at the end. -/
def nativeOutput : Text :=
  (nativeFile "compile".toList).line ++ ['\n'] ++
    ("> Task :app".toList ++ ['\r', '\n'] ++ ((nativeFile "runtime".toList).line ++ ['\n'] ++
      "BUILD SUCCESSFUL".toList))

/-- A native library that two configurations list, among other output. -/
theorem recordsOfGradle_nativeOutput :
    Prints [nativeFile "compile".toList, nativeFile "runtime".toList] nativeOutput ∧
    (nativeFile "compile".toList).LiesAt nativePlace ∧
    (recordsOfGradle nativeOutput).map (·.path) = [(nativeFile "compile".toList).path] ∧
    ∀ r ∈ recordsOfGradle nativeOutput, r = nativePlace.record (nativeFile "compile".toList) := by
  have hname : IsPrintedField nativeName := ⟨by decide, by decide, by decide⟩
  have hpath : IsPrintedField nativePath := ⟨by decide, by decide, by decide⟩
  have hfile : ∀ configuration, IsPrintedField configuration → '|' ∉ configuration →
      (nativeFile configuration).IsListable := fun configuration hfield hbar =>
    ⟨hfield, hbar, hname, show '|' ∉ nativeName by decide, show '/' ∉ nativeName by decide, hpath⟩
  have hcompile := hfile "compile".toList ⟨by decide, by decide, by decide⟩ (by decide)
  have hruntime := hfile "runtime".toList ⟨by decide, by decide, by decide⟩ (by decide)
  have hprints : Prints [nativeFile "compile".toList, nativeFile "runtime".toList] nativeOutput :=
    .listed hcompile .lineFeed
      (.other (by decide) (by decide) .both (.listed hruntime .lineFeed (.rest (by decide) (by decide))))
  have hplace : (nativeFile "compile".toList).LiesAt nativePlace :=
    { proper :=
        { group := ⟨by decide, by decide⟩
          artifact := ⟨by decide, by decide⟩
          version := ⟨by decide, by decide⟩
          hash := ⟨by decide, by decide⟩
          classifier := by decide
          extension_ne_nil := by decide
          extension_dot := by decide }
      fileName_eq := by decide
      path := ⟨"/odd|home".toList, cut?_eq_some.1 (by decide)⟩ }
  obtain ⟨hpaths, hrecords⟩ := recordsOfGradle_of_prints hprints
  refine ⟨hprints, hplace, by rw [hpaths]; decide, fun r hr => ?_⟩
  obtain ⟨f, hfind, -, hrecord⟩ := hrecords r hr
  have hmem := List.mem_map_of_mem (f := (·.path)) hr
  have hdistinct : r.path = nativePath := by simpa [hpaths, distinct, nativeFile] using hmem
  rw [hdistinct] at hfind
  obtain rfl : nativeFile "compile".toList = f := Option.some.inj (Eq.trans (by decide) hfind)
  exact hrecord nativePlace hplace

end JarLens.Dependency
