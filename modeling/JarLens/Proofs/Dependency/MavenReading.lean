import JarLens.Proofs.Dependency.MavenListing

/-!
# What any line of a Maven listing is read as

`IsClean line said clean` tells without the reader what a line comes to: it says `said` once the log
label and the white space at its ends are gone, and `clean` is that up to the first remark on a
module. `PathCut` tells the fields of such a text from its path. The main statement is
`ofMavenLine?_loses_nothing`: a line is read exactly if it is no heading and has five fields before
its path, and the record with colons between its fields is the clean line again.
-/

namespace JarLens.Dependency

open JarLens.Text

/-! ## The clean line -/

/-- What a line says: the line without its log label and the white space at its ends. -/
inductive Says (line said : Text) : Prop
  | labelled {gap trail} (hgap : IsGap gap) (htrail : AllBlank trail) (hsaid : IsTrimmed said)
      (heq : line = "[INFO]".toList ++ gap ++ (said ++ trail))
  | plain {lead trail} (hlead : AllBlank lead) (htrail : AllBlank trail) (hsaid : IsTrimmed said)
      (heq : line = lead ++ said ++ trail)
      (hno : ∀ gap rest, IsGap gap → line ≠ "[INFO]".toList ++ gap ++ rest)

/-- The text is a remark on a module: the word with white space on both sides, after two dashes with
white space on both sides. -/
def IsRemark (t : Text) : Prop :=
  ∃ g₁ g₂ g₃ rest, IsGap g₁ ∧ IsGap g₂ ∧ IsGap g₃ ∧
    t = g₁ ++ ("--".toList ++ g₂ ++ "module".toList ++ g₃ ++ rest)

/-- What is said before the first remark on a module, which is all without one. -/
inductive Unremarked (said clean : Text) : Prop
  | cut {remark} (h : FirstWhere IsRemark clean remark said)
  | whole (heq : clean = said) (hno : ∀ v, v <:+ said → ¬IsRemark v)

/-- What is left of a line before its fields are told apart. -/
structure IsClean (line said clean : Text) : Prop where
  saying : Says line said
  unremarked : Unremarked said clean

/-! ## Fields and path -/

/-- The number of fields in a text, with colons between. -/
def fieldCount (t : Text) : Nat :=
  t.count ':' + 1

/-- A colon and a path that starts with a drive letter. -/
def IsDriveField (t : Text) : Prop :=
  ∃ path, t = ':' :: path ∧ IsDrivePath path

/-- The path is what follows the first colon that a drive letter comes after, or else the last
colon; the fields are what stands before this colon. -/
inductive PathCut (clean fields path : Text) : Prop
  | drive (h : FirstWhere IsDriveField fields (':' :: path) clean)
  | last (heq : clean = fields ++ ':' :: path) (hcolon : ':' ∉ path)
      (hno : ∀ v, v <:+ clean → ¬IsDriveField v)

theorem PathCut.eq {clean fields path : Text} (h : PathCut clean fields path) :
    clean = fields ++ ':' :: path := by
  cases h with
  | drive h => exact h.eq
  | last heq => exact heq

/-! ## Reading what a line says -/

theorem strip_trimStart (t : Text) : strip (trimStart isBlank t) = strip t := by
  obtain ⟨b, back, rfl, hb, hhead⟩ := exists_trimStart t
  unfold strip
  rw [trimStart_append hb, trimStart_of_head hhead, trimStart_of_head hhead]

/-- A label is dropped with the gap behind it. -/
theorem dropLogLabel_labelled {gap : Text} (hgap : IsGap gap) (rest : Text) :
    strip (dropLogLabel ("[INFO]".toList ++ gap ++ rest)) = strip rest := by
  obtain ⟨c, gap, rfl⟩ := List.exists_cons_of_ne_nil hgap.ne_nil
  have hc : isBlank c = true := hgap.blank c List.mem_cons_self
  have hgap' : AllBlank gap := fun d hd => hgap.blank d (List.mem_cons_of_mem c hd)
  have hdrop : dropPrefix? "[INFO]".toList ("[INFO]".toList ++ c :: gap ++ rest) =
      some (c :: (gap ++ rest)) := dropPrefix?_eq_some.2 (by simp)
  rw [dropLogLabel, hdrop]
  simp only [hc, if_true]
  rw [trimStart_append hgap', strip_trimStart]

theorem dropLogLabel_plain {line : Text}
    (hno : ∀ gap rest, IsGap gap → line ≠ "[INFO]".toList ++ gap ++ rest) :
    dropLogLabel line = line := by
  unfold dropLogLabel
  split
  · next c rest hdrop =>
    split
    · next hc =>
      have hgap : IsGap [c] := ⟨by simp, by simpa [AllBlank] using hc⟩
      exact absurd (by simpa using dropPrefix?_eq_some.1 hdrop) (hno [c] rest hgap)
    · rfl
  · rfl

theorem exists_said (line : Text) : ∃ said, Says line said := by
  by_cases h : ∃ gap rest, IsGap gap ∧ line = "[INFO]".toList ++ gap ++ rest
  · obtain ⟨gap, rest, hgap, rfl⟩ := h
    obtain ⟨lead, trail, hlead, htrail, htrimmed, hrest⟩ := exists_strip rest
    have hgap' : IsGap (gap ++ lead) :=
      ⟨by simp [hgap.ne_nil], fun c hc => (List.mem_append.1 hc).elim (hgap.blank c) (hlead c)⟩
    refine ⟨strip rest, .labelled hgap' htrail htrimmed ?_⟩
    conv => lhs; rw [hrest]
    simp only [List.append_assoc]
  · obtain ⟨lead, trail, hlead, htrail, htrimmed, hline⟩ := exists_strip line
    exact ⟨strip line, .plain hlead htrail htrimmed hline fun gap rest hgap heq =>
      h ⟨gap, rest, hgap, heq⟩⟩

/-- What a line says is what is left without its label and outer blanks. -/
theorem Says.eq {line said : Text} (h : Says line said) : said = strip (dropLogLabel line) := by
  have hnil : AllBlank [] := by simp [AllBlank]
  cases h with
  | labelled hgap htrail hsaid heq =>
    have hstrip := strip_between hnil hsaid htrail
    rw [heq, dropLogLabel_labelled hgap]
    exact hstrip.symm
  | plain hlead htrail hsaid heq hno =>
    rw [dropLogLabel_plain hno, heq, strip_between hlead hsaid htrail]

theorem Says.subset {line said : Text} (h : Says line said) : said ⊆ line := by
  intro c hc
  cases h with
  | labelled _ _ _ heq => simp [heq, hc]
  | plain _ _ _ heq _ => simp [heq, hc]

theorem Says.isTrimmed {line said : Text} (h : Says line said) : IsTrimmed said := by
  cases h with
  | labelled _ _ hsaid => exact hsaid
  | plain _ _ hsaid => exact hsaid

/-! ## The remark -/

/-- The test for a remark reads two dashes, a gap, the word and a gap. -/
theorem isModuleRemark_iff {t : Text} (hline : '\n' ∉ t) :
    isModuleRemark t = true ↔ ∃ g₂ g₃ rest, IsGap g₂ ∧ IsGap g₃ ∧
      t = "--".toList ++ g₂ ++ "module".toList ++ g₃ ++ rest := by
  constructor
  · intro h
    unfold isModuleRemark at h
    split at h
    · next c rest hdashes =>
      obtain ⟨b, back, rfl, hb, hhead⟩ := exists_trimStart rest
      rw [trimStart_append hb, trimStart_of_head hhead, Bool.and_eq_true] at h
      obtain ⟨hc, h⟩ := h
      split at h
      · next d remark hword =>
        rw [Bool.and_eq_true] at h
        have hgap : IsGap (c :: b) :=
          ⟨by simp, List.forall_mem_cons.2 ⟨hc, hb⟩⟩
        refine ⟨c :: b, [d], remark, hgap, ⟨by simp, by simpa [AllBlank] using h.1⟩, ?_⟩
        rw [dropPrefix?_eq_some.1 hdashes, dropPrefix?_eq_some.1 hword]
        simp
      · cases h
    · cases h
  · rintro ⟨g₂, g₃, rest, h₂, h₃, rfl⟩
    exact isModuleRemark_told h₂ h₃ fun hmem => hline (by simp [hmem])

theorem isRemark_cons_iff {c : Char} {t : Text} (hline : '\n' ∉ c :: t) :
    IsRemark (c :: t) ↔ (isBlank c && isModuleRemark (trimStart isBlank t)) = true := by
  have htrim : '\n' ∉ trimStart isBlank t := fun hmem =>
    hline (List.mem_cons_of_mem c ((List.dropWhile_sublist _).subset hmem))
  rw [Bool.and_eq_true, isModuleRemark_iff htrim]
  constructor
  · rintro ⟨g₁, g₂, g₃, rest, h₁, h₂, h₃, heq⟩
    obtain ⟨d, g₁, rfl⟩ := List.exists_cons_of_ne_nil h₁.ne_nil
    rw [List.cons_append] at heq
    obtain ⟨rfl, rfl⟩ := List.cons.inj heq
    refine ⟨h₁.blank c List.mem_cons_self, g₂, g₃, rest, h₂, h₃, ?_⟩
    rw [trimStart_append fun x hx => h₁.blank x (List.mem_cons_of_mem c hx), trimStart_of_head]
    intro x hx
    obtain rfl : '-' = x := by simpa using hx
    rfl
  · rintro ⟨hc, g₂, g₃, rest, h₂, h₃, htrim_eq⟩
    obtain ⟨b, back, rfl, hb, hhead⟩ := exists_trimStart t
    rw [trimStart_append hb, trimStart_of_head hhead] at htrim_eq
    exact ⟨c :: b, g₂, g₃, rest, ⟨by simp, List.forall_mem_cons.2 ⟨hc, hb⟩⟩, h₂, h₃, by
      rw [htrim_eq, List.cons_append]⟩

theorem not_isRemark_nil : ¬IsRemark [] := by
  rintro ⟨g₁, g₂, g₃, rest, h₁, -, -, heq⟩
  exact h₁.ne_nil (List.append_eq_nil_iff.1 heq.symm).1

/-- Dropping a remark leaves the part in front of the first remark. -/
theorem unremarked_dropModuleRemark {said : Text} (hline : '\n' ∉ said) :
    Unremarked said (dropModuleRemark said) := by
  induction said with
  | nil =>
    refine .whole rfl fun v hv => ?_
    rw [List.suffix_nil.1 hv]
    exact not_isRemark_nil
  | cons c said ih =>
    have hremark := isRemark_cons_iff hline
    rw [dropModuleRemark]
    split
    · next hc => exact .cut (.here (hremark.2 hc))
    · next hc =>
      have hnot : ¬IsRemark (c :: said) := fun h => hc (hremark.1 h)
      cases ih fun hmem => hline (List.mem_cons_of_mem c hmem) with
      | cut h => exact .cut (h.later hnot)
      | whole heq hno => exact .whole (by rw [heq]) (nowhere_cons_iff.2 ⟨hnot, hno⟩)

/-- There is one way only to take a remark off. -/
theorem Unremarked.unique {said clean clean' : Text} (h : Unremarked said clean)
    (h' : Unremarked said clean') : clean = clean' := by
  cases h with
  | cut h =>
    cases h' with
    | cut h' => exact (h.unique h').1
    | whole _ hno => exact absurd h.holds (hno _ ⟨_, h.eq.symm⟩)
  | whole heq hno =>
    cases h' with
    | cut h' => exact absurd h'.holds (hno _ ⟨_, h'.eq.symm⟩)
    | whole heq' _ => rw [heq, heq']

theorem Unremarked.isPrefix {said clean : Text} (h : Unremarked said clean) : clean <+: said := by
  cases h with
  | cut h => exact ⟨_, h.eq.symm⟩
  | whole heq => exact heq ▸ List.prefix_rfl

/-- White space before a remark is part of it. -/
theorem Unremarked.last {said clean : Text} (h : Unremarked said clean) (hsaid : IsTrimmed said) :
    ∀ c ∈ clean.getLast?, isBlank c = false := by
  cases h with
  | whole heq => exact heq ▸ hsaid.last
  | @cut remark h =>
    intro c hc
    rw [← Bool.not_eq_true]
    intro hblank
    obtain ⟨front, rfl⟩ := List.getLast?_eq_some_iff.1 hc
    obtain ⟨g₁, g₂, g₃, rest, h₁, h₂, h₃, hremark⟩ := h.holds
    have hlonger : IsRemark (c :: remark) := by
      refine ⟨c :: g₁, g₂, g₃, rest, ⟨by simp, ?_⟩, h₂, h₃, by rw [hremark, List.cons_append]⟩
      exact List.forall_mem_cons.2 ⟨hblank, h₁.blank⟩
    have hlength := h.first (c :: remark) ⟨front, by rw [h.eq]; simp⟩ hlonger
    exact absurd hlength (Nat.not_succ_le_self _)

/-- The reader cleans a line as it should. -/
theorem isClean_iff {line said clean : Text} (hline : '\n' ∉ line) :
    IsClean line said clean ↔
      said = strip (dropLogLabel line) ∧ clean = dropModuleRemark said := by
  have hsaid : '\n' ∉ strip (dropLogLabel line) := by
    obtain ⟨said, hsaying⟩ := exists_said line
    rw [← hsaying.eq]
    exact fun hmem => hline (hsaying.subset hmem)
  constructor
  · rintro ⟨hsaying, hclean⟩
    obtain rfl := hsaying.eq
    exact ⟨rfl, hclean.unique (unremarked_dropModuleRemark hsaid)⟩
  · rintro ⟨rfl, rfl⟩
    obtain ⟨said, hsaying⟩ := exists_said line
    exact ⟨hsaying.eq ▸ hsaying, unremarked_dropModuleRemark hsaid⟩

/-! ## Reading the path -/

theorem isDriveField_cons_iff {c : Char} {t : Text} :
    IsDriveField (c :: t) ↔ c = ':' ∧ startsWithDrive t = true := by
  rw [startsWithDrive_iff]
  constructor
  · rintro ⟨path, heq, hpath⟩
    obtain ⟨rfl, rfl⟩ := List.cons.inj heq
    exact ⟨rfl, hpath⟩
  · rintro ⟨rfl, hpath⟩
    exact ⟨t, rfl, hpath⟩

theorem not_isDriveField_nil : ¬IsDriveField [] := by
  rintro ⟨path, heq, -⟩
  cases heq

/-- The cut is in front of the first field that starts with a drive, if there is one. -/
theorem cutAtDrive?_cases {t : Text} (hline : '\n' ∉ t) :
    (∃ fields path, cutAtDrive? t = some (fields, path) ∧
      FirstWhere IsDriveField fields (':' :: path) t) ∨
    (cutAtDrive? t = none ∧ ∀ v, v <:+ t → ¬IsDriveField v) := by
  induction t with
  | nil =>
    refine .inr ⟨rfl, fun v hv => ?_⟩
    rw [List.suffix_nil.1 hv]
    exact not_isDriveField_nil
  | cons c t ih =>
    have hrest : '\n' ∉ t := fun hmem => hline (List.mem_cons_of_mem c hmem)
    by_cases hfield : IsDriveField (c :: t)
    · obtain ⟨rfl, hdrive⟩ := isDriveField_cons_iff.1 hfield
      exact .inl ⟨[], t, by simp [cutAtDrive?, hdrive, hrest], .here hfield⟩
    · have hstep : cutAtDrive? (c :: t) = (cutAtDrive? t).map fun cut => (c :: cut.1, cut.2) := by
        rw [cutAtDrive?, if_neg]
        simpa [hrest] using mt isDriveField_cons_iff.2 hfield
      rw [hstep]
      rcases ih hrest with ⟨fields, path, hcut, hfirst⟩ | ⟨hcut, hno⟩
      · exact .inl ⟨c :: fields, path, by rw [hcut]; rfl, hfirst.later hfield⟩
      · exact .inr ⟨by rw [hcut]; rfl, nowhere_cons_iff.2 ⟨hfield, hno⟩⟩

/-- The reader cuts off the path as it should. -/
theorem cutPath?_eq_some {clean fields path : Text} (hline : '\n' ∉ clean) :
    cutPath? clean = some (fields, path) ↔ PathCut clean fields path := by
  unfold cutPath?
  rcases cutAtDrive?_cases hline with ⟨fields', path', hcut, hfirst⟩ | ⟨hcut, hno⟩
  · rw [hcut]
    constructor
    · intro h
      cases h
      exact .drive hfirst
    · intro h
      cases h with
      | drive h =>
        obtain ⟨rfl, hpath⟩ := hfirst.unique h
        rw [(List.cons.inj hpath).2]
        rfl
      | last _ _ hno => exact absurd hfirst.holds (hno _ ⟨_, hfirst.eq.symm⟩)
  · rw [hcut]
    show cutLast? ':' clean = some (fields, path) ↔ _
    rw [cutLast?_eq_some]
    constructor
    · rintro ⟨heq, hcolon⟩
      exact .last heq hcolon hno
    · intro h
      cases h with
      | drive h => exact absurd h.holds (hno _ ⟨_, h.eq.symm⟩)
      | last heq hcolon _ => exact ⟨heq, hcolon⟩

/-! ## Reading the fields -/

/-- The record has the fields in order: joined they are `fields`, only the group may hold colons, and
there is no classifier where there are just five. -/
structure Record.HasFields (r : Record) (fields : Text) : Prop where
  joined : r.mavenFields = fields
  colon_not_mem : ∀ field ∈ [r.artifact, r.packaging, r.version, r.scope] ++ r.classifier.toList,
    ':' ∉ field
  classifier : r.classifier = none ↔ fieldCount fields = 5

theorem recordOfFields?_isSome {path : Text} {pieces : List Text} (h : 5 ≤ pieces.length) :
    (recordOfFields? path pieces).isSome = true := by
  match pieces, h with
  | [_, _, _, _, _], _ => rfl
  | _ :: _ :: _ :: _ :: _ :: _ :: _, _ => rfl

/-- A record that is read has exactly the fields that stand there. -/
theorem hasFields_of_recordOfFields? {path fields : Text} {r : Record}
    (h : recordOfFields? path (splitOn ':' fields).reverse = some r) :
    r.path = path ∧ r.HasFields fields ∧ 5 ≤ fieldCount fields := by
  have hcount : fieldCount fields = (splitOn ':' fields).reverse.length := by
    rw [List.length_reverse, length_splitOn, fieldCount]
  have hjoin : join [':'] (splitOn ':' fields).reverse.reverse = fields := by
    rw [List.reverse_reverse, join_splitOn]
  have hpieces : ∀ piece ∈ (splitOn ':' fields).reverse, ':' ∉ piece := by
    intro piece hpiece hcolon
    have hsep := not_sep_of_mem_splitBy (List.mem_reverse.1 hpiece) ':' hcolon
    cases hsep
  generalize (splitOn ':' fields).reverse = pieces at h hcount hjoin hpieces
  unfold recordOfFields? at h
  split at h
  · next scope version classifier packaging artifact group groups =>
    obtain rfl := Option.some.inj h
    simp only [List.forall_mem_cons] at hpieces
    obtain ⟨hscope, hversion, hclassifier, hpackaging, hartifact, -⟩ := hpieces
    refine ⟨rfl, ⟨?_, ?_, ?_⟩, ?_⟩
    · rw [← hjoin]
      show join [':'] [join [':'] (group :: groups).reverse, artifact, packaging, classifier, version,
        scope] = _
      have hreverse : (scope :: version :: classifier :: packaging :: artifact :: group :: groups).reverse =
          (group :: groups).reverse ++ [artifact, packaging, classifier, version, scope] := by simp
      rw [hreverse, join_append (by simp) (by simp), join_cons (by simp)]
    · simp [hscope, hversion, hclassifier, hpackaging, hartifact]
    · simp [hcount]
    · simp [hcount]
  · next scope version packaging artifact group =>
    obtain rfl := Option.some.inj h
    simp only [List.forall_mem_cons] at hpieces
    obtain ⟨hscope, hversion, hpackaging, hartifact, -⟩ := hpieces
    refine ⟨rfl, ⟨hjoin, ?_, ?_⟩, ?_⟩
    · simp [hscope, hversion, hpackaging, hartifact]
    · simp [hcount]
    · simp [hcount]
  · cases h

/-! ## Reading a line -/

theorem isHeading_eq_false_iff {said : Text} : isHeading said = false ↔
    ¬startsWith said "---".toList = true ∧ ¬startsWith said "The following".toList = true := by
  rw [isHeading, Bool.or_eq_false_iff, Bool.not_eq_true, Bool.not_eq_true]

theorem PathCut.exists_strip {clean fields path : Text} (h : PathCut clean fields path)
    (hlast : ∀ c ∈ clean.getLast?, isBlank c = false) :
    ∃ blank, AllBlank blank ∧ path = blank ++ strip path := by
  obtain ⟨before, after, hbefore, hafter, -, hsplit⟩ := Text.exists_strip path
  cases List.eq_nil_or_concat after with
  | inl hnil =>
    rw [hnil, List.append_nil] at hsplit
    exact ⟨before, hbefore, hsplit⟩
  | inr hconcat =>
    -- White space at the end of the path would be at the end of the line.
    obtain ⟨front, c, rfl⟩ := hconcat
    have hc := hlast c (by rw [h.eq, hsplit]; simp [List.getLast?_cons])
    rw [hafter c (by simp)] at hc
    cases hc

/-- A clean line gives a record exactly if it is no heading, has a path, and its fields make one. -/
theorem ofMavenLine?_eq_some_iff {line said clean : Text} {r : Record} (hline : '\n' ∉ line)
    (h : IsClean line said clean) :
    Record.ofMavenLine? line = some r ↔ isHeading said = false ∧ ∃ fields path,
      PathCut clean fields path ∧
      recordOfFields? (strip path) (splitOn ':' fields).reverse = some r := by
  obtain ⟨hsaid, hclean⟩ := (isClean_iff hline).1 h
  have hcut : '\n' ∉ clean := fun hmem =>
    hline (h.saying.subset (h.unremarked.isPrefix.subset hmem))
  unfold Record.ofMavenLine?
  dsimp only
  rw [← hsaid, ← hclean]
  cases hheading : isHeading said with
  | true => simp
  | false =>
    simp only [Bool.false_eq_true, if_false, true_and]
    rw [Option.bind_eq_bind, Option.bind_eq_some_iff]
    simp only [Prod.exists, cutPath?_eq_some hcut]

/-- A record comes back from its line: its fields and its path with colons between are the clean line
but for white space that the path starts with. A line is read exactly if it says something, is no
heading and has five fields before its path. -/
theorem ofMavenLine?_loses_nothing {line : Text} (hline : '\n' ∉ line) :
    (∃ said clean, IsClean line said clean) ∧
    ∀ said clean, IsClean line said clean →
      (∀ r, Record.ofMavenLine? line = some r → ∃ fields path blank, PathCut clean fields path ∧
        r.HasFields fields ∧ AllBlank blank ∧ path = blank ++ r.path ∧
        clean = r.mavenFields ++ ':' :: (blank ++ r.path)) ∧
      ((Record.ofMavenLine? line).isSome = true ↔
        said ≠ [] ∧ ¬startsWith said "---".toList = true ∧
        ¬startsWith said "The following".toList = true ∧
        ∃ fields path, PathCut clean fields path ∧ 5 ≤ fieldCount fields) := by
  refine ⟨⟨_, _, (isClean_iff hline).2 ⟨rfl, rfl⟩⟩, fun said clean hclean => ?_⟩
  have hlast := hclean.unremarked.last hclean.saying.isTrimmed
  constructor
  · intro r hr
    obtain ⟨-, fields, path, hcut, hfields⟩ := (ofMavenLine?_eq_some_iff hline hclean).1 hr
    obtain ⟨hpath, hhas, -⟩ := hasFields_of_recordOfFields? hfields
    obtain ⟨blank, hblank, hstrip⟩ := hcut.exists_strip hlast
    rw [← hpath] at hstrip
    exact ⟨fields, path, blank, hcut, hhas, hblank, hstrip, by rw [hhas.joined, ← hstrip, hcut.eq]⟩
  · rw [Option.isSome_iff_exists]
    simp only [ofMavenLine?_eq_some_iff hline hclean]
    constructor
    · rintro ⟨r, hheading, fields, path, hcut, hfields⟩
      obtain ⟨hdashes, hfollowing⟩ := isHeading_eq_false_iff.1 hheading
      have hcount := (hasFields_of_recordOfFields? hfields).2.2
      refine ⟨?_, hdashes, hfollowing, fields, path, hcut, hcount⟩
      rintro rfl
      have hnil := List.prefix_nil.1 hclean.unremarked.isPrefix
      rw [hnil] at hcut
      cases List.append_eq_nil_iff.1 hcut.eq.symm |>.2
    · rintro ⟨-, hdashes, hfollowing, fields, path, hcut, hcount⟩
      rw [fieldCount, ← length_splitOn, ← List.length_reverse] at hcount
      obtain ⟨r, hr⟩ := Option.isSome_iff_exists.1 (recordOfFields?_isSome hcount)
      exact ⟨r, isHeading_eq_false_iff.2 ⟨hdashes, hfollowing⟩, fields, path, hcut, hr⟩

/-- A line with colons in its group, two empty fields and a letter for a drive. -/
def emptyFieldsLine : Text :=
  "[INFO]\ta:b:c::: 1:compile:d:/x -- module m".toList

/-- A line with empty fields, a blank in front of a version, and a remark. -/
theorem ofMavenLine?_emptyFieldsLine :
    '\n' ∉ emptyFieldsLine ∧
    IsClean emptyFieldsLine "a:b:c::: 1:compile:d:/x -- module m".toList
      "a:b:c::: 1:compile:d:/x".toList ∧
    ∃ r blank, Record.ofMavenLine? emptyFieldsLine = some r ∧ r.classifier = some [] ∧
      "a:b:c::: 1:compile:d:/x".toList = r.mavenFields ++ ':' :: (blank ++ r.path) := by
  have hline : '\n' ∉ emptyFieldsLine := by decide
  have hclean : IsClean emptyFieldsLine "a:b:c::: 1:compile:d:/x -- module m".toList
      "a:b:c::: 1:compile:d:/x".toList := (isClean_iff hline).2 ⟨by decide, by decide⟩
  obtain ⟨hrecord, hsome⟩ := (ofMavenLine?_loses_nothing hline).2 _ _ hclean
  obtain ⟨r, hr⟩ := Option.isSome_iff_exists.1 (hsome.2 ⟨by decide, by decide, by decide,
    "a:b:c::: 1:compile".toList, "d:/x".toList, (cutPath?_eq_some (by decide)).1 (by decide),
    by decide⟩)
  obtain ⟨-, -, blank, -, -, -, -, hjoin⟩ := hrecord r hr
  have hclassifier : (Record.ofMavenLine? emptyFieldsLine).map (·.classifier) = some (some []) := by
    decide
  rw [hr] at hclassifier
  exact ⟨hline, hclean, r, blank, hr, Option.some.inj hclassifier, hjoin⟩

end JarLens.Dependency
