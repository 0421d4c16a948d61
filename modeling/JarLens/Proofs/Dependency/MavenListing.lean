import JarLens.Dependency.MavenListing
import JarLens.Proofs.Text.Cutting
import JarLens.Proofs.Text.Trimming

/-!
# Lines of Maven listings

What Maven writes for a record, and that reading a line finds the record again. `MavenLine r` are
the raw lines for `r`: the fields with colons between, maybe after a log label and before a remark
on a module. `Record.IsListable` is what makes them unambiguous: no field but the group and the path
holds a colon, and only the path holds a slash, so that no drive letter shows before it. The main
statement is `ofMavenLine?_eq_some`.
-/

namespace JarLens.Dependency

open JarLens.Text

/-! ## How a record is listed -/

/-- The fields of a record before its path, with colons between. -/
def Record.mavenFields (r : Record) : Text :=
  join [':'] ([r.group, r.artifact, r.packaging] ++ r.classifier.toList ++ [r.version, r.scope])

/-- White space, at least one character. -/
structure IsGap (t : Text) : Prop where
  ne_nil : t ≠ []
  blank : AllBlank t

/-- The log label and the white space after it, or nothing. -/
inductive LogLabel : Text → Prop
  | none : LogLabel []
  | info {gap} (h : IsGap gap) : LogLabel ("[INFO]".toList ++ gap)

/-- The remark on a module that newer versions write, or nothing. What is told of the module is not
blank and stays on the line. -/
inductive ModuleRemark : Text → Prop
  | none : ModuleRemark []
  | told {g₁ g₂ g₃ name} (h₁ : IsGap g₁) (h₂ : IsGap g₂) (h₃ : IsGap g₃) (hname : ¬AllBlank name)
      (hline : '\n' ∉ name) :
      ModuleRemark (g₁ ++ "--".toList ++ g₂ ++ "module".toList ++ g₃ ++ name)

/-- The raw lines by which Maven lists a record. -/
inductive MavenLine (r : Record) : Text → Prop
  | listed {label lead remark trail} (hlabel : LogLabel label) (hlead : AllBlank lead)
      (hremark : ModuleRemark remark) (htrail : AllBlank trail) :
      MavenLine r (label ++ lead ++ (r.mavenFields ++ ':' :: r.path) ++ remark ++ trail)

/-- A word stands in a text with white space or an end of the text on both sides. -/
def StandsIn (word t : Text) : Prop :=
  ∃ before after, t = before ++ word ++ after ∧ (∀ c ∈ before.getLast?, isBlank c = true) ∧
    ∀ c ∈ after.head?, isBlank c = true

/-- A field that is not empty and holds neither colon, slash nor white space. -/
structure IsPlainField (t : Text) : Prop where
  ne_nil : t ≠ []
  plain : ∀ c ∈ t, c ≠ ':' ∧ c ≠ '/' ∧ c ≠ '\\' ∧ isBlank c = false

instance (t : Text) : Decidable (IsPlainField t) :=
  have : Decidable (∀ c ∈ t, c ≠ ':' ∧ c ≠ '/' ∧ c ≠ '\\' ∧ isBlank c = false) :=
    List.decidableBAll _ t
  decidable_of_iff (t ≠ [] ∧ ∀ c ∈ t, c ≠ ':' ∧ c ≠ '/' ∧ c ≠ '\\' ∧ isBlank c = false)
    ⟨fun h => ⟨h.1, h.2⟩, fun h => ⟨h.ne_nil, h.plain⟩⟩

/-- A path from the root, without colons. -/
structure IsRootedPath (t : Text) : Prop where
  head : t.head? = some '/'
  colon_not_mem : ':' ∉ t

/-- A path that starts with a drive letter. -/
def IsDrivePath (t : Text) : Prop :=
  ∃ letter slash rest, letter.isAlpha = true ∧ (slash = '/' ∨ slash = '\\') ∧
    t = letter :: ':' :: slash :: rest

/-- The record has one reading in a listing. -/
structure Record.IsListable (r : Record) : Prop where
  group_ne_nil : r.group ≠ []
  group_plain : ∀ c ∈ r.group, c ≠ '/' ∧ c ≠ '\\' ∧ isBlank c = false
  group_dashes : ¬startsWith r.group "---".toList = true
  /-- Colons in the group can be told from those between fields where there is a classifier. -/
  group_colon : ':' ∈ r.group → r.classifier ≠ none
  artifact : IsPlainField r.artifact
  packaging : IsPlainField r.packaging
  classifier : ∀ t ∈ r.classifier, IsPlainField t
  version : IsPlainField r.version
  scope : IsPlainField r.scope
  /-- One letter before a path would be a drive. -/
  scope_length : 2 ≤ r.scope.length
  path_trimmed : IsTrimmed r.path
  path_line : '\n' ∉ r.path
  path_dashes : ¬StandsIn "--".toList r.path
  path_shape : IsRootedPath r.path ∨ IsDrivePath r.path

/-! ## The fields -/

theorem IsPlainField.colon_not_mem {t : Text} (h : IsPlainField t) : ':' ∉ t :=
  fun hc => (h.plain ':' hc).1 rfl

namespace Record

variable {r : Record}

/-- The fields after the group. -/
def laterFields (r : Record) : Text :=
  join [':'] ([r.artifact, r.packaging] ++ r.classifier.toList ++ [r.version, r.scope])

theorem mavenFields_eq (r : Record) : r.mavenFields = r.group ++ ':' :: r.laterFields := by
  unfold mavenFields laterFields
  rw [List.cons_append, List.cons_append, join_cons (by simp)]
  simp

/-- No field of a record that can be listed holds a slash or a blank. -/
theorem IsListable.mem_mavenFields (h : r.IsListable) {c : Char} (hc : c ∈ r.mavenFields) :
    c ≠ '/' ∧ c ≠ '\\' ∧ isBlank c = false := by
  rcases mem_join hc with hsep | ⟨field, hfield, hc⟩
  · rw [List.mem_singleton] at hsep
    subst hsep
    decide
  · have hplain : field = r.group ∨ IsPlainField field := by
      simp only [List.cons_append, List.nil_append, List.mem_cons, List.mem_append,
        Option.mem_toList, List.not_mem_nil, or_false] at hfield
      rcases hfield with rfl | rfl | rfl | hfield | rfl | rfl
      · exact .inl rfl
      · exact .inr h.artifact
      · exact .inr h.packaging
      · exact .inr (h.classifier field hfield)
      · exact .inr h.version
      · exact .inr h.scope
    rcases hplain with rfl | hplain
    · exact h.group_plain c hc
    · exact (hplain.plain c hc).2

/-- The scope stands last, behind the last colon. -/
theorem exists_mavenFields_scope (r : Record) : ∃ front, r.mavenFields = front ++ ':' :: r.scope := by
  refine ⟨join [':'] ([r.group, r.artifact, r.packaging] ++ r.classifier.toList ++ [r.version]), ?_⟩
  unfold mavenFields
  rw [show [r.version, r.scope] = [r.version] ++ [r.scope] from rfl, ← List.append_assoc,
    join_append (by simp) (by simp)]
  simp [join]

/-- The last field has more than one character. -/
theorem IsListable.ne_singleton (h : r.IsListable) {u v : Text} (heq : r.mavenFields = u ++ ':' :: v)
    (x : Char) : v ≠ [x] := by
  rintro rfl
  obtain ⟨front, hfront⟩ := r.exists_mavenFields_scope
  obtain ⟨s, a, b, hscope⟩ : ∃ s a b, r.scope = s ++ [a, b] := by
    have hlength := h.scope_length
    obtain ⟨s, b, hs⟩ := List.eq_nil_or_concat r.scope |>.resolve_left h.scope.ne_nil
    have hne : s ≠ [] := by
      rintro rfl
      simp [hs] at hlength
    obtain ⟨s', a, hs'⟩ := List.eq_nil_or_concat s |>.resolve_left hne
    exact ⟨s', a, b, by rw [hs, hs']; simp⟩
  rw [hfront, hscope] at heq
  have hcolon : a = ':' := by
    have hback := congrArg List.reverse heq
    simp only [List.reverse_append, List.reverse_cons, List.reverse_nil, List.nil_append,
      List.cons_append, List.append_assoc, List.cons.injEq] at hback
    exact hback.2.1
  exact h.scope.colon_not_mem (by rw [hscope, hcolon]; simp)

/-- The fields are read back from behind, so that the classifier is known by their number. -/
theorem recordOfFields?_mavenFields (h : r.IsListable) :
    recordOfFields? r.path (splitOn ':' r.mavenFields).reverse = some r := by
  obtain ⟨group, artifact, packaging, classifier, version, scope, path⟩ := r
  have hartifact := h.artifact.colon_not_mem
  have hpackaging := h.packaging.colon_not_mem
  have hversion := h.version.colon_not_mem
  have hscope := h.scope.colon_not_mem
  cases classifier with
  | none =>
    have hgroup : ':' ∉ group := fun hc => h.group_colon hc rfl
    have hfields : splitOn ':' (mavenFields ⟨group, artifact, packaging, none, version, scope, path⟩) =
        [group, artifact, packaging, version, scope] := by
      simp only [mavenFields, Option.toList_none, List.append_nil, List.cons_append,
        List.nil_append, join, List.append_assoc]
      rw [splitOn_cons_piece hgroup, splitOn_cons_piece hartifact, splitOn_cons_piece hpackaging,
        splitOn_cons_piece hversion, splitOn_of_not_mem hscope]
    rw [hfields]
    rfl
  | some classifier =>
    have hclassifier := (h.classifier classifier rfl).colon_not_mem
    have hfields : splitOn ':'
        (mavenFields ⟨group, artifact, packaging, some classifier, version, scope, path⟩) =
        splitOn ':' group ++ [artifact, packaging, classifier, version, scope] := by
      simp only [mavenFields, Option.toList_some, List.cons_append, List.nil_append, join,
        List.append_assoc]
      rw [splitOn_append, splitOn_cons_piece hartifact, splitOn_cons_piece hpackaging,
        splitOn_cons_piece hclassifier, splitOn_cons_piece hversion, splitOn_of_not_mem hscope]
    obtain ⟨last, front, hgroup⟩ : ∃ last front, (splitOn ':' group).reverse = last :: front :=
      List.exists_cons_of_ne_nil (by simpa using splitOn_ne_nil group)
    have hback : (last :: front).reverse = splitOn ':' group := by
      rw [← hgroup, List.reverse_reverse]
    rw [hfields, List.reverse_append, hgroup]
    simp only [recordOfFields?, List.reverse_cons, List.reverse_nil, List.nil_append,
      List.cons_append]
    rw [← List.reverse_cons, hback, join_splitOn]

/-- What is listed of a record, from its group to its path. -/
def mavenCore (r : Record) : Text :=
  r.mavenFields ++ ':' :: r.path

theorem mavenCore_eq (r : Record) : r.mavenCore = r.group ++ ':' :: (r.laterFields ++ ':' :: r.path) := by
  rw [mavenCore, mavenFields_eq, List.append_assoc, List.cons_append]

theorem IsListable.path_ne_nil (h : r.IsListable) : r.path ≠ [] := by
  intro hnil
  rcases h.path_shape with hrooted | ⟨letter, slash, rest, -, -, hdrive⟩
  · have hhead := hrooted.head
    rw [hnil] at hhead
    cases hhead
  · rw [hnil] at hdrive
    cases hdrive

theorem IsListable.isTrimmed_mavenCore (h : r.IsListable) : IsTrimmed r.mavenCore := by
  have hfields : IsTrimmed (r.mavenFields ++ [':']) := by
    refine isTrimmed_of_forall fun c hc => ?_
    rcases List.mem_append.1 hc with hc | hc
    · exact (h.mem_mavenFields hc).2.2
    · rw [List.mem_singleton.1 hc]
      rfl
  have hcore := hfields.append h.path_trimmed (by simp) h.path_ne_nil
  rwa [List.append_assoc, List.singleton_append] at hcore

end Record

/-! ## The log label and the white space around -/

/-- What stands before a record is a label, or white space. -/
theorem dropLogLabel_mavenLine {r : Record} (h : r.IsListable) {label lead : Text}
    (hlabel : LogLabel label) (hlead : AllBlank lead) (after : Text) :
    ∃ lead', AllBlank lead' ∧
      dropLogLabel (label ++ lead ++ (r.mavenCore ++ after)) = lead' ++ (r.mavenCore ++ after) := by
  cases hlabel with
  | @info gap hgap =>
    obtain ⟨c, gap, rfl⟩ := List.exists_cons_of_ne_nil hgap.ne_nil
    have hc : isBlank c = true := hgap.blank c List.mem_cons_self
    have hgap' : AllBlank gap := fun d hd => hgap.blank d (List.mem_cons_of_mem c hd)
    have hdrop : dropPrefix? "[INFO]".toList
        ("[INFO]".toList ++ c :: gap ++ lead ++ (r.mavenCore ++ after)) =
        some (c :: (gap ++ (lead ++ (r.mavenCore ++ after)))) :=
      dropPrefix?_eq_some.2 (by simp)
    have hhead : ∀ d ∈ (r.mavenCore ++ after).head?, isBlank d = false := by
      intro d hd
      refine h.isTrimmed_mavenCore.head d ?_
      rwa [List.head?_append, Option.or_of_isSome (by simp [Record.mavenCore])] at hd
    refine ⟨[], by simp [AllBlank], ?_⟩
    rw [dropLogLabel, hdrop]
    simp only [hc, if_true]
    rw [trimStart_append hgap', trimStart_append hlead, trimStart_of_head hhead, List.nil_append]
  | none =>
    refine ⟨lead, hlead, ?_⟩
    rw [List.nil_append]
    cases lead with
    | cons c lead =>
      -- White space does not start the label.
      have hne : '[' ≠ c := by
        rintro rfl
        have hblank := hlead '[' List.mem_cons_self
        cases hblank
      have hdrop : dropPrefix? "[INFO]".toList (c :: lead ++ (r.mavenCore ++ after)) = none := by
        show (if '[' = c then _ else none) = none
        rw [if_neg hne]
      rw [dropLogLabel, hdrop]
    | nil =>
      rw [List.nil_append, Record.mavenCore_eq, List.append_assoc, List.cons_append]
      cases hdrop : dropPrefix? "[INFO]".toList r.group with
      | none => rw [dropLogLabel, dropPrefix?_append (by decide), hdrop]; rfl
      | some rest =>
        -- The group may start with the label, but no white space follows there.
        rw [dropLogLabel, dropPrefix?_append (by decide), hdrop]
        cases rest with
        | nil => rfl
        | cons c rest =>
          have hc : isBlank c = false := by
            refine (h.group_plain c ?_).2.2
            rw [dropPrefix?_eq_some.1 hdrop]
            simp
          simp only [Option.map_some, List.cons_append, hc]
          rfl

theorem isHeading_mavenLine {r : Record} (h : r.IsListable) (after : Text) :
    isHeading (r.mavenCore ++ after) = false := by
  rw [isHeading, Record.mavenCore_eq, List.append_assoc, List.cons_append,
    startsWith_append (by decide), startsWith_append (by decide), Bool.or_eq_false_iff]
  refine ⟨Bool.eq_false_iff.2 h.group_dashes, Bool.eq_false_iff.2 fun hstart => ?_⟩
  obtain ⟨rest, hgroup⟩ := startsWith_iff.1 hstart
  have hblank := (h.group_plain ' ' (by rw [hgroup]; simp)).2.2
  cases hblank

/-! ## The remark -/

/-- White space at the end of a line belongs to no remark. -/
theorem ModuleRemark.exists_trimmed {remark trail : Text} (h : ModuleRemark remark)
    (htrail : AllBlank trail) :
    ∃ remark' trail', ModuleRemark remark' ∧ AllBlank trail' ∧
      remark ++ trail = remark' ++ trail' ∧ ∀ c ∈ remark'.getLast?, isBlank c = false := by
  cases h with
  | none => exact ⟨[], trail, .none, htrail, rfl, by simp⟩
  | @told g₁ g₂ g₃ name h₁ h₂ h₃ hname hline =>
    obtain ⟨front, b, rfl, hb, hlast⟩ := exists_trimEnd name
    have hfront : ¬AllBlank front := fun hall =>
      hname fun c hc => (List.mem_append.1 hc).elim (hall c) (hb c)
    have hne : front ≠ [] := by
      rintro rfl
      exact hfront (by simp [AllBlank])
    refine ⟨_, b ++ trail,
      .told h₁ h₂ h₃ hfront fun hmem => hline (List.mem_append_left b hmem), ?_, ?_, ?_⟩
    · intro c hc
      exact (List.mem_append.1 hc).elim (hb c) (htrail c)
    · simp only [List.append_assoc]
    · intro c hc
      rw [List.getLast?_append, Option.or_of_isSome (by simpa using hne)] at hc
      exact hlast c hc

/-- A remark is recognized whatever module it names. -/
theorem isModuleRemark_told {g₂ g₃ name : Text} (h₂ : IsGap g₂) (h₃ : IsGap g₃)
    (hline : '\n' ∉ name) :
    isModuleRemark ("--".toList ++ g₂ ++ "module".toList ++ g₃ ++ name) = true := by
  obtain ⟨c, g₂, rfl⟩ := List.exists_cons_of_ne_nil h₂.ne_nil
  obtain ⟨d, g₃, rfl⟩ := List.exists_cons_of_ne_nil h₃.ne_nil
  have hc : isBlank c = true := h₂.blank c List.mem_cons_self
  have hd : isBlank d = true := h₃.blank d List.mem_cons_self
  have hg₂ : AllBlank g₂ := fun x hx => h₂.blank x (List.mem_cons_of_mem c hx)
  have hg₃ : AllBlank g₃ := fun x hx => h₃.blank x (List.mem_cons_of_mem d hx)
  have hdashes : dropPrefix? "--".toList
      ("--".toList ++ c :: g₂ ++ "module".toList ++ d :: g₃ ++ name) =
      some (c :: (g₂ ++ ("module".toList ++ d :: (g₃ ++ name)))) :=
    dropPrefix?_eq_some.2 (by simp)
  have hword : trimStart isBlank (g₂ ++ ("module".toList ++ d :: (g₃ ++ name))) =
      "module".toList ++ d :: (g₃ ++ name) := by
    rw [trimStart_append hg₂, trimStart_of_head]
    intro x hx
    obtain rfl : 'm' = x := by simpa using hx
    rfl
  have hmodule : dropPrefix? "module".toList ("module".toList ++ d :: (g₃ ++ name)) =
      some (d :: (g₃ ++ name)) := dropPrefix?_eq_some.2 rfl
  have hrest : '\n' ∉ trimStart isBlank (g₃ ++ name) := by
    rw [trimStart_append hg₃]
    exact fun hmem => hline ((List.dropWhile_sublist _).subset hmem)
  rw [isModuleRemark, hdashes]
  simp only [hc, Bool.true_and]
  rw [hword, hmodule]
  simp [hd, hrest]

theorem dropModuleRemark_remark {remark : Text} (h : ModuleRemark remark) :
    dropModuleRemark remark = [] := by
  cases h with
  | none => rfl
  | @told g₁ g₂ g₃ name h₁ h₂ h₃ hname hline =>
    obtain ⟨c, g₁, rfl⟩ := List.exists_cons_of_ne_nil h₁.ne_nil
    have hc : isBlank c = true := h₁.blank c List.mem_cons_self
    have hg₁ : AllBlank g₁ := fun x hx => h₁.blank x (List.mem_cons_of_mem c hx)
    have htrim : trimStart isBlank
        (g₁ ++ ("--".toList ++ g₂ ++ "module".toList ++ g₃ ++ name)) =
        "--".toList ++ g₂ ++ "module".toList ++ g₃ ++ name := by
      rw [trimStart_append hg₁, trimStart_of_head]
      intro x hx
      obtain rfl : '-' = x := by simpa using hx
      rfl
    have hremark := isModuleRemark_told h₂ h₃ hline
    rw [← htrim] at hremark
    simp only [List.append_assoc, List.cons_append] at hremark ⊢
    rw [dropModuleRemark, hc, hremark]
    rfl

/-- The remark is cut off where no white space before it is followed by one. -/
theorem dropModuleRemark_append {t remark : Text} (hremark : ModuleRemark remark)
    (h : ∀ u c v, t = u ++ c :: v → isBlank c = true →
      isModuleRemark (trimStart isBlank (v ++ remark)) = false) :
    dropModuleRemark (t ++ remark) = t := by
  induction t with
  | nil => exact dropModuleRemark_remark hremark
  | cons c t ih =>
    have hrest : dropModuleRemark (t ++ remark) = t :=
      ih fun u d v heq hd => h (c :: u) d v (by rw [heq]; rfl) hd
    rw [List.cons_append, dropModuleRemark, hrest]
    cases hc : isBlank c with
    | false => rfl
    | true => rw [h [] c t rfl hc]; rfl

/-- A remark starts with two dashes and a blank. -/
theorem exists_of_isModuleRemark {t : Text} (h : isModuleRemark t = true) :
    ∃ d rest, t = '-' :: '-' :: d :: rest ∧ isBlank d = true := by
  unfold isModuleRemark at h
  split at h
  · next d rest hdrop =>
    rw [Bool.and_eq_true] at h
    exact ⟨d, rest, dropPrefix?_eq_some.1 hdrop, h.1⟩
  · cases h

theorem ModuleRemark.head {remark : Text} (h : ModuleRemark remark) :
    ∀ c ∈ remark.head?, isBlank c = true := by
  intro c hc
  cases h with
  | none => cases hc
  | told h₁ =>
    obtain ⟨d, g₁, rfl⟩ := List.exists_cons_of_ne_nil h₁.ne_nil
    obtain rfl : d = c := Option.some.inj hc
    exact h₁.blank d List.mem_cons_self

/-- Two dashes before white space, with the remark after a part of a text, stand by themselves in
that part. -/
theorem exists_dashes {w remark rest : Text} {d : Char} (hremark : ModuleRemark remark)
    (hne : w ≠ []) (heq : w ++ remark = '-' :: '-' :: d :: rest) (hd : isBlank d = true) :
    ∃ after, w = '-' :: '-' :: after ∧ ∀ c ∈ after.head?, isBlank c = true := by
  match w with
  | [] => exact absurd rfl hne
  | [x] =>
    have hdash : remark = '-' :: d :: rest := (List.cons.inj heq).2
    have hblank := hremark.head '-' (by rw [hdash]; rfl)
    cases hblank
  | x :: y :: after =>
    simp only [List.cons_append, List.cons.injEq] at heq
    obtain ⟨rfl, rfl, hrest⟩ := heq
    refine ⟨after, rfl, fun c hc => ?_⟩
    cases after with
    | nil => cases hc
    | cons z after =>
      obtain rfl : z = c := Option.some.inj hc
      obtain rfl : z = d := (List.cons.inj hrest).1
      exact hd

/-- White space in a listed record is in its path. -/
theorem exists_path_of_blank {r : Record} (h : r.IsListable) {u v : Text} {c : Char}
    (heq : r.mavenCore = u ++ c :: v) (hc : isBlank c = true) : ∃ u', r.path = u' ++ c :: v := by
  have hfields : c ∉ r.mavenFields ++ [':'] := by
    intro hmem
    rcases List.mem_append.1 hmem with hmem | hmem
    · rw [(h.mem_mavenFields hmem).2.2] at hc
      cases hc
    · rw [List.mem_singleton.1 hmem] at hc
      cases hc
  have hcore : (r.mavenFields ++ [':']) ++ r.path = u ++ c :: v := by
    rw [← heq, Record.mavenCore, List.append_assoc, List.singleton_append]
  rcases List.append_eq_append_iff.1 hcore with ⟨u', -, hpath⟩ | ⟨w, hw, hcv⟩
  · exact ⟨u', hpath⟩
  · cases w with
    | nil => exact ⟨[], hcv.symm⟩
    | cons d w =>
      obtain rfl : c = d := (List.cons.inj hcv).1
      exact absurd (by rw [hw]; simp) hfields

/-- No white space in a listed record is followed by a remark: its two dashes would stand by
themselves in the path. -/
theorem isModuleRemark_of_mavenCore {r : Record} (h : r.IsListable) {remark : Text}
    (hremark : ModuleRemark remark) {u v : Text} {c : Char} (heq : r.mavenCore = u ++ c :: v)
    (hc : isBlank c = true) : isModuleRemark (trimStart isBlank (v ++ remark)) = false := by
  rw [← Bool.not_eq_true]
  intro htrue
  obtain ⟨u', hpath⟩ := exists_path_of_blank h heq hc
  obtain ⟨b, w, rfl, hb, hne, hhead⟩ := h.path_trimmed.exists_after_blank hpath hc
  have hstart : ∀ d ∈ (w ++ remark).head?, isBlank d = false := by
    intro d hd
    refine hhead d ?_
    rwa [List.head?_append, Option.or_of_isSome (by simpa using hne)] at hd
  rw [List.append_assoc, trimStart_append hb, trimStart_of_head hstart] at htrue
  obtain ⟨d, rest, hdashes, hd⟩ := exists_of_isModuleRemark htrue
  obtain ⟨after, rfl, hafter⟩ := exists_dashes hremark hne hdashes hd
  refine h.path_dashes ⟨u' ++ c :: b, after, by rw [hpath]; simp, fun x hx => ?_, hafter⟩
  rw [List.getLast?_append, List.getLast?_eq_some_getLast (List.cons_ne_nil c b)] at hx
  obtain rfl : (c :: b).getLast _ = x := Option.some.inj hx
  rcases List.mem_cons.1 (List.getLast_mem (List.cons_ne_nil c b)) with hx | hx
  · rw [hx]
    exact hc
  · exact hb _ hx

/-! ## The path -/

/-- Behind a part without a drive the next cut is at a drive right there, or where it is farther on.
-/
theorem cutAtDrive?_append {a b : Text}
    (h : ∀ u v, a = u ++ ':' :: v → startsWithDrive (v ++ ':' :: b) = false) :
    cutAtDrive? (a ++ ':' :: b) =
      if startsWithDrive b && '\n' ∉ b then some (a, b)
      else (cutAtDrive? b).map fun (front, path) => (a ++ ':' :: front, path) := by
  induction a with
  | nil => simp [cutAtDrive?]
  | cons c a ih =>
    have hfirst : (decide (c = ':') && startsWithDrive (a ++ ':' :: b)) = false := by
      by_cases hc : c = ':'
      · subst hc
        rw [h [] a rfl, Bool.and_false]
      · simp [hc]
    have hrest := ih fun u v heq => h (c :: u) v (by rw [heq]; rfl)
    rw [List.cons_append, cutAtDrive?, hfirst, Bool.false_and, if_neg (by simp), hrest]
    split
    · rfl
    · cases cutAtDrive? b <;> rfl

theorem cutAtDrive?_of_not_mem {t : Text} (h : ':' ∉ t) : cutAtDrive? t = none := by
  induction t with
  | nil => rfl
  | cons c t ih =>
    rw [List.mem_cons, not_or] at h
    rw [cutAtDrive?, ih h.2]
    simp [Ne.symm h.1]

theorem startsWithDrive_iff {t : Text} : startsWithDrive t = true ↔ IsDrivePath t := by
  constructor
  · intro h
    unfold startsWithDrive at h
    split at h
    · next letter slash rest =>
      simp only [Bool.and_eq_true, Bool.or_eq_true, beq_iff_eq] at h
      exact ⟨letter, slash, rest, h.1, h.2, rfl⟩
    · cases h
  · rintro ⟨letter, slash, rest, hletter, hslash, rfl⟩
    rcases hslash with rfl | rfl <;> simp [startsWithDrive, hletter]

/-- No field before the path of a record shows a drive letter. -/
theorem startsWithDrive_mavenFields {r : Record} (h : r.IsListable) {u v : Text}
    (heq : r.mavenFields = u ++ ':' :: v) (path : Text) :
    startsWithDrive (v ++ ':' :: path) = false := by
  rw [← Bool.not_eq_true, startsWithDrive_iff]
  rintro ⟨letter, slash, rest, hletter, hslash, hdrive⟩
  match v, hdrive with
  | [], hdrive =>
    obtain rfl : ':' = letter := (List.cons.inj hdrive).1
    cases hletter
  | [x], _ => exact h.ne_singleton heq x rfl
  | [x, y], hdrive =>
    obtain rfl : ':' = slash := by
      simp only [List.cons_append, List.nil_append, List.cons.injEq] at hdrive
      exact hdrive.2.2.1
    rcases hslash with hslash | hslash <;> cases hslash
  | x :: y :: z :: v, hdrive =>
    obtain rfl : z = slash := by
      simp only [List.cons_append, List.cons.injEq] at hdrive
      exact hdrive.2.2.1
    have hmem := h.mem_mavenFields (c := z) (by rw [heq]; simp)
    rcases hslash with hslash | hslash
    · exact hmem.1 hslash
    · exact hmem.2.1 hslash

/-- The line is cut between the fields and the path, whether the path starts with a slash or a
drive. -/
theorem cutPath?_mavenCore {r : Record} (h : r.IsListable) :
    cutPath? r.mavenCore = some (r.mavenFields, r.path) := by
  have hcut := cutAtDrive?_append fun u v heq => startsWithDrive_mavenFields h heq r.path
  rw [cutPath?, Record.mavenCore, hcut]
  rcases h.path_shape with hrooted | hdrive
  · have hno : startsWithDrive r.path = false := by
      rw [← Bool.not_eq_true, startsWithDrive_iff]
      rintro ⟨letter, slash, rest, hletter, -, hpath⟩
      have hhead := hrooted.head
      rw [hpath] at hhead
      obtain rfl : letter = '/' := Option.some.inj hhead
      cases hletter
    rw [hno, cutAtDrive?_of_not_mem hrooted.colon_not_mem]
    exact cutLast?_append hrooted.colon_not_mem
  · simp [startsWithDrive_iff.2 hdrive, h.path_line]

/-! ## Reading a line -/

/-- Reading a line by which Maven lists a record finds exactly this record. -/
theorem ofMavenLine?_eq_some {r : Record} {line : Text} (h : r.IsListable)
    (hline : MavenLine r line) : Record.ofMavenLine? line = some r := by
  obtain @⟨label, lead, remark, trail, hlabel, hlead, hremark, htrail⟩ := hline
  obtain ⟨remark', trail', hremark', htrail', htail, hlast⟩ := hremark.exists_trimmed htrail
  obtain ⟨lead', hlead', hdrop⟩ := dropLogLabel_mavenLine h hlabel hlead (remark' ++ trail')
  have hstrip : strip (lead' ++ (r.mavenCore ++ remark') ++ trail') = r.mavenCore ++ remark' := by
    refine strip_between hlead' ⟨?_, ?_⟩ htrail'
    · intro c hc
      rw [List.head?_append, Option.or_of_isSome (by simp [Record.mavenCore])] at hc
      exact h.isTrimmed_mavenCore.head c hc
    · intro c hc
      by_cases hne : remark' = []
      · subst hne
        rw [List.append_nil] at hc
        exact h.isTrimmed_mavenCore.last c hc
      · rw [List.getLast?_append, Option.or_of_isSome (by simpa using hne)] at hc
        exact hlast c hc
  have hclean : strip (dropLogLabel
      (label ++ lead ++ (r.mavenFields ++ ':' :: r.path) ++ remark ++ trail)) =
      r.mavenCore ++ remark' := by
    rw [List.append_assoc _ remark, htail, List.append_assoc _ _ (remark' ++ trail'), ← hstrip]
    exact congrArg strip (hdrop.trans (by simp only [List.append_assoc]))
  have hremoved : dropModuleRemark (r.mavenCore ++ remark') = r.mavenCore :=
    dropModuleRemark_append hremark' fun u c v heq hc =>
      isModuleRemark_of_mavenCore h hremark' heq hc
  unfold Record.ofMavenLine?
  simp only [hclean, isHeading_mavenLine h, hremoved, cutPath?_mavenCore h]
  show recordOfFields? (strip r.path) (splitOn ':' r.mavenFields).reverse = some r
  rw [strip_of_isTrimmed h.path_trimmed, Record.recordOfFields?_mavenFields h]

/-- A record with colons in its group and a blank, a dash and a second colon in its path. -/
def driveRecord : Record :=
  { group := "a:b".toList, artifact := "art".toList, packaging := "jar".toList
    classifier := some "cls".toList, version := "1.0".toList, scope := "compile".toList
    path := "C:\\my files\\x-1:y.jar".toList }

/-- A record with a classifier and a path with a drive, blanks and a colon. -/
theorem ofMavenLine?_driveRecord :
    driveRecord.IsListable ∧
    MavenLine driveRecord
      "[INFO]  a:b:art:jar:cls:1.0:compile:C:\\my files\\x-1:y.jar -- module x.y [auto]\t".toList ∧
    Record.ofMavenLine?
      "[INFO]  a:b:art:jar:cls:1.0:compile:C:\\my files\\x-1:y.jar -- module x.y [auto]\t".toList =
      some driveRecord := by
  have hgap : IsGap [' '] := ⟨by decide, by decide⟩
  have hdashes : ¬StandsIn "--".toList driveRecord.path := by
    rintro ⟨before, after, heq, -⟩
    have hcount := congrArg (List.count '-') heq
    have hone : driveRecord.path.count '-' = 1 := by decide
    have htwo : "--".toList.count '-' = 2 := by decide
    rw [hone, List.count_append, List.count_append, htwo] at hcount
    omega
  have hlistable : driveRecord.IsListable :=
    { group_ne_nil := by decide
      group_plain := by
        intro c hc
        have hchars : c = 'a' ∨ c = ':' ∨ c = 'b' := by simpa [driveRecord] using hc
        rcases hchars with rfl | rfl | rfl <;> decide
      group_dashes := by decide
      group_colon := by decide
      artifact := by decide
      packaging := by decide
      classifier := by
        intro t ht
        obtain rfl : "cls".toList = t := Option.some.inj ht
        decide
      version := by decide
      scope := by decide
      scope_length := by decide
      path_trimmed := by decide
      path_line := by decide
      path_dashes := hdashes
      path_shape := .inr ⟨'C', '\\', _, rfl, .inr rfl, rfl⟩ }
  have hline : MavenLine driveRecord
      "[INFO]  a:b:art:jar:cls:1.0:compile:C:\\my files\\x-1:y.jar -- module x.y [auto]\t".toList :=
    .listed (.info hgap) (show AllBlank [' '] by decide)
      (.told hgap hgap hgap (show ¬AllBlank "x.y [auto]".toList by decide) (by decide))
      (show AllBlank ['\t'] by decide)
  exact ⟨hlistable, hline, ofMavenLine?_eq_some hlistable hline⟩

end JarLens.Dependency
