import JarLens.Entry.ClassFile
import JarLens.Proofs.Entry.Spelling
import JarLens.Proofs.Text.CaseVariants

/-!
# Names of classes

The suffix of a class is found twice over: in the path in lower case, and letter by letter where it
is taken off. Both find the same six characters (`isClass_iff`, `replaceClassSuffix_append`), which no
other spelling of the path changes (`exists_normalize_append`). What stands before them, the stem,
gives the path of the source text and, with dots for slashes, the name of the class. Two classes
share a name only if their stems are the same or have dots of their own (`className_eq_iff`). All of
it is put together in `stem_names_class`.
-/

namespace JarLens.Entry

open JarLens.Text

/-! ## The suffix -/

/-- The text is `.class` in some letter case. -/
def SpellsClass (t : Text) : Prop :=
  t.map Char.toLower = ".class".toList

/-- The last six characters of a path. -/
def classSuffix (path : Text) : Text :=
  path.drop (path.length - 6)

/-- A path without its last six characters. -/
def stem (path : Text) : Text :=
  path.take (path.length - 6)

namespace SpellsClass

variable {t : Text} (h : SpellsClass t)

include h

theorem length_eq : t.length = 6 := by
  have hlength := congrArg List.length h
  rwa [List.length_map] at hlength

theorem ne_nil : t ≠ [] := by
  rintro rfl
  cases h.length_eq

theorem toLower_mem {c : Char} (hc : c ∈ t) : c.toLower ∈ ".class".toList :=
  h ▸ List.mem_map_of_mem hc

theorem not_sep : ∀ c ∈ t, isSeparator c = false := by
  intro c hc
  have hlower := h.toLower_mem hc
  rw [isSeparator, Bool.or_eq_false_iff, beq_eq_false_iff_ne, beq_eq_false_iff_ne]
  constructor
  · rintro rfl
    exact absurd hlower (by decide)
  · rintro rfl
    exact absurd hlower (by decide)

theorem slash_not_mem : '/' ∉ t := fun hmem => absurd (h.not_sep _ hmem) (by decide)

theorem getLast?_ne : t.getLast? ≠ some '.' := by
  intro hlast
  have hlower : (t.map Char.toLower).getLast? = some '.' := by
    rw [List.getLast?_map, hlast]
    rfl
  rw [h] at hlower
  exact absurd hlower (by decide)

theorem isClassSuffix : isClassSuffix t = true := by
  have hsame : ∀ {small c : Char}, c.toLower = small → sameLetter small c = true := by
    intro small c hc
    rcases eq_or_eq_toUpper hc with rfl | rfl <;> simp [sameLetter]
  match t, h.length_eq with
  | [p, c, l, a, s, z], _ =>
    have hletters : [p, c, l, a, s, z].map Char.toLower = ['.', 'c', 'l', 'a', 's', 's'] := h
    simp only [List.map_cons, List.map_nil, List.cons.injEq, and_true] at hletters
    obtain ⟨hp, hc, hl, ha, hs, hz⟩ := hletters
    obtain rfl : p = '.' := (eq_or_eq_toUpper hp).elim id id
    simp [Entry.isClassSuffix, hsame hc, hsame hl, hsame ha, hsame hs, hsame hz]

end SpellsClass

section

variable {path front suffix : Text}

theorem classSuffix_append (h : suffix.length = 6) : classSuffix (front ++ suffix) = suffix := by
  rw [classSuffix, List.length_append, h, Nat.add_sub_cancel, List.drop_left]

theorem stem_append (h : suffix.length = 6) : stem (front ++ suffix) = front := by
  rw [stem, List.length_append, h, Nat.add_sub_cancel, List.take_left]

/-- A class entry is anything with the suffix spelled behind it. -/
theorem isClass_append_iff :
    isClass path = true ↔ ∃ front suffix, path = front ++ suffix ∧ SpellsClass suffix :=
  endsWith_lower_iff (by simp)

/-- The test in lower case is one of the last six characters alone. -/
theorem isClass_iff : isClass path = true ↔ SpellsClass (classSuffix path) := by
  rw [isClass_append_iff]
  constructor
  · rintro ⟨front, suffix, rfl, h⟩
    rwa [classSuffix_append h.length_eq]
  · intro h
    exact ⟨stem path, classSuffix path, (List.take_append_drop _ _).symm, h⟩

/-! ## The stem -/

/-- Replacing the suffix puts the new one in its place. -/
theorem replaceClassSuffix_append (h : SpellsClass suffix) (new front : Text) :
    replaceClassSuffix new (front ++ suffix) = front ++ new := by
  have hcut : cutClassSuffix? (front ++ suffix) = some (stem (front ++ suffix), []) := by
    have hsuffix : Entry.isClassSuffix (classSuffix (front ++ suffix)) = true := by
      rw [classSuffix_append h.length_eq]
      exact h.isClassSuffix
    exact if_pos hsuffix
  rw [replaceClassSuffix, hcut]
  show stem (front ++ suffix) ++ new ++ [] = front ++ new
  rw [stem_append h.length_eq, List.append_nil]

/-- What follows the last separator of a path comes last in its one spelling. -/
theorem exists_normalize_append (front : Text) :
    ∃ start, ∀ t, t ≠ [] → (∀ c ∈ t, isSeparator c = false) →
      normalize (front ++ t) = start ++ t := by
  obtain ⟨pieces, last, hsplit⟩ := exists_splitBy_append (p := isSeparator) front
  refine ⟨join ['/'] (pieces.filter (!·.isEmpty) ++ [last]), fun t hne ht => ?_⟩
  have hlast : segments (front ++ t) = pieces.filter (!·.isEmpty) ++ [last ++ t] := by
    rw [segments, hsplit t ht, List.filter_append]
    simp [hne]
  rw [normalize_eq_join, hlast]
  exact join_concat_append _ last t

/-- What ends with another letter is no class entry. -/
theorem not_isClass_concat {c : Char} (hc : c.toLower ≠ 's') (t : Text) :
    isClass (t ++ [c]) = false := by
  rw [← Bool.not_eq_true, isClass_append_iff]
  rintro ⟨front, suffix, heq, h⟩
  have hlast : ((t ++ [c]).map Char.toLower).getLast? = some 's' := by
    rw [heq, List.map_append, List.getLast?_append, h]
    rfl
  rw [List.map_append, List.map_singleton, List.getLast?_concat] at hlast
  exact hc (Option.some.inj hlast)

end

/-! ## The name -/

/-- The paths that belong to a class entry are those that its stem gives, and its suffix is left
alone by the other spellings of its path. -/
structure NamesClass (path : Text) : Prop where
  suffix : SpellsClass (classSuffix path)
  eq_append : path = stem path ++ classSuffix path
  normalize : normalize path = stem (normalize path) ++ classSuffix path
  javaEntry : javaEntry path = stem path ++ ".java".toList
  not_isClass : isClass (Entry.javaEntry path) = false
  className : className path =
    trimStart (· == '.') (replaceChar '/' '.' (stem (Entry.normalize path)))

section

variable {path a b : Text}

/-- A class entry names a class by its stem. -/
theorem namesClass_of_isClass (h : isClass path = true) : NamesClass path := by
  obtain ⟨front, suffix, rfl, hsuffix⟩ := isClass_append_iff.1 h
  have hlength := hsuffix.length_eq
  obtain ⟨start, hnormalize⟩ := exists_normalize_append front
  have hspelled := hnormalize suffix hsuffix.ne_nil hsuffix.not_sep
  have hjava : Entry.javaEntry (front ++ suffix) = front ++ ".java".toList :=
    replaceClassSuffix_append hsuffix _ front
  constructor
  · exact isClass_iff.1 h
  · rw [stem_append hlength, classSuffix_append hlength]
  · rw [hspelled, stem_append hlength, classSuffix_append hlength]
  · rw [hjava, stem_append hlength]
  · rw [hjava, show front ++ ".java".toList = (front ++ ".jav".toList) ++ ['a'] by simp]
    exact not_isClass_concat (by decide) _
  · rw [Entry.className, hspelled, replaceClassSuffix_append hsuffix, List.append_nil,
      stem_append hlength]

theorem head?_stem_normalize (path : Text) : (stem (normalize path)).head? ≠ some '/' := by
  intro hhead
  obtain ⟨rest, hrest⟩ := List.head?_eq_some_iff.1 hhead
  have hpath : normalize path = '/' :: (rest ++ classSuffix (normalize path)) := by
    rw [← List.cons_append, ← hrest]
    exact (List.take_append_drop _ _).symm
  apply (isSpelled_normalize path).head
  rw [hpath]
  rfl

/-- Without dots in it, a stem is all of the name. -/
theorem trimStart_replaceChar_stem (h : '.' ∉ stem (normalize path)) :
    trimStart (· == '.') (replaceChar '/' '.' (stem (normalize path))) =
      replaceChar '/' '.' (stem (normalize path)) := by
  have hhead := head?_stem_normalize path
  cases hstem : stem (normalize path) with
  | nil => rfl
  | cons c t =>
    rw [hstem] at h hhead
    have hdot : c ≠ '.' := fun heq => h (heq ▸ List.mem_cons_self)
    have hslash : c ≠ '/' := fun heq => hhead (heq ▸ rfl)
    simp [trimStart, replaceChar, hdot, hslash]

/-- Where the new character did not occur before, it can be replaced by the old one again. -/
theorem replaceChar_replaceChar {old new : Char} {t : Text} (h : new ∉ t) :
    replaceChar new old (replaceChar old new t) = t := by
  unfold replaceChar
  rw [List.map_map]
  conv => rhs; rw [← List.map_id t]
  apply List.map_congr_left
  intro c hc
  have hne : c ≠ new := fun heq => h (heq ▸ hc)
  by_cases hold : c = old
  · simp [hold]
  · simp [hold, hne]

/-- The names of two classes without dots in their stems are those of one stem only if the stems are
the same. -/
theorem className_eq_iff (ha : isClass a = true) (hb : isClass b = true)
    (hdota : '.' ∉ stem (normalize a)) (hdotb : '.' ∉ stem (normalize b)) :
    className a = className b ↔ stem (normalize a) = stem (normalize b) := by
  rw [(namesClass_of_isClass ha).className, (namesClass_of_isClass hb).className,
    trimStart_replaceChar_stem hdota, trimStart_replaceChar_stem hdotb]
  constructor
  · intro h
    rw [← replaceChar_replaceChar hdota, h, replaceChar_replaceChar hdotb]
  · intro h
    rw [h]

end

/-- Of the path of a class, the last six characters spell the suffix in some letter case. The source
text lies at what is before them with `.java` behind it, which is no class again, and the name of the
class comes from what is before them in the one spelling of the path. As long as there is no dot in
that, the names tell two classes apart. -/
theorem stem_names_class {a b : Text} (ha : isClass a = true) (hb : isClass b = true) :
    NamesClass a ∧ ('.' ∉ stem (normalize a) → '.' ∉ stem (normalize b) →
      (className a = className b ↔ stem (normalize a) = stem (normalize b))) :=
  ⟨namesClass_of_isClass ha, className_eq_iff ha hb⟩

/-- Two spellings of one nested class. -/
theorem stem_names_class_twoSpellings :
    isClass "com/x/Foo$Bar.class".toList = true ∧
      isClass "\\com\\x//Foo$Bar.CLASS".toList = true ∧
      NamesClass "com/x/Foo$Bar.class".toList ∧
      className "com/x/Foo$Bar.class".toList = className "\\com\\x//Foo$Bar.CLASS".toList := by
  have ha : isClass "com/x/Foo$Bar.class".toList = true := by decide
  have hb : isClass "\\com\\x//Foo$Bar.CLASS".toList = true := by decide
  obtain ⟨hnames, hiff⟩ := stem_names_class ha hb
  exact ⟨ha, hb, hnames, (hiff (by decide) (by decide)).2 (by decide)⟩

-- Two stems with one name, one of which has a dot of its own.
example : className "a.b.class".toList = className "a/b.class".toList := by
  decide

-- What is taken off as a suffix is not always one of a class: the long s is not an s in lower case.
example : isClass "A.cla\u017fs".toList = false ∧
    javaEntry "A.cla\u017fs".toList = "A.java".toList := by
  decide

end JarLens.Entry
