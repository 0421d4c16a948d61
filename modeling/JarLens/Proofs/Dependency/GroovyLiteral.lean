import JarLens.Dependency.GroovyLiteral
import JarLens.Proofs.Dependency.GroovySource
import JarLens.Proofs.Text.Pieces

/-!
# What Groovy reads in a literal

The literal of a name is a safe body between quotes (`body_literalBody`), so that it ends where it
should, whatever the name. What Groovy reads in it is the name, unless a character beyond U+FFFF
does not print: such a character is written by its code in five or six hexadecimal digits, of which
Groovy takes four (`readList?_groovyList`).
-/

namespace JarLens.Dependency

open JarLens.Text JarLens.Dependency.Groovy

/-! ## How a character is written -/

/-- What stands between the quotes of a literal. -/
def literalBody (t : Text) : Text :=
  t.flatMap groovyChar

theorem groovyString_eq (t : Text) : groovyString t = '\x27' :: literalBody t ++ ['\x27'] := rfl

/-- The three ways in which a character is written in a literal. -/
inductive IsWritten (c : Char) : Text → Prop
  | itself (hprint : isPrintable c = true) (hplain : IsPlain c.toNat) : IsWritten c [c]
  | letter {d} (hd : letterMeaning? d.toNat = some c.toNat) : IsWritten c ['\\', d]
  | code (hhidden : isPrintable c = false) (hplain : IsPlain c.toNat) :
      IsWritten c (unicodeEscape c)

theorem isPlain_toNat {c : Char} (hb : c ≠ '\\') (hq : c ≠ '\x27') (hn : c ≠ '\n')
    (hr : c ≠ '\r') : IsPlain c.toNat := by
  refine ⟨?_, ?_, ?_, ?_⟩ <;> intro h
  · exact hq (Char.toNat_inj.1 h)
  · exact hb (Char.toNat_inj.1 h)
  · exact hn (Char.toNat_inj.1 h)
  · exact hr (Char.toNat_inj.1 h)

theorem isWritten_groovyChar (c : Char) : IsWritten c (groovyChar c) := by
  by_cases hb : c = '\\'
  · exact hb ▸ .letter rfl
  by_cases hq : c = '\x27'
  · exact hq ▸ .letter rfl
  by_cases hn : c = '\n'
  · exact hn ▸ .letter rfl
  by_cases hr : c = '\r'
  · exact hr ▸ .letter rfl
  by_cases ht : c = '\t'
  · exact ht ▸ .letter rfl
  have hplain := isPlain_toNat hb hq hn hr
  have hnone : groovyEscape? c = none := by simp [groovyEscape?, hb, hq, hn, hr, ht]
  unfold groovyChar
  rw [hnone]
  cases hprint : isPrintable c with
  | true => exact .itself hprint hplain
  | false => exact .code hprint hplain

/-! ## What it is read as -/

/-- The code units that Groovy takes a character for: its own, unless it does not print and has a
code of more than four digits. -/
def readAs (c : Char) : List Nat :=
  if isPrintable c || c.toNat < 0x10000 then utf16 c
  else if c.toNat < 0x100000 then [c.toNat / 0x10, (Nat.digitChar (c.toNat % 0x10)).toNat]
  else
    [c.toNat / 0x100, (Nat.digitChar (c.toNat / 0x10 % 0x10)).toNat,
      (Nat.digitChar (c.toNat % 0x10)).toNat]

/-- Groovy takes the character for itself. -/
def IsReadBack (c : Char) : Prop :=
  isPrintable c = true ∨ c.toNat < 0x10000

instance (c : Char) : Decidable (IsReadBack c) :=
  inferInstanceAs (Decidable (_ ∨ _))

instance (t : Text) : Decidable (∀ c ∈ t, IsReadBack c) :=
  List.decidableBAll _ t

theorem isPlain_digitChar {d : Nat} (h : d < 16) : IsPlain (Nat.digitChar d).toNat := by
  interval_cases d <;> decide

theorem digitChar_lt {d : Nat} (h : d < 16) : (Nat.digitChar d).toNat < 0x75 := by
  interval_cases d <;> decide

/-- The units of a plain character are plain. -/
theorem isPlain_utf16 {c : Char} (h : IsPlain c.toNat) : ∀ u ∈ utf16 c, IsPlain u := by
  intro u hu
  rcases Nat.lt_or_ge c.toNat 0x10000 with hc | hc
  · rw [utf16_of_lt hc, List.mem_singleton] at hu
    exact hu ▸ h
  · rw [utf16_of_le hc] at hu
    have hlarge : 0xd800 ≤ u := by
      rcases List.mem_cons.1 hu with rfl | hu
      · exact Nat.le_add_right _ _
      · rw [List.mem_singleton.1 hu]
        exact Nat.le_trans (by decide) (Nat.le_add_right _ _)
    exact isPlain_of_le (Nat.le_trans (by decide) hlarge)

/-- A unit that is written by its code. -/
theorem body_code {n : Nat} (hn : n < 0x10000) (hplain : IsPlain n) :
    Body (backslash :: letterU :: (ofHex 4 n).map Char.toNat) [n] [n] := by
  have hdigit : ∀ c ∈ ofHex 4 n, IsPlain c.toNat ∧ c.toNat ≠ letterU := by
    intro c hc
    obtain ⟨d, hd, rfl⟩ := exists_digit_of_mem_ofHex hc
    exact ⟨isPlain_digitChar hd, Nat.ne_of_lt (digitChar_lt hd)⟩
  have hunit : codeUnit? ((ofHex 4 n).map Char.toNat) = some n := by
    have hback : Char.ofNat ∘ Char.toNat = id := funext Char.ofNat_toNat
    rw [codeUnit?, if_pos (by rw [List.length_map, length_ofHex hn]), List.map_map, hback,
      List.map_id, number?_ofHex]
  obtain ⟨a, b, c, e, hdigits⟩ : ∃ a b c e, ofHex 4 n = [a, b, c, e] := by
    have hlength := length_ofHex hn
    match ofHex 4 n, hlength with
    | [a, b, c, e], _ => exact ⟨a, b, c, e, rfl⟩
  rw [hdigits] at hdigit hunit ⊢
  refine .code (fun u hu => ?_) (hdigit a (by simp)).2 hunit hplain .nil
  obtain ⟨d, hd, rfl⟩ : ∃ d ∈ [a, b, c, e], d.toNat = u := List.mem_map.1 hu
  exact (hdigit d hd).1

/-- A Unicode escape is written with four digits at least, more for larger code points. -/
theorem units_unicodeEscape (c : Char) :
    units (unicodeEscape c) = backslash :: letterU :: (ofHex 4 c.toNat).map Char.toNat := by
  have hascii : ∀ d ∈ unicodeEscape c, d.toNat < 0x10000 := by
    intro d hd
    rcases List.mem_cons.1 hd with rfl | hd
    · decide
    · rcases List.mem_cons.1 hd with rfl | hd
      · decide
      · obtain ⟨v, hv, rfl⟩ := exists_digit_of_mem_ofHex hd
        exact Nat.lt_trans (digitChar_lt hv) (by decide)
  rw [units_of_forall_lt hascii]
  rfl

/-- A character that is written by its code is read as what its first four digits spell, and the
other digits as themselves. -/
theorem body_unicodeEscape {c : Char} (hhidden : isPrintable c = false) (hplain : IsPlain c.toNat) :
    ∃ translated, Body (units (unicodeEscape c)) translated (readAs c) := by
  have hlast : ∀ {n}, IsPlain (Nat.digitChar (n % 16)).toNat := fun {n} =>
    isPlain_digitChar (Nat.mod_lt n (by decide))
  have hlarge : ∀ {n}, 0x1000 ≤ n → IsPlain n := fun {n} hn =>
    isPlain_of_le (Nat.le_trans (by decide) hn)
  have hcode : c.toNat < 0x110000 := by
    rcases not_surrogate c with h | h <;> omega
  rw [units_unicodeEscape]
  rcases Nat.lt_or_ge c.toNat 0x10000 with hc | hc
  · have hread : readAs c = [c.toNat] := by
      rw [readAs, if_pos (by simp [hc]), utf16_of_lt hc]
    rw [hread]
    exact ⟨_, body_code hc hplain⟩
  · have hnot : ¬((isPrintable c || decide (c.toNat < 0x10000)) = true) := by
      simp [hhidden, Nat.not_lt.2 hc]
    rcases Nat.lt_or_ge c.toNat 0x100000 with hc' | hc'
    · have hread : readAs c = [c.toNat / 0x10] ++ [(Nat.digitChar (c.toNat % 0x10)).toNat] := by
        rw [readAs, if_neg hnot, if_pos hc']
        rfl
      have hfirst := body_code (n := c.toNat / 16) (by omega) (hlarge (by omega))
      rw [hread, ofHex_of_le hc, List.map_append]
      exact ⟨_, hfirst.append (.of_plain (by simpa using hlast))⟩
    · have hread : readAs c = [c.toNat / 0x100] ++
          ([(Nat.digitChar (c.toNat / 0x10 % 0x10)).toNat] ++
            [(Nat.digitChar (c.toNat % 0x10)).toNat]) := by
        rw [readAs, if_neg hnot, if_neg (Nat.not_lt.2 hc')]
        rfl
      have hdiv : c.toNat / 16 / 16 = c.toNat / 0x100 := Nat.div_div_eq_div_mul ..
      have hfirst := body_code (n := c.toNat / 0x100) (by omega) (hlarge (by omega))
      have hothers : Body
          ([(Nat.digitChar (c.toNat / 16 % 16)).toNat] ++ [(Nat.digitChar (c.toNat % 16)).toNat])
          _ _ := Body.append (.of_plain (by simpa using hlast)) (.of_plain (by simpa using hlast))
      rw [hread, ofHex_of_le hc, ofHex_of_le (by omega), hdiv, List.map_append, List.map_append,
        List.append_assoc]
      exact ⟨_, hfirst.append hothers⟩

theorem body_groovyChar (c : Char) :
    ∃ translated, Body (units (groovyChar c)) translated (readAs c) := by
  generalize hwritten : groovyChar c = t
  have h := hwritten ▸ isWritten_groovyChar c
  cases h with
  | itself hprint hplain =>
    have hread : readAs c = utf16 c := by rw [readAs, if_pos (by simp [hprint])]
    rw [hread, units_cons, units_nil, List.append_nil]
    exact ⟨_, .of_plain (isPlain_utf16 hplain)⟩
  | @letter d hd =>
    -- What a letter stands for is a code of four digits at most.
    have hc : c.toNat < 0x10000 := Nat.lt_trans (letterMeaning?_lt hd).2 (by decide)
    have hread : readAs c = [c.toNat] := by rw [readAs, if_pos (by simp [hc]), utf16_of_lt hc]
    have hunits : units ['\\', d] = [backslash, d.toNat] := by
      rw [units_of_forall_lt]
      · rfl
      · intro u hu
        rcases List.mem_cons.1 hu with rfl | hu
        · decide
        · rw [List.mem_singleton.1 hu]
          exact Nat.lt_trans (letterMeaning?_lt hd).1 (by decide)
    rw [hread, hunits]
    exact ⟨_, .letter hd .nil⟩
  | code hhidden hplain => exact body_unicodeEscape hhidden hplain

/-- What stands between the quotes of a literal is safe. -/
theorem body_literalBody (t : Text) :
    ∃ translated, Body (units (literalBody t)) translated (t.flatMap readAs) := by
  induction t with
  | nil => exact ⟨[], .nil⟩
  | cons c t ih =>
    obtain ⟨first, hfirst⟩ := body_groovyChar c
    obtain ⟨others, hothers⟩ := ih
    have hsplit : literalBody (c :: t) = groovyChar c ++ literalBody t := List.flatMap_cons
    rw [hsplit, units_append, List.flatMap_cons]
    exact ⟨_, hfirst.append hothers⟩

/-! ## Lists of literals -/

theorem units_groovyString (t : Text) : units (groovyString t) = quoted (units (literalBody t)) := by
  have hquote : utf16 '\x27' = [quoteMark] := by decide
  rw [groovyString_eq, List.cons_append, units_cons, units_append, units_cons, units_nil, hquote]
  rfl

/-- The written list is a list of literals, one for each normalized name. -/
theorem units_groovyList (names : List (Option Text)) :
    units (groovyList names) =
      listOf ((normalizeNames names).map fun name => units (literalBody name)) := by
  have hjoin : ∀ ts : List Text, units (join [',', ' '] (ts.map groovyString)) =
      literals (ts.map fun name => units (literalBody name)) := by
    intro ts
    induction ts with
    | nil => rfl
    | cons t ts ih =>
      by_cases hlast : ts = []
      · subst hlast
        exact units_groovyString t
      · have hcomma : units [',', ' '] = [','.toNat, ' '.toNat] := by decide
        rw [List.map_cons, join_cons (by simpa using hlast), units_append, units_append, ih,
          units_groovyString, hcomma, List.map_cons, literals_cons (by simpa using hlast)]
  have hopen : utf16 '[' = ['['.toNat] := by decide
  have hclose : units [']'] = [']'.toNat] := by decide
  rw [groovyList, List.cons_append, units_cons, units_append, hjoin, hopen, hclose]
  rfl

/-! ## What comes back -/

/-- A character that prints, or that four digits can write, is read as itself. -/
theorem readAs_of_isReadBack {c : Char} (h : IsReadBack c) : readAs c = utf16 c := by
  have htrue : (isPrintable c || decide (c.toNat < 0x10000)) = true := by
    rcases h with h | h <;> simp [h]
  rw [readAs, if_pos htrue]

/-- A character that does not come back as itself is read as something else, whatever follows. -/
theorem readAs_append_ne {c : Char} (h : ¬IsReadBack c) (a b : List Nat) :
    readAs c ++ a ≠ utf16 c ++ b := by
  obtain ⟨hhidden, hc⟩ := not_or.1 h
  have hsecond : ∀ {n u : Nat} {rest : List Nat},
      readAs c ++ a = u :: (Nat.digitChar (n % 16)).toNat :: rest → readAs c ++ a ≠ utf16 c ++ b := by
    intro n u rest hread heq
    -- The second unit is a digit on one side and a surrogate on the other.
    rw [hread, utf16_of_le (Nat.not_lt.1 hc)] at heq
    have hdigit := digitChar_lt (Nat.mod_lt n (show 0 < 16 by decide))
    have hunit := (List.cons.inj (List.cons.inj heq).2).1
    omega
  have hnot : ¬((isPrintable c || decide (c.toNat < 0x10000)) = true) := by
    simp [hhidden, hc]
  by_cases hc' : c.toNat < 0x100000
  · exact hsecond (by rw [readAs, if_neg hnot, if_pos hc']; rfl)
  · exact hsecond (by rw [readAs, if_neg hnot, if_neg hc']; rfl)

/-- A name comes back exactly if all of its characters do. -/
theorem flatMap_readAs_eq_iff {t : Text} :
    t.flatMap readAs = units t ↔ ∀ c ∈ t, IsReadBack c := by
  induction t with
  | nil => simp
  | cons c t ih =>
    rw [List.flatMap_cons, units_cons, List.forall_mem_cons]
    by_cases hc : IsReadBack c
    · rw [readAs_of_isReadBack hc, List.append_cancel_left_eq, ih]
      simp [hc]
    · simp [hc, readAs_append_ne hc]

/-- Groovy reads one text for each name, in order, and it is the name exactly if no character of it
beyond U+FFFF is one that does not print. Names without such characters have different literals. -/
theorem readList?_groovyList (names : List (Option Text)) :
    readList? (units (groovyList names)) =
      some ((normalizeNames names).map fun name => name.flatMap readAs) ∧
    (readList? (units (groovyList names)) = some ((normalizeNames names).map units) ↔
      ∀ name ∈ normalizeNames names, ∀ c ∈ name, IsReadBack c) ∧
    ∀ a b : Text, (∀ c ∈ a, IsReadBack c) → (∀ c ∈ b, IsReadBack c) →
      groovyString a = groovyString b → a = b := by
  choose translated hbody using body_literalBody
  have hread : readList? (units (groovyList names)) =
      some ((normalizeNames names).map fun name => name.flatMap readAs) := by
    rw [units_groovyList]
    exact readList?_listOf hbody _
  refine ⟨hread, ?_, ?_⟩
  · rw [hread, Option.some.injEq, List.map_inj_left]
    exact forall₂_congr fun name _ => flatMap_readAs_eq_iff
  · intro a b ha hb heq
    have hbodies : literalBody a = literalBody b := by
      rw [groovyString_eq, groovyString_eq] at heq
      exact List.append_cancel_right (List.cons.inj heq).2
    have hsource := (hbody a).unescape?
    rw [hbodies, (hbody b).unescape?, Option.some.injEq, flatMap_readAs_eq_iff.2 ha,
      flatMap_readAs_eq_iff.2 hb] at hsource
    exact units_injective hsource.symm

/-- A name with a quote, a line feed, a control character and one beyond U+FFFF that prints. -/
def awkwardName : Text :=
  "it\x27s\n$\x00𝕏".toList

/-- The same name as a caller may write it. -/
def paddedName : Text :=
  ' ' :: awkwardName ++ ['\t']

/-- A name with quotes, backslashes, breaks and a hidden character, with blanks around it. -/
theorem readList?_groovyList_awkwardName :
    (∀ c ∈ awkwardName, IsReadBack c) ∧
    readList? (units (groovyList [some paddedName, none])) = some [units awkwardName] ∧
    groovyString (strip paddedName) = groovyString awkwardName ∧ strip paddedName = awkwardName := by
  have hback : ∀ c ∈ awkwardName, IsReadBack c := by decide +kernel
  have hback' : ∀ c ∈ strip paddedName, IsReadBack c := by decide +kernel
  have hnames : normalizeNames [some paddedName, none] = [awkwardName] := by decide +kernel
  have hsame : groovyString (strip paddedName) = groovyString awkwardName := by decide +kernel
  obtain ⟨-, hiff, hinj⟩ := readList?_groovyList [some paddedName, none]
  rw [hnames] at hiff
  exact ⟨hback, hiff.2 (by simpa using hback), hsame, hinj _ _ hback' hback hsame⟩

/-- The language tag U+E0001 does not print. Its literal is read as U+E000 and the digit 1, and a
name of these two characters has the same literal. -/
theorem groovyString_languageTag :
    [Char.ofNat 0xe0001] ≠ [Char.ofNat 0xe000, '1'] ∧
    groovyString [Char.ofNat 0xe0001] = groovyString [Char.ofNat 0xe000, '1'] ∧
    readList? (units (groovyList [some [Char.ofNat 0xe0001]])) = some [[0xe000, 0x31]] ∧
    readList? (units (groovyList [some [Char.ofNat 0xe0001]])) ≠
      some ((normalizeNames [some [Char.ofNat 0xe0001]]).map units) := by
  decide +kernel

end JarLens.Dependency
