import JarLens.Proofs.Text.LowerCase

/-!
# Case variants in ASCII

A letter beyond ASCII has its small letter beyond ASCII too, but for the Kelvin sign, whose small
letter is k (`smallLetter_of_le`). So a text in lower case ends with a text of ASCII without k only
where the text itself ends with as many letters, each a small or capital one of ASCII
(`endsWith_lower_iff`): nothing else comes into such an end from what lower-casing does.
-/

namespace JarLens.Text

/-! ## One letter -/

/-- No run but that of the Kelvin sign leads into ASCII from beyond it, and all lead to characters. -/
theorem caseRuns_leads : ∀ run ∈ caseRuns, run.last < 128 ∨
    (128 ≤ run.first + run.shift ∧
      (run.last + run.shift < 0xd800 ∨
        0xdfff < run.first + run.shift ∧ run.last + run.shift < 0x110000)) ∨
    (run.first = 0x212a ∧ run.last = 0x212a ∧ run.shift = 0x6b - 0x212a) := by
  decide +kernel

section

variable {c d : Char} {before after : Text}

/-- Beyond ASCII only the Kelvin sign has a small letter in ASCII. -/
theorem smallLetter_of_le (h : 128 ≤ c.toNat) :
    128 ≤ (smallLetter c).toNat ∨ smallLetter c = 'k' := by
  unfold smallLetter
  rw [if_neg (Nat.not_lt.2 h)]
  cases hrun : caseRuns.find? (·.holds c.toNat) with
  | none => exact .inl h
  | some run =>
    have hholds := List.find?_some hrun
    simp only [CaseRun.holds, Bool.and_eq_true, decide_eq_true_eq] at hholds
    obtain ⟨⟨hfirst, hlast⟩, -⟩ := hholds
    rcases caseRuns_leads run (List.mem_of_find?_eq_some hrun) with
      hlow | ⟨hhigh, hvalid⟩ | ⟨hfirst', hlast', hshift⟩
    · omega
    · left
      have hchar : (c.toNat + run.shift).toNat.isValidChar := by
        unfold Nat.isValidChar
        omega
      show 128 ≤ (Char.ofNat (c.toNat + run.shift).toNat).toNat
      rw [Char.ofNat, dif_pos hchar]
      show 128 ≤ (c.toNat + run.shift).toNat
      omega
    · right
      have hkelvin : c.toNat = 0x212a := by omega
      show Char.ofNat (c.toNat + run.shift).toNat = 'k'
      rw [hkelvin, hshift]
      rfl

theorem toLower_of_le (h : 128 ≤ c.toNat) : c.toLower = c := by
  unfold Char.toLower
  rw [dif_neg]
  rintro ⟨-, hz⟩
  rw [UInt32.le_iff_toNat_le] at hz
  have hle : c.toNat ≤ 90 := hz
  omega

/-- What becomes a letter of ASCII was one before. -/
theorem toNat_lt_of_toLower (h : c.toLower.toNat < 128) : c.toNat < 128 := by
  refine Nat.lt_of_not_le fun hle => ?_
  rw [toLower_of_le hle] at h
  omega

/-- A letter is the small letter or the capital one of its lower case. -/
theorem eq_or_eq_toUpper (h : c.toLower = d) : c = d ∨ c = d.toUpper := by
  rcases Nat.lt_or_ge c.toNat 128 with hlt | hle
  · have hascii : ∀ n : Fin 128, Char.ofNat n = (Char.ofNat n).toLower ∨
        Char.ofNat n = (Char.ofNat n).toLower.toUpper := by
      decide
    have hc := hascii ⟨c.toNat, hlt⟩
    rwa [Char.ofNat_toNat, h] at hc
  · exact .inl ((toLower_of_le hle).symm.trans h)

theorem exists_lowerBetween_concat (before : Text) (c : Char) (after : Text) :
    ∃ front d, lowerBetween before c after = front ++ [d] := by
  have hne : lowerBetween before c after ≠ [] := by
    unfold lowerBetween
    split <;> split <;> exact List.cons_ne_nil _ _
  exact ⟨_, _, (List.dropLast_concat_getLast hne).symm⟩

theorem lowerBetween_of_lt (h : c.toNat < 128) : lowerBetween before c after = [c.toLower] := by
  have hsigma : c ≠ '\u03a3' := by
    rintro rfl
    exact absurd h (by decide)
  have hdotted : c ≠ '\u0130' := by
    rintro rfl
    exact absurd h (by decide)
  rw [lowerBetween, if_neg hsigma, if_neg hdotted, smallLetter, if_pos h]

/-- Where the lower case of a character ends in ASCII and not with k, it is one letter of ASCII. -/
theorem lowerBetween_eq_concat {front : Text} (hd : d.toNat < 128) (hk : d ≠ 'k')
    (h : lowerBetween before c after = front ++ [d]) : front = [] ∧ c.toLower = d := by
  rcases Nat.lt_or_ge c.toNat 128 with hlt | hle
  · rw [lowerBetween_of_lt hlt] at h
    rw [← List.nil_append [c.toLower]] at h
    obtain ⟨hfront, hletter⟩ := List.append_inj' h rfl
    exact ⟨hfront.symm, (List.cons.inj hletter).1⟩
  · -- What a character beyond ASCII becomes ends beyond ASCII or with k.
    exfalso
    have hlast : ∀ e, (lowerBetween before c after).getLast? = some e → e = d := by
      intro e he
      rw [h, List.getLast?_concat] at he
      exact (Option.some.inj he).symm
    have hbeyond : ∃ e, (lowerBetween before c after).getLast? = some e ∧
        (128 ≤ e.toNat ∨ e = 'k') := by
      unfold lowerBetween
      split
      · split
        · exact ⟨'\u03c2', rfl, .inl (by decide)⟩
        · exact ⟨'\u03c3', rfl, .inl (by decide)⟩
      · split
        · exact ⟨'\u0307', rfl, .inl (by decide)⟩
        · exact ⟨smallLetter c, rfl, smallLetter_of_le hle⟩
    obtain ⟨e, he, hcase⟩ := hbeyond
    obtain rfl := hlast e he
    rcases hcase with hcase | hcase
    · omega
    · exact hk hcase

end

/-! ## The end of a text -/

section

variable {before t after rest final : Text}

theorem lowerWithin_append (before t u after : Text) :
    lowerWithin before (t ++ u) after =
      lowerWithin before t (u ++ after) ++ lowerWithin (t.reverse ++ before) u after := by
  induction t generalizing before with
  | nil => rfl
  | cons c t ih =>
    rw [List.cons_append, lowerWithin, lowerWithin, ih, List.append_assoc, List.append_assoc,
      List.reverse_cons, List.append_assoc, List.singleton_append]

theorem lowerWithin_of_map (h : t.map Char.toLower = final) (hfinal : ∀ d ∈ final, d.toNat < 128) :
    lowerWithin before t after = final := by
  induction t generalizing before final with
  | nil => exact h
  | cons c t ih =>
    obtain rfl := h
    have hc : c.toNat < 128 := toNat_lt_of_toLower (hfinal _ List.mem_cons_self)
    rw [lowerWithin, lowerBetween_of_lt hc,
      ih rfl fun d hd => hfinal d (List.mem_cons_of_mem _ hd)]
    rfl

/-- What a text in lower case ends with comes letter by letter from the end of the text. The
induction is on the end in lower case, from its last letter to its first. -/
theorem exists_of_lowerWithin_eq_append (hfinal : ∀ d ∈ final, d.toNat < 128 ∧ d ≠ 'k')
    (h : lowerWithin before t after = rest ++ final) :
    ∃ front last, t = front ++ last ∧ last.map Char.toLower = final ∧
      lowerWithin before front (last ++ after) = rest := by
  induction final generalizing rest with
  | nil => exact ⟨t, [], (List.append_nil t).symm, rfl, by rw [List.nil_append, h, List.append_nil]⟩
  | cons d final ih =>
    rw [← List.singleton_append, ← List.append_assoc] at h
    obtain ⟨front, last, rfl, hmap, hfront⟩ :=
      ih (fun e he => hfinal e (List.mem_cons_of_mem d he)) h
    rcases List.eq_nil_or_concat front with rfl | ⟨front, c, rfl⟩
    · simp [lowerWithin] at hfront
    · rw [List.concat_eq_append] at hfront ⊢
      obtain ⟨hd, hk⟩ := hfinal d List.mem_cons_self
      rw [lowerWithin_append, lowerWithin, lowerWithin, List.append_nil] at hfront
      obtain ⟨start, e, hletter⟩ :=
        exists_lowerBetween_concat (front.reverse ++ before) c ([] ++ (last ++ after))
      rw [hletter, ← List.append_assoc] at hfront
      obtain ⟨hrest, hlast⟩ := List.append_inj' hfront rfl
      obtain rfl : e = d := (List.cons.inj hlast).1
      obtain ⟨rfl, hc⟩ := lowerBetween_eq_concat hd hk hletter
      refine ⟨front, c :: last, by simp, by rw [List.map_cons, hc, hmap], ?_⟩
      rw [← hrest, List.append_nil]
      rfl

/-- A lowered text ends with a word exactly if its own end is the word in some letter case. -/
theorem endsWith_lower_iff (hfinal : ∀ d ∈ final, d.toNat < 128 ∧ d ≠ 'k') :
    endsWith (lower t) final = true ↔
      ∃ front last, t = front ++ last ∧ last.map Char.toLower = final := by
  rw [endsWith_iff, lower, lowerAfter_eq]
  constructor
  · rintro ⟨rest, hrest⟩
    obtain ⟨front, last, heq, hmap, -⟩ := exists_of_lowerWithin_eq_append hfinal hrest.symm
    exact ⟨front, last, heq, hmap⟩
  · rintro ⟨front, last, rfl, hmap⟩
    rw [lowerWithin_append, lowerWithin_of_map hmap fun d hd => (hfinal d hd).1]
    exact List.suffix_append _ _

end

end JarLens.Text
