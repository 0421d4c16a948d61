import JarLens.Text.Number
import Mathlib.Tactic.IntervalCases

/-!
# Code units

Readers of Groovy take text as UTF-16 code units, so that the characters beyond U+FFFF count as two.
No two texts have the same units (`units_injective`). The second part is about codes written in
hexadecimal: four digits spell a code unit, and a larger code spells a fifth digit after the four of
a smaller one (`ofHex_of_le`).
-/

namespace JarLens.Text

/-! ## UTF-16 -/

/-- The code units of a character: its code, or two surrogates beyond U+FFFF. -/
def utf16 (c : Char) : List Nat :=
  if c.toNat < 0x10000 then [c.toNat]
  else [0xd800 + (c.toNat - 0x10000) / 0x400, 0xdc00 + (c.toNat - 0x10000) % 0x400]

/-- The code units of a text. -/
def units (t : Text) : List Nat :=
  t.flatMap utf16

theorem utf16_of_lt {c : Char} (h : c.toNat < 0x10000) : utf16 c = [c.toNat] :=
  if_pos h

theorem utf16_of_le {c : Char} (h : 0x10000 ≤ c.toNat) :
    utf16 c = [0xd800 + (c.toNat - 0x10000) / 0x400, 0xdc00 + (c.toNat - 0x10000) % 0x400] :=
  if_neg (Nat.not_lt.2 h)

@[simp] theorem units_nil : units [] = [] := rfl

@[simp] theorem units_cons (c : Char) (t : Text) : units (c :: t) = utf16 c ++ units t :=
  List.flatMap_cons

@[simp] theorem units_append (a b : Text) : units (a ++ b) = units a ++ units b :=
  List.flatMap_append

/-- Without characters beyond the first plane the units are the code points. -/
theorem units_of_forall_lt {t : Text} (h : ∀ c ∈ t, c.toNat < 0x10000) :
    units t = t.map Char.toNat := by
  induction t with
  | nil => rfl
  | cons c t ih =>
    have hc := h c List.mem_cons_self
    have ht := ih fun d hd => h d (List.mem_cons_of_mem c hd)
    rw [units_cons, utf16_of_lt hc, ht, List.map_cons, List.singleton_append]

/-- A character is no surrogate. -/
theorem not_surrogate (c : Char) : c.toNat < 0xd800 ∨ 0xdfff < c.toNat ∧ c.toNat < 0x110000 :=
  c.valid

theorem utf16_ne_nil (c : Char) : utf16 c ≠ [] := by
  unfold utf16
  split <;> exact List.cons_ne_nil _ _

/-- The units of a character are told from those of any other one. -/
theorem utf16_append_inj {c d : Char} {a b : List Nat} (h : utf16 c ++ a = utf16 d ++ b) :
    c = d ∧ a = b := by
  have hcode : c.toNat = d.toNat ∧ a = b := by
    have hc := not_surrogate c
    have hd := not_surrogate d
    rcases Nat.lt_or_ge c.toNat 0x10000 with hc' | hc' <;>
      rcases Nat.lt_or_ge d.toNat 0x10000 with hd' | hd'
    · rw [utf16_of_lt hc', utf16_of_lt hd'] at h
      exact List.cons.inj h
    · -- A unit of its own is no surrogate, and two units start with one.
      rw [utf16_of_lt hc', utf16_of_le hd'] at h
      have hhead := (List.cons.inj h).1
      omega
    · rw [utf16_of_le hc', utf16_of_lt hd'] at h
      have hhead := (List.cons.inj h).1
      omega
    · rw [utf16_of_le hc', utf16_of_le hd'] at h
      obtain ⟨hhead, htail⟩ := List.cons.inj h
      obtain ⟨hlast, hrest⟩ := List.cons.inj htail
      exact ⟨by omega, hrest⟩
  exact ⟨Char.toNat_inj.1 hcode.1, hcode.2⟩

/-- A text is known from its code units. -/
theorem units_injective : Function.Injective units := by
  intro a
  induction a with
  | nil =>
    intro b h
    cases b with
    | nil => rfl
    | cons d b =>
      rw [units_cons] at h
      exact absurd (List.append_eq_nil_iff.1 h.symm).1 (utf16_ne_nil d)
  | cons c a ih =>
    intro b h
    cases b with
    | nil =>
      rw [units_cons] at h
      exact absurd (List.append_eq_nil_iff.1 h).1 (utf16_ne_nil c)
    | cons d b =>
      rw [units_cons, units_cons] at h
      obtain ⟨rfl, hrest⟩ := utf16_append_inj h
      rw [ih hrest]

/-! ## Hexadecimal digits -/

theorem digitValue?_digitChar {d : Nat} (h : d < 16) : digitValue? (Nat.digitChar d) = some d := by
  interval_cases d <;> rfl

/-- One more digit makes the number sixteen times as large, and adds the digit. -/
theorem number?_concat {t : Text} {n d : Nat} (ht : number? 16 t = some n) (hd : d < 16) :
    number? 16 (t ++ [Nat.digitChar d]) = some (n * 16 + d) := by
  unfold number? at ht ⊢
  split at ht
  · cases ht
  · next hne =>
    have hne' : (t ++ [Nat.digitChar d]).isEmpty = false := by simp
    rw [if_neg (by simp [hne']), List.foldl_append, ht]
    simp [digitValue?_digitChar hd, hd]

theorem number?_toDigits (n : Nat) : number? 16 (Nat.toDigits 16 n) = some n := by
  induction n using Nat.strongRecOn with
  | ind n ih =>
    rw [Nat.toDigits_eq_if (by decide)]
    split
    · next hlt =>
      have h := digitValue?_digitChar hlt
      simp [number?, h, hlt]
    · next hge =>
      have hsmaller : n / 16 < n := Nat.div_lt_self (by omega) (by decide)
      rw [number?_concat (ih _ hsmaller) (Nat.mod_lt n (by decide)), Nat.div_add_mod']

theorem number?_zero_cons {t : Text} (h : t ≠ []) : number? 16 ('0' :: t) = number? 16 t := by
  cases t with
  | nil => exact absurd rfl h
  | cons c t => rfl

theorem ofHex_eq (width n : Nat) :
    ofHex width n =
      List.replicate (width - (Nat.toDigits 16 n).length) '0' ++ Nat.toDigits 16 n := rfl

/-- Zeros in front do not change what is read back. -/
theorem number?_ofHex (width n : Nat) : number? 16 (ofHex width n) = some n := by
  rw [ofHex_eq]
  generalize width - (Nat.toDigits 16 n).length = zeros
  induction zeros with
  | zero => exact number?_toDigits n
  | succ zeros ih =>
    have hne : List.replicate zeros '0' ++ Nat.toDigits 16 n ≠ [] := by
      intro hnil
      have hpos := Nat.length_toDigits_pos (b := 16) (n := n)
      rw [(List.append_eq_nil_iff.1 hnil).2] at hpos
      exact absurd hpos (by decide)
    rw [List.replicate_succ, List.cons_append, number?_zero_cons hne, ih]

/-- Four digits are enough for the first plane. -/
theorem length_ofHex {n : Nat} (h : n < 0x10000) : (ofHex 4 n).length = 4 := by
  have hle : (Nat.toDigits 16 n).length ≤ 4 :=
    (Nat.length_toDigits_le_iff (by decide) (by decide)).2 (by omega)
  rw [ofHex_eq, List.length_append, List.length_replicate]
  omega

/-- A code that takes more than four digits ends in one after those of a smaller code. -/
theorem ofHex_of_le {n : Nat} (h : 0x10000 ≤ n) :
    ofHex 4 n = ofHex 4 (n / 16) ++ [Nat.digitChar (n % 16)] := by
  have hlong : ∀ {m}, 0x1000 ≤ m → 4 ≤ (Nat.toDigits 16 m).length := by
    intro m hm
    by_contra hshort
    have hle : (Nat.toDigits 16 m).length ≤ 3 := by omega
    have hlt := (Nat.length_toDigits_le_iff (by decide) (by decide)).1 hle
    omega
  have hnoZeros : ∀ {m}, 0x1000 ≤ m → ofHex 4 m = Nat.toDigits 16 m := by
    intro m hm
    rw [ofHex_eq, Nat.sub_eq_zero_of_le (hlong hm)]
    rfl
  rw [hnoZeros (by omega), hnoZeros (by omega), Nat.toDigits_of_base_le (by decide) (by omega)]

theorem exists_digit_of_mem_toDigits {n : Nat} {c : Char} (h : c ∈ Nat.toDigits 16 n) :
    ∃ d < 16, c = Nat.digitChar d := by
  induction n using Nat.strongRecOn with
  | ind n ih =>
    rw [Nat.toDigits_eq_if (by decide)] at h
    split at h
    · next hlt => exact ⟨n, hlt, List.mem_singleton.1 h⟩
    · next hge =>
      rcases List.mem_append.1 h with h | h
      · exact ih _ (Nat.div_lt_self (by omega) (by decide)) h
      · exact ⟨n % 16, Nat.mod_lt n (by decide), List.mem_singleton.1 h⟩

theorem exists_digit_of_mem_ofHex {width n : Nat} {c : Char} (h : c ∈ ofHex width n) :
    ∃ d < 16, c = Nat.digitChar d := by
  rcases List.mem_append.1 h with h | h
  · exact ⟨0, by decide, List.eq_of_mem_replicate h⟩
  · exact exists_digit_of_mem_toDigits h

end JarLens.Text
