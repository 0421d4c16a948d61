import JarLens.Proofs.Text.CodeUnits

/-!
# Reading Groovy source

How Groovy takes a list of single-quoted literals, in code units: `scanList?` finds the literals from
left to right, `unescape?` gives the units that the body of one stands for, and `translate?` is the
pass over the whole source that some readers make first, in which Unicode escapes become code units
wherever they stand.

`Body source translated value` says what such a body looks like when it is safe: from one list of
units each of the three passes finds what it should (`Body.scanFrom?`, `Body.translateFrom?`,
`Body.unescape?`), whatever follows. Two bodies make one (`Body.append`), so that it is enough to
look at a character at a time.
-/

namespace JarLens.Dependency.Groovy

open JarLens.Text

abbrev quoteMark : Nat := 0x27
abbrev backslash : Nat := 0x5c
abbrev letterU : Nat := 0x75
abbrev lineFeed : Nat := 0x0a
abbrev carriageReturn : Nat := 0x0d

/-! ## The passes -/

/-- What a letter after a backslash stands for. -/
def letterMeaning? (d : Nat) : Option Nat :=
  if d = backslash then some backslash
  else if d = quoteMark then some quoteMark
  else if d = 0x6e then some lineFeed
  else if d = 0x72 then some carriageReturn
  else if d = 0x74 then some 0x09
  else none

/-- The code unit that four hexadecimal digits spell. -/
def codeUnit? (digits : List Nat) : Option Nat :=
  if digits.length = 4 then number? 16 (digits.map Char.ofNat) else none

/-- The code units that the body of a literal stands for. -/
def unescape? : List Nat → Option (List Nat)
  | [] => some []
  | u :: rest =>
    if u = backslash then
      match rest with
      | [] => none
      | d :: rest =>
        if d = letterU then
          match rest with
          | a :: b :: c :: e :: rest => do
            let unit ← codeUnit? [a, b, c, e]
            (unescape? rest).map (unit :: ·)
          | _ => none
        else do
          let unit ← letterMeaning? d
          (unescape? rest).map (unit :: ·)
    else (unescape? rest).map (u :: ·)

/-- Where a scan of a list of literals is. -/
inductive ScanPoint where
  /-- Before the list. -/
  | opening
  /-- After the bracket: a literal follows, or the list ends. -/
  | first
  /-- In a literal, after this much of its body. -/
  | inside (body : List Nat)
  /-- In a literal, after a backslash, which takes the next unit with it. -/
  | taking (body : List Nat)
  /-- After a literal: a comma follows, or the list ends. -/
  | closed
  | comma
  /-- After a comma and a space: a literal follows. -/
  | next

/-- The bodies of the literals up to the end of the list, after those found before, and what follows
the list. -/
def scanFrom? : ScanPoint → List (List Nat) → List Nat → Option (List (List Nat) × List Nat)
  | _, _, [] => none
  | .opening, found, u :: rest => if u = '['.toNat then scanFrom? .first found rest else none
  | .first, found, u :: rest =>
    if u = quoteMark then scanFrom? (.inside []) found rest
    else if u = ']'.toNat then some (found, rest)
    else none
  | .inside body, found, u :: rest =>
    if u = quoteMark then scanFrom? .closed (found ++ [body]) rest
    else if u = backslash then scanFrom? (.taking body) found rest
    else scanFrom? (.inside (body ++ [u])) found rest
  | .taking body, found, u :: rest => scanFrom? (.inside (body ++ [backslash, u])) found rest
  | .closed, found, u :: rest =>
    if u = ','.toNat then scanFrom? .comma found rest
    else if u = ']'.toNat then some (found, rest)
    else none
  | .comma, found, u :: rest => if u = ' '.toNat then scanFrom? .next found rest else none
  | .next, found, u :: rest =>
    if u = quoteMark then scanFrom? (.inside []) found rest else none

/-- The bodies of the literals in the list that a source starts with, and what follows the list. -/
def scanList? (source : List Nat) : Option (List (List Nat) × List Nat) :=
  scanFrom? .opening [] source

/-- What the literals of a list stand for, where the source is a list and nothing else. -/
def readList? (source : List Nat) : Option (List (List Nat)) := do
  let (bodies, rest) ← scanList? source
  if rest = [] then bodies.mapM unescape? else none

/-- Where a pass that translates Unicode escapes is. -/
inductive EscapePoint where
  | outside
  /-- After a backslash that no other one takes. -/
  | begun
  /-- After that and some letters `u`, with these digits. -/
  | code (digits : List Nat)

/-- The source with a code unit in place of every Unicode escape. A backslash that another one takes
starts none. -/
def translateFrom? : EscapePoint → List Nat → Option (List Nat)
  | .outside, [] => some []
  | .outside, u :: rest =>
    if u = backslash then translateFrom? .begun rest
    else (translateFrom? .outside rest).map (u :: ·)
  | .begun, [] => some [backslash]
  | .begun, u :: rest =>
    if u = letterU then translateFrom? (.code []) rest
    else (translateFrom? .outside rest).map (backslash :: u :: ·)
  | .code _, [] => none
  | .code digits, u :: rest =>
    if digits = [] ∧ u = letterU then translateFrom? (.code []) rest
    else if digits.length < 3 then translateFrom? (.code (digits ++ [u])) rest
    else do
      let unit ← codeUnit? (digits ++ [u])
      (translateFrom? .outside rest).map (unit :: ·)

/-- The source as readers see it that translate Unicode escapes first. -/
def translate? (source : List Nat) : Option (List Nat) :=
  translateFrom? .outside source

/-- For each backslash that takes the next unit with it, what follows the backslash. -/
def afterBackslashes : List Nat → List (List Nat)
  | [] => []
  | u :: rest =>
    if u = backslash then
      match rest with
      | [] => [[]]
      | d :: rest => (d :: rest) :: afterBackslashes rest
    else afterBackslashes rest

/-! ## One unit at a time -/

section Steps

variable {u d unit : Nat} {rest : List Nat}

theorem unescape?_plain (h : u ≠ backslash) :
    unescape? (u :: rest) = (unescape? rest).map (u :: ·) := by
  conv => lhs; unfold unescape?
  rw [if_neg h]

theorem unescape?_letter (h : letterMeaning? d = some unit) :
    unescape? (backslash :: d :: rest) = (unescape? rest).map (unit :: ·) := by
  have hd : d ≠ letterU := by
    rintro rfl
    cases h
  conv => lhs; unfold unescape?
  rw [if_pos rfl]
  simp only [if_neg hd, h, Option.bind_eq_bind, Option.bind_some]

theorem unescape?_code {a b c e : Nat} (h : codeUnit? [a, b, c, e] = some unit) :
    unescape? (backslash :: letterU :: a :: b :: c :: e :: rest) =
      (unescape? rest).map (unit :: ·) := by
  conv => lhs; unfold unescape?
  rw [if_pos rfl]
  simp only [↓reduceIte, h, Option.bind_eq_bind, Option.bind_some]

theorem translateFrom?_plain (h : u ≠ backslash) :
    translateFrom? .outside (u :: rest) = (translateFrom? .outside rest).map (u :: ·) := by
  rw [translateFrom?, if_neg h]

/-- Translation keeps a backslash that starts no Unicode escape, with what follows it. -/
theorem translateFrom?_letter (h : d ≠ letterU) :
    translateFrom? .outside (backslash :: d :: rest) =
      (translateFrom? .outside rest).map (backslash :: d :: ·) := by
  rw [translateFrom?, if_pos rfl, translateFrom?, if_neg h]

theorem translateFrom?_code {a b c e : Nat} (ha : a ≠ letterU)
    (h : codeUnit? [a, b, c, e] = some unit) :
    translateFrom? .outside (backslash :: letterU :: a :: b :: c :: e :: rest) =
      (translateFrom? .outside rest).map (unit :: ·) := by
  simp [translateFrom?, ha, h]

theorem scanFrom?_plain {body : List Nat} {found : List (List Nat)} (hq : u ≠ quoteMark)
    (hb : u ≠ backslash) :
    scanFrom? (.inside body) found (u :: rest) = scanFrom? (.inside (body ++ [u])) found rest := by
  rw [scanFrom?, if_neg hq, if_neg hb]

/-- A backslash takes the next unit with it, also a quote. -/
theorem scanFrom?_taken {body : List Nat} {found : List (List Nat)} :
    scanFrom? (.inside body) found (backslash :: d :: rest) =
      scanFrom? (.inside (body ++ [backslash, d])) found rest := by
  rw [scanFrom?, if_neg (by decide), if_pos rfl, scanFrom?]

end Steps

/-! ## Bodies of literals -/

/-- The unit has no meaning of its own in a literal, and no line ends with it. -/
def IsPlain (u : Nat) : Prop :=
  u ≠ quoteMark ∧ u ≠ backslash ∧ u ≠ lineFeed ∧ u ≠ carriageReturn

instance (u : Nat) : Decidable (IsPlain u) :=
  inferInstanceAs (Decidable (_ ∧ _ ∧ _ ∧ _))

/-- What lies beyond ASCII has no meaning of its own. -/
theorem isPlain_of_le {u : Nat} (h : 0x80 ≤ u) : IsPlain u := by
  have hne : ∀ v < 0x80, u ≠ v := fun v hv heq => absurd (heq ▸ h) (Nat.not_le.2 hv)
  exact ⟨hne _ (by decide), hne _ (by decide), hne _ (by decide), hne _ (by decide)⟩

/-- What follows a backslash is a letter that stands for something. -/
def IsLetter (after : List Nat) : Prop :=
  ∃ d rest unit, after = d :: rest ∧ letterMeaning? d = some unit

/-- What follows a backslash is the code of a unit that has no meaning of its own. -/
def IsCode (after : List Nat) : Prop :=
  ∃ digits rest unit, after = letterU :: digits ++ rest ∧ codeUnit? digits = some unit ∧
    IsPlain unit

/-- The body of a literal as it is written, as it is once Unicode escapes are translated, and what
it stands for. -/
inductive Body : List Nat → List Nat → List Nat → Prop
  | nil : Body [] [] []
  | plain {u source translated value} (hu : IsPlain u) (h : Body source translated value) :
      Body (u :: source) (u :: translated) (u :: value)
  | letter {d unit source translated value} (hd : letterMeaning? d = some unit)
      (h : Body source translated value) :
      Body (backslash :: d :: source) (backslash :: d :: translated) (unit :: value)
  | code {a b c e unit source translated value} (hdigits : ∀ u ∈ [a, b, c, e], IsPlain u)
      (ha : a ≠ letterU) (hunit : codeUnit? [a, b, c, e] = some unit) (hplain : IsPlain unit)
      (h : Body source translated value) :
      Body (backslash :: letterU :: a :: b :: c :: e :: source) (unit :: translated) (unit :: value)

/-- Five letters mean something after a backslash. -/
theorem letterMeaning?_cases {d unit : Nat} (h : letterMeaning? d = some unit) :
    d = backslash ∧ unit = backslash ∨ d = quoteMark ∧ unit = quoteMark ∨
      d = 0x6e ∧ unit = lineFeed ∨ d = 0x72 ∧ unit = carriageReturn ∨ d = 0x74 ∧ unit = 0x09 := by
  unfold letterMeaning? at h
  split_ifs at h with h₁ h₂ h₃ h₄ h₅
  · exact .inl ⟨h₁, (Option.some.inj h).symm⟩
  · exact .inr (.inl ⟨h₂, (Option.some.inj h).symm⟩)
  · exact .inr (.inr (.inl ⟨h₃, (Option.some.inj h).symm⟩))
  · exact .inr (.inr (.inr (.inl ⟨h₄, (Option.some.inj h).symm⟩)))
  · exact .inr (.inr (.inr (.inr ⟨h₅, (Option.some.inj h).symm⟩)))

theorem letterMeaning?_ne {d unit : Nat} (h : letterMeaning? d = some unit) :
    d ≠ letterU ∧ d ≠ lineFeed ∧ d ≠ carriageReturn := by
  rcases letterMeaning?_cases h with ⟨rfl, -⟩ | ⟨rfl, -⟩ | ⟨rfl, -⟩ | ⟨rfl, -⟩ | ⟨rfl, -⟩ <;> decide

theorem letterMeaning?_lt {d unit : Nat} (h : letterMeaning? d = some unit) :
    d < 0x80 ∧ unit < 0x80 := by
  rcases letterMeaning?_cases h with ⟨rfl, rfl⟩ | ⟨rfl, rfl⟩ | ⟨rfl, rfl⟩ | ⟨rfl, rfl⟩ | ⟨rfl, rfl⟩ <;>
    decide

namespace Body

variable {source translated value : List Nat}

/-- Bodies can be put together, for each pass goes on after the first one as if it stood alone. -/
theorem append {source' translated' value' : List Nat} (h : Body source translated value)
    (h' : Body source' translated' value') :
    Body (source ++ source') (translated ++ translated') (value ++ value') := by
  induction h with
  | nil => exact h'
  | plain hu _ ih => exact .plain hu ih
  | letter hd _ ih => exact .letter hd ih
  | code hdigits ha hunit hplain _ ih => exact .code hdigits ha hunit hplain ih

theorem of_plain {us : List Nat} (h : ∀ u ∈ us, IsPlain u) : Body us us us := by
  induction us with
  | nil => exact .nil
  | cons u us ih =>
    exact .plain (h u List.mem_cons_self) (ih fun v hv => h v (List.mem_cons_of_mem u hv))

/-- A body stands for its value. -/
theorem unescape? (h : Body source translated value) : unescape? source = some value := by
  induction h with
  | nil => rfl
  | plain hu _ ih => rw [unescape?_plain hu.2.1, ih, Option.map_some]
  | letter hd _ ih => rw [unescape?_letter hd, ih, Option.map_some]
  | code _ _ hunit _ _ ih => rw [unescape?_code hunit, ih, Option.map_some]

/-- Translating passes a body and goes on with what follows. -/
theorem translateFrom? (h : Body source translated value) (rest : List Nat) :
    translateFrom? .outside (source ++ rest) =
      (Groovy.translateFrom? .outside rest).map (translated ++ ·) := by
  induction h with
  | nil => simp
  | plain hu _ ih =>
    rw [List.cons_append, translateFrom?_plain hu.2.1, ih, Option.map_map]
    rfl
  | letter hd _ ih =>
    rw [List.cons_append, List.cons_append, translateFrom?_letter (letterMeaning?_ne hd).1, ih,
      Option.map_map]
    rfl
  | code _ ha hunit _ _ ih =>
    simp only [List.cons_append]
    rw [translateFrom?_code ha hunit, ih, Option.map_map]
    rfl

/-- A scan passes a body and is still in the literal then. -/
theorem scanFrom? (h : Body source translated value) (body : List Nat) (found : List (List Nat))
    (rest : List Nat) :
    scanFrom? (.inside body) found (source ++ rest) =
      Groovy.scanFrom? (.inside (body ++ source)) found rest := by
  induction h generalizing body with
  | nil => simp
  | plain hu _ ih =>
    rw [List.cons_append, scanFrom?_plain hu.1 hu.2.1, ih]
    simp
  | letter _ _ ih =>
    rw [List.cons_append, List.cons_append, scanFrom?_taken, ih]
    simp
  | @code a b c e _ _ _ _ hdigits _ _ _ _ ih =>
    have ha : IsPlain a := hdigits a (by simp)
    have hb : IsPlain b := hdigits b (by simp)
    have hc : IsPlain c := hdigits c (by simp)
    have he : IsPlain e := hdigits e (by simp)
    simp only [List.cons_append]
    rw [scanFrom?_taken, scanFrom?_plain ha.1 ha.2.1, scanFrom?_plain hb.1 hb.2.1,
      scanFrom?_plain hc.1 hc.2.1, scanFrom?_plain he.1 he.2.1, ih]
    simp

/-- What a body becomes by translating is a body. -/
theorem translated_body (h : Body source translated value) : Body translated translated value := by
  induction h with
  | nil => exact .nil
  | plain hu _ ih => exact .plain hu ih
  | letter hd _ ih => exact .letter hd ih
  | code _ _ _ hplain _ ih => exact .plain hplain ih

/-- No line ends in a body. -/
theorem not_lineEnd (h : Body source translated value) :
    lineFeed ∉ source ∧ carriageReturn ∉ source := by
  have hmem : ∀ u ∈ source, u ≠ lineFeed ∧ u ≠ carriageReturn := by
    induction h with
    | nil => simp
    | plain hu _ ih =>
      rw [List.forall_mem_cons]
      exact ⟨⟨hu.2.2.1, hu.2.2.2⟩, ih⟩
    | letter hd _ ih =>
      have hletter := letterMeaning?_ne hd
      rw [List.forall_mem_cons, List.forall_mem_cons]
      exact ⟨by decide, ⟨hletter.2.1, hletter.2.2⟩, ih⟩
    | @code a b c e _ source _ _ hdigits _ _ _ _ ih =>
      have hdigits' : ∀ u ∈ [a, b, c, e], u ≠ lineFeed ∧ u ≠ carriageReturn := fun u hu =>
        ⟨(hdigits u hu).2.2.1, (hdigits u hu).2.2.2⟩
      rw [List.forall_mem_cons, List.forall_mem_cons]
      refine ⟨by decide, by decide, fun u hu => ?_⟩
      rcases List.mem_append.1 (show u ∈ [a, b, c, e] ++ source from hu) with hu | hu
      · exact hdigits' u hu
      · exact ih u hu
  exact ⟨fun h => (hmem _ h).1 rfl, fun h => (hmem _ h).2 rfl⟩

theorem afterBackslashes_plain {us : List Nat} (h : ∀ u ∈ us, IsPlain u) (rest : List Nat) :
    afterBackslashes (us ++ rest) = afterBackslashes rest := by
  induction us with
  | nil => rfl
  | cons u us ih =>
    have hu := h u List.mem_cons_self
    rw [List.cons_append]
    conv => lhs; unfold afterBackslashes
    rw [if_neg hu.2.1, ih fun v hv => h v (List.mem_cons_of_mem u hv)]

theorem afterBackslashes_taken (d : Nat) (rest : List Nat) :
    afterBackslashes (backslash :: d :: rest) = (d :: rest) :: afterBackslashes rest := by
  conv => lhs; unfold afterBackslashes
  rw [if_pos rfl]

/-- Every backslash in a body takes a letter or the code of a plain unit. -/
theorem isEscape (h : Body source translated value) :
    ∀ after ∈ afterBackslashes source, IsLetter after ∨ IsCode after := by
  induction h with
  | nil => simp [afterBackslashes]
  | @plain u source _ _ hu _ ih =>
    have hskip := afterBackslashes_plain (show ∀ v ∈ [u], IsPlain v by simpa using hu) source
    rw [List.singleton_append] at hskip
    rwa [hskip]
  | @letter d unit source _ _ hd _ ih =>
    rw [afterBackslashes_taken, List.forall_mem_cons]
    exact ⟨.inl ⟨d, source, unit, rfl, hd⟩, ih⟩
  | @code a b c e unit source _ _ hdigits _ hunit hplain _ ih =>
    have hskip := afterBackslashes_plain hdigits source
    rw [afterBackslashes_taken, List.forall_mem_cons]
    refine ⟨.inr ⟨[a, b, c, e], source, unit, rfl, hunit, hplain⟩, ?_⟩
    rwa [show a :: b :: c :: e :: source = [a, b, c, e] ++ source from rfl, hskip]

/-- Once Unicode escapes are translated every backslash in a body takes a letter. -/
theorem isLetter (h : Body source translated value) :
    ∀ after ∈ afterBackslashes translated, IsLetter after := by
  induction h with
  | nil => simp [afterBackslashes]
  | @plain u _ translated _ hu _ ih =>
    have hskip := afterBackslashes_plain (show ∀ v ∈ [u], IsPlain v by simpa using hu) translated
    rw [List.singleton_append] at hskip
    rwa [hskip]
  | @letter d unit _ translated _ hd _ ih =>
    rw [afterBackslashes_taken, List.forall_mem_cons]
    exact ⟨⟨d, translated, unit, rfl, hd⟩, ih⟩
  | @code _ _ _ _ unit _ translated _ _ _ _ hplain _ ih =>
    have hskip := afterBackslashes_plain (show ∀ v ∈ [unit], IsPlain v by simpa using hplain)
      translated
    rw [List.singleton_append] at hskip
    rwa [hskip]

end Body

/-! ## Lists of literals -/

/-- A literal with a body. -/
def quoted (body : List Nat) : List Nat :=
  quoteMark :: body ++ [quoteMark]

/-- Literals with a comma and a space between them. -/
def literals : List (List Nat) → List Nat
  | [] => []
  | [body] => quoted body
  | body :: bodies => quoted body ++ [','.toNat, ' '.toNat] ++ literals bodies

/-- A list of literals. -/
def listOf (bodies : List (List Nat)) : List Nat :=
  '['.toNat :: literals bodies ++ [']'.toNat]

section Lists

theorem literals_cons {body : List Nat} {bodies : List (List Nat)} (h : bodies ≠ []) :
    literals (body :: bodies) = quoted body ++ [','.toNat, ' '.toNat] ++ literals bodies := by
  cases bodies with
  | nil => exact absurd rfl h
  | cons _ _ => rfl

/-- A literal with a safe body ends at the quote behind the body. -/
theorem scanFrom?_quoted {body translated value : List Nat} (h : Body body translated value)
    (found : List (List Nat)) (rest : List Nat) :
    scanFrom? .next found (quoted body ++ rest) = scanFrom? .closed (found ++ [body]) rest := by
  have hsplit : quoted body ++ rest = quoteMark :: (body ++ quoteMark :: rest) := by
    simp [quoted]
  rw [hsplit, scanFrom?, if_pos rfl, h.scanFrom?, List.nil_append, scanFrom?, if_pos rfl]

variable {bodies : List (List Nat)}

/-- By induction over the bodies, all literals of a list are found, up to its bracket. -/
theorem scanFrom?_literals (hne : bodies ≠ [])
    (h : ∀ body ∈ bodies, ∃ translated value, Body body translated value)
    (found : List (List Nat)) (rest : List Nat) :
    scanFrom? .next found (literals bodies ++ ']'.toNat :: rest) = some (found ++ bodies, rest) := by
  induction bodies generalizing found with
  | nil => exact absurd rfl hne
  | cons body bodies ih =>
    obtain ⟨translated, value, hbody⟩ := h body List.mem_cons_self
    by_cases hlast : bodies = []
    · subst hlast
      rw [literals, scanFrom?_quoted hbody, scanFrom?, if_neg (by decide), if_pos rfl]
    · have hrest := ih hlast (fun b hb => h b (List.mem_cons_of_mem body hb)) (found ++ [body])
      rw [literals_cons hlast, List.append_assoc, List.append_assoc, scanFrom?_quoted hbody,
        List.cons_append, scanFrom?, if_pos rfl, List.cons_append, scanFrom?, if_pos rfl,
        List.nil_append, hrest, List.append_assoc, List.singleton_append]

/-- A scan finds the bodies of a list of literals, and stops behind the list. -/
theorem scanList?_listOf (h : ∀ body ∈ bodies, ∃ translated value, Body body translated value)
    (rest : List Nat) : scanList? (listOf bodies ++ rest) = some (bodies, rest) := by
  have hopen : listOf bodies ++ rest = '['.toNat :: (literals bodies ++ ']'.toNat :: rest) := by
    simp [listOf]
  rw [scanList?, hopen, scanFrom?, if_pos rfl]
  by_cases hne : bodies = []
  · subst hne
    rw [literals, List.nil_append, scanFrom?, if_neg (by decide), if_pos rfl]
  · -- A list that is not empty goes on as after a comma.
    have hfirst : scanFrom? .first [] (literals bodies ++ ']'.toNat :: rest) =
        scanFrom? .next [] (literals bodies ++ ']'.toNat :: rest) := by
      obtain ⟨u, hu⟩ : ∃ u, literals bodies = quoteMark :: u := by
        obtain ⟨body, others, rfl⟩ := List.exists_cons_of_ne_nil hne
        cases others with
        | nil => exact ⟨_, rfl⟩
        | cons _ _ => exact ⟨_, rfl⟩
      rw [hu, List.cons_append, scanFrom?, if_pos rfl, scanFrom?, if_pos rfl]
    rw [hfirst, scanFrom?_literals hne h, List.nil_append]

/-- A literal with a safe body is translated by itself. -/
theorem translateFrom?_quoted {body translated value : List Nat} (h : Body body translated value)
    (rest : List Nat) :
    translateFrom? .outside (quoted body ++ rest) =
      (translateFrom? .outside rest).map (quoted translated ++ ·) := by
  have hsplit : quoted body ++ rest = quoteMark :: (body ++ quoteMark :: rest) := by
    simp [quoted]
  rw [hsplit, translateFrom?_plain (by decide), h.translateFrom?, translateFrom?_plain (by decide),
    Option.map_map, Option.map_map]
  congr 1
  funext after
  simp [quoted]

variable {α : Type} {source translated value : α → List Nat}

/-- By induction over the bodies, translation stays within the literals. -/
theorem translateFrom?_literals (h : ∀ x, Body (source x) (translated x) (value x)) (xs : List α)
    (rest : List Nat) :
    translateFrom? .outside (literals (xs.map source) ++ rest) =
      (translateFrom? .outside rest).map (literals (xs.map translated) ++ ·) := by
  induction xs with
  | nil => simp [literals]
  | cons x xs ih =>
    by_cases hlast : xs = []
    · subst hlast
      exact translateFrom?_quoted (h x) rest
    · have hsource : xs.map source ≠ [] := by simpa using hlast
      have htranslated : xs.map translated ≠ [] := by simpa using hlast
      rw [List.map_cons, literals_cons hsource, List.append_assoc, List.append_assoc,
        translateFrom?_quoted (h x), List.cons_append, translateFrom?_plain (by decide),
        List.cons_append, translateFrom?_plain (by decide), List.nil_append, ih, List.map_cons,
        literals_cons htranslated]
      simp only [Option.map_map]
      congr 1
      funext after
      simp

/-- Translating a list of literals with safe bodies translates each body by itself. -/
theorem translate?_listOf (h : ∀ x, Body (source x) (translated x) (value x)) (xs : List α)
    (rest : List Nat) :
    translate? (listOf (xs.map source) ++ rest) =
      (translate? rest).map (listOf (xs.map translated) ++ ·) := by
  have hopen : listOf (xs.map source) ++ rest =
      '['.toNat :: (literals (xs.map source) ++ ']'.toNat :: rest) := by
    simp [listOf]
  unfold translate?
  rw [hopen, translateFrom?_plain (by decide), translateFrom?_literals h,
    translateFrom?_plain (by decide), Option.map_map, Option.map_map]
  congr 1
  funext after
  simp [listOf]

/-- A list of literals with safe bodies is read as their values. -/
theorem readList?_listOf (h : ∀ x, Body (source x) (translated x) (value x)) (xs : List α) :
    readList? (listOf (xs.map source)) = some (xs.map value) := by
  have hscan : scanList? (listOf (xs.map source)) = some (xs.map source, []) := by
    have hbodies : ∀ body ∈ xs.map source, ∃ translated value, Body body translated value := by
      intro body hbody
      obtain ⟨x, -, rfl⟩ := List.mem_map.1 hbody
      exact ⟨_, _, h x⟩
    have hfound := scanList?_listOf hbodies []
    rwa [List.append_nil] at hfound
  have hvalues : (xs.map source).mapM unescape? = some (xs.map value) := by
    clear hscan
    induction xs with
    | nil => rfl
    | cons x xs ih =>
      rw [List.map_cons, List.mapM_cons, (h x).unescape?, ih]
      rfl
  unfold readList?
  rw [hscan]
  exact hvalues

end Lists

end JarLens.Dependency.Groovy
