import JarLens.Dependency.InitScript
import JarLens.Proofs.Dependency.GroovyLiteral

/-!
# No name leaves its literal

The listing script is three fixed parts around the list of names and a truth value. Names are given
by whoever asks for a scan, so that it matters that none of them can end its literal or start
something else: `initScript_confines` says that readers find one literal for each name and the fixed
parts around them, also readers that translate Unicode escapes before anything else. Why that holds
is said by `Groovy.Body`, which the body of every literal satisfies; what remains is that literals
only hold characters that print.
-/

namespace JarLens.Dependency

open JarLens.Text JarLens.Dependency.Groovy

/-! ## Characters that print -/

theorem isPrintable_of_ascii {c : Char} (h : 0x20 ≤ c.toNat) (h' : c.toNat < 0x7f) :
    isPrintable c = true := by
  have houtside : ∀ span ∈ hiddenSpans, span.2 < 0x20 ∨ 0x7f ≤ span.1 := by decide +kernel
  rw [isPrintable, inSpans, Bool.not_eq_true', List.any_eq_false]
  intro span hspan
  rcases houtside span hspan with hbelow | habove
  · simp only [Bool.and_eq_true, decide_eq_true_eq]
    omega
  · simp only [Bool.and_eq_true, decide_eq_true_eq]
    omega

/-- No line ends with a character that prints. -/
theorem isLineBreak_of_isPrintable {c : Char} (h : isPrintable c = true) :
    isLineBreak c = false := by
  have hbreaks : (['\n', '\x0b', '\x0c', '\r', '\x1c', '\x1d', '\x1e', '\u0085', '\u2028',
      '\u2029'].all fun d => !isPrintable d) = true := by decide +kernel
  by_contra hbreak
  rw [Bool.not_eq_false] at hbreak
  have hmem : c ∈ ['\n', '\x0b', '\x0c', '\r', '\x1c', '\x1d', '\x1e', '\u0085', '\u2028',
      '\u2029'] := by
    simpa [isLineBreak, or_assoc] using hbreak
  have hhidden := List.all_eq_true.1 hbreaks c hmem
  rw [h] at hhidden
  cases hhidden

theorem isPrintable_digitChar {d : Nat} (h : d < 16) : isPrintable (Nat.digitChar d) = true := by
  have hrange : 0x20 ≤ (Nat.digitChar d).toNat := by
    interval_cases d <;> decide
  exact isPrintable_of_ascii hrange (Nat.lt_trans (digitChar_lt h) (by decide))

/-- Every character is written with characters that print. -/
theorem isPrintable_groovyChar (c : Char) : ∀ d ∈ groovyChar c, isPrintable d = true := by
  have hbackslash : isPrintable '\\' = true := isPrintable_of_ascii (by decide) (by decide)
  generalize hwritten : groovyChar c = t
  have h := hwritten ▸ isWritten_groovyChar c
  cases h with
  | itself hprint hplain => simpa using hprint
  | @letter d hd =>
    have hletter : isPrintable d = true := by
      rcases letterMeaning?_cases hd with ⟨h, -⟩ | ⟨h, -⟩ | ⟨h, -⟩ | ⟨h, -⟩ | ⟨h, -⟩ <;>
        exact isPrintable_of_ascii (h ▸ by decide) (h ▸ by decide)
    simpa using ⟨hbackslash, hletter⟩
  | code hhidden hplain =>
    intro d hd
    rcases List.mem_cons.1 hd with rfl | hd
    · exact hbackslash
    · rcases List.mem_cons.1 hd with rfl | hd
      · exact isPrintable_of_ascii (by decide) (by decide)
      · obtain ⟨v, hv, rfl⟩ := exists_digit_of_mem_ofHex hd
        exact isPrintable_digitChar hv

/-! ## The script -/

/-- Nothing between the quotes of a literal ends the literal or a line, neither as it is written nor
once Unicode escapes are translated. -/
structure IsInert (body : Text) (translated : List Nat) : Prop where
  printable : ∀ c ∈ body, isPrintable c = true
  unbroken : ∀ c ∈ body, isLineBreak c = false
  /-- A backslash takes one of the letters with a meaning, or the code of a unit that is neither
  quote nor backslash nor the end of a line. -/
  escapes : ∀ after ∈ afterBackslashes (units body), IsLetter after ∨ IsCode after
  translates : translate? (units body) = some translated
  no_lineFeed : lineFeed ∉ translated
  no_carriageReturn : carriageReturn ∉ translated
  letters : ∀ after ∈ afterBackslashes translated, IsLetter after

/-- The body of a literal has no line end and no quote of its own, also after translation. -/
theorem isInert_of_body {t : Text} {translated value : List Nat}
    (h : Body (units (literalBody t)) translated value) : IsInert (literalBody t) translated := by
  have hprintable : ∀ c ∈ literalBody t, isPrintable c = true := by
    intro c hc
    obtain ⟨d, -, hd⟩ := List.mem_flatMap.1 hc
    exact isPrintable_groovyChar d c hd
  have htranslates : translate? (units (literalBody t)) = some translated := by
    have hpass := h.translateFrom? []
    rw [List.append_nil] at hpass
    rw [translate?, hpass, translateFrom?, Option.map_some, List.append_nil]
  exact
    { printable := hprintable
      unbroken := fun c hc => isLineBreak_of_isPrintable (hprintable c hc)
      escapes := h.isEscape
      translates := htranslates
      no_lineFeed := h.translated_body.not_lineEnd.1
      no_carriageReturn := h.translated_body.not_lineEnd.2
      letters := h.isLetter }

/-- Translating leaves text alone in which no backslash stands. -/
theorem translateFrom?_of_not_mem {us : List Nat} (h : backslash ∉ us) (rest : List Nat) :
    translateFrom? .outside (us ++ rest) = (translateFrom? .outside rest).map (us ++ ·) := by
  induction us with
  | nil => simp
  | cons u us ih =>
    have hu : u ≠ backslash := fun heq => h (heq ▸ List.mem_cons_self)
    have hus : backslash ∉ us := fun hmem => h (List.mem_cons_of_mem u hmem)
    rw [List.cons_append, translateFrom?_plain hu, ih hus, Option.map_map]
    rfl

/-- What follows the list of names in a script. -/
def scriptRest (excludeTransitive : Bool) : Text :=
  scriptMiddle ++ (if excludeTransitive then "true" else "false").toList ++ scriptTail

theorem backslash_not_mem_scriptHead : backslash ∉ units scriptHead := by decide +kernel

theorem backslash_not_mem_scriptTail : backslash ∉ units scriptTail := by decide +kernel

/-- The fixed parts of the script hold no backslash, so that translation leaves them alone. -/
theorem backslash_not_mem_scriptRest (excludeTransitive : Bool) :
    backslash ∉ units (scriptRest excludeTransitive) := by
  have hmiddle : backslash ∉ units (scriptMiddle ++
      (if excludeTransitive then "true" else "false").toList) := by
    cases excludeTransitive <;> decide +kernel
  rw [scriptRest, units_append, List.mem_append, not_or]
  exact ⟨hmiddle, backslash_not_mem_scriptTail⟩

/-- The script is made of the same three parts for all names. In its list of names a scan from left
to right finds one literal for each name, which ends at its own last quote, and it stops at the end
of the list; and so it does where Unicode escapes are translated first, which changes nothing but
the inside of literals. -/
theorem initScript_confines :
    ∃ (head middle tail : Text) (translated : Text → List Nat),
      (∀ name, groovyString name = '\x27' :: literalBody name ++ ['\x27'] ∧
        IsInert (literalBody name) (translated name)) ∧
      ∀ (names : List (Option Text)) (excludeTransitive : Bool),
        let flag := (if excludeTransitive then "true" else "false").toList
        initScript names excludeTransitive =
          head ++ groovyList names ++ middle ++ flag ++ tail ∧
        (∀ rest, scanList? (units (groovyList names) ++ rest) =
          some ((normalizeNames names).map fun name => units (literalBody name), rest)) ∧
        ∃ list, translate? (units (initScript names excludeTransitive)) =
            some (units head ++ list ++ units (middle ++ flag ++ tail)) ∧
          ∀ rest, scanList? (list ++ rest) = some ((normalizeNames names).map translated, rest) := by
  choose translated hbody using body_literalBody
  refine ⟨scriptHead, scriptMiddle, scriptTail, translated,
    fun name => ⟨groovyString_eq name, isInert_of_body (hbody name)⟩,
    fun names excludeTransitive => ⟨rfl, fun rest => ?_,
      listOf ((normalizeNames names).map translated), ?_, fun rest => ?_⟩⟩
  · rw [units_groovyList]
    refine scanList?_listOf (fun body hmem => ?_) rest
    obtain ⟨name, -, rfl⟩ := List.mem_map.1 hmem
    exact ⟨_, _, hbody name⟩
  · have hsplit : units (initScript names excludeTransitive) = units scriptHead ++
        (listOf ((normalizeNames names).map fun name => units (literalBody name)) ++
          units (scriptRest excludeTransitive)) := by
      have hscript : initScript names excludeTransitive =
          scriptHead ++ (groovyList names ++ scriptRest excludeTransitive) := by
        simp only [initScript, scriptRest, List.append_assoc]
      rw [hscript, units_append, units_append, units_groovyList]
    have hrest : translate? (units (scriptRest excludeTransitive)) =
        some (units (scriptRest excludeTransitive)) := by
      have hpass := translateFrom?_of_not_mem (backslash_not_mem_scriptRest excludeTransitive) []
      rw [List.append_nil] at hpass
      rw [translate?, hpass, translateFrom?, Option.map_some, List.append_nil]
    have hlist := translate?_listOf hbody (normalizeNames names)
      (units (scriptRest excludeTransitive))
    rw [hrest, Option.map_some] at hlist
    rw [hsplit, translate?, translateFrom?_of_not_mem backslash_not_mem_scriptHead, ← translate?,
      hlist, Option.map_some, List.append_assoc]
    rfl
  · refine scanList?_listOf (fun body hmem => ?_) rest
    obtain ⟨name, -, rfl⟩ := List.mem_map.1 hmem
    exact ⟨_, _, (hbody name).translated_body⟩

end JarLens.Dependency
