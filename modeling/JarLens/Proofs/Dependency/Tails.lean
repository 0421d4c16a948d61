import JarLens.Dependency.Scan
import JarLens.Proofs.Text.Lines
import JarLens.Proofs.Text.Trimming
import JarLens.Proofs.Tool.Running

/-!
# Tails of outcomes

The lines of a tail are cut at any line break and joined by line feeds. They are read back as they
were because what is told of an outcome is trimmed: every line break is white space, so the last line
is not empty (`IsTrimmed.exists_lines`). The main statement is `tails_show_end`; it includes the tails
that a build shows.
-/

namespace JarLens

open JarLens.Text

/-! ## Lines of trimmed texts -/

namespace Text

/-- Stripping a text takes line breaks off its ends too. -/
theorem isBlank_of_isLineBreak {c : Char} (h : isLineBreak c = true) : isBlank c = true := by
  simp only [isLineBreak, Bool.or_eq_true, beq_iff_eq] at h
  rcases h with ((((((((rfl | rfl) | rfl) | rfl) | rfl) | rfl) | rfl) | rfl) | rfl) | rfl <;> decide

/-- A trimmed text ends with its last line, which is not empty. -/
theorem IsTrimmed.exists_lines {t : Text} (ht : IsTrimmed t) (hne : t ≠ []) :
    ∃ front last, last ≠ [] ∧ lines t = front ++ [last] := by
  obtain ⟨start, c, rfl⟩ := (List.eq_nil_or_concat t).resolve_left hne
  rw [List.concat_eq_append] at ht ⊢
  have hblank : isBlank c = false := ht.last c (by rw [List.getLast?_concat]; rfl)
  have hbreak : isLineBreak c = false := by
    cases hbreak : isLineBreak c with
    | false => rfl
    | true => rw [← hblank, isBlank_of_isLineBreak hbreak]
  obtain ⟨front, last, hlines⟩ := exists_lines_concat hbreak start
  exact ⟨front, last ++ [c], by simp, hlines⟩

theorem lastLines_of_pos {n : Nat} (hn : 1 ≤ n) (ls : List Text) :
    lastLines n ls = ls.drop (ls.length - n) := by
  obtain ⟨k, rfl⟩ := Nat.exists_eq_succ_of_ne_zero (Nat.pos_iff_ne_zero.1 hn)
  rfl

end Text

/-! ## What is told -/

namespace Outcome

variable {o : Outcome} {m n : Nat}

theorem isTrimmed_told (o : Outcome) : IsTrimmed o.told := by
  unfold told
  dsimp only
  split <;> exact isTrimmed_strip _

/-- The error stream is told if anything is left of it. -/
theorem told_of_errors (o : Outcome) (h : strip o.stderr ≠ []) : o.told = strip o.stderr :=
  if_neg h

/-- The output stream is told if the error stream is blank. -/
theorem told_of_blank (o : Outcome) (h : strip o.stderr = []) : o.told = strip o.stdout :=
  if_pos h

theorem told_eq_nil_iff : o.told = [] ↔ AllBlank o.stderr ∧ AllBlank o.stdout := by
  unfold told
  dsimp only
  split
  · next h => rw [strip_eq_nil_iff, and_iff_right (strip_eq_nil_iff.1 h)]
  · next h =>
    have hnot : ¬AllBlank o.stderr := fun hblank => h (strip_eq_nil_iff.2 hblank)
    simp [h, hnot]

theorem tail_eq_join (hn : 1 ≤ n) (o : Outcome) :
    o.tail n = join ['\n'] ((lines o.told).drop ((lines o.told).length - n)) := by
  rw [tail, lastLines_of_pos hn]

/-- The lines of a tail are the lines that it was put together from. -/
theorem lines_tail (hn : 1 ≤ n) (o : Outcome) :
    lines (o.tail n) = (lines o.told).drop ((lines o.told).length - n) := by
  rw [tail_eq_join hn]
  apply lines_join
  · intro l hl
    exact isUnbroken_of_mem_lines (List.mem_of_mem_drop hl)
  · by_cases htold : o.told = []
    · rw [htold, show lines [] = [] from rfl, List.drop_nil]
      simp
    · obtain ⟨front, last, hlast, hlines⟩ := (isTrimmed_told o).exists_lines htold
      rw [hlines, List.getLast?_drop, List.getLast?_concat]
      split
      · simp
      · simpa using hlast

/-- A tail of fewer lines is an end of a longer one. -/
theorem tail_suffix (hm : 1 ≤ m) (hmn : m ≤ n) (o : Outcome) : o.tail m <:+ o.tail n := by
  rw [tail_eq_join hm, tail_eq_join (Nat.le_trans hm hmn)]
  apply join_suffix
  apply List.drop_suffix_drop_left
  omega

/-- Nothing is shown exactly if nothing was written but white space. -/
theorem tail_eq_nil_iff (hn : 1 ≤ n) : o.tail n = [] ↔ AllBlank o.stderr ∧ AllBlank o.stdout := by
  rw [← told_eq_nil_iff]
  constructor
  · intro h
    refine Decidable.byContradiction fun htold => ?_
    obtain ⟨front, last, -, hlines⟩ := (isTrimmed_told o).exists_lines htold
    have hdrop := lines_tail hn o
    rw [h, hlines, show lines [] = [] from rfl, eq_comm, List.drop_eq_nil_iff] at hdrop
    simp only [List.length_append, List.length_singleton] at hdrop
    omega
  · intro h
    rw [tail_eq_join hn, h, show lines [] = [] from rfl, List.drop_nil]
    rfl

end Outcome

/-- Line by line, the text is the end of a whole one: its last `n` lines, or all of them if there
are fewer. -/
structure IsEnd (n : Nat) (whole t : Text) : Prop where
  isSuffix : lines t <:+ lines whole
  length : (lines t).length = min n (lines whole).length
  last : (lines t).getLast? = (lines whole).getLast?

/-- The text is the end of an outcome's errors without the white space around them, or of its output
without that if nothing is left of the errors. -/
structure ShowsEnd (o : Outcome) (n : Nat) (t : Text) : Prop where
  errors : strip o.stderr ≠ [] → IsEnd n (strip o.stderr) t
  output : strip o.stderr = [] → IsEnd n (strip o.stdout) t

/-- The lines of a tail are the end of what is told of the outcome. -/
theorem Outcome.isEnd_tail {n : Nat} (hn : 1 ≤ n) (o : Outcome) : IsEnd n o.told (o.tail n) := by
  have hlines := lines_tail hn o
  refine ⟨hlines ▸ List.drop_suffix _ _, ?_, ?_⟩
  · rw [hlines, List.length_drop]
    omega
  · rw [hlines, List.getLast?_drop]
    split
    · next hle =>
      have hnil : lines o.told = [] := List.eq_nil_of_length_eq_zero (by omega)
      rw [hnil]
      rfl
    · rfl

theorem Outcome.showsEnd_tail {n : Nat} (hn : 1 ≤ n) (o : Outcome) : ShowsEnd o n (o.tail n) where
  errors herrors := o.told_of_errors herrors ▸ o.isEnd_tail hn
  output hblank := o.told_of_blank hblank ▸ o.isEnd_tail hn

/-! ## What a build shows -/

namespace Dependency

open JarLens.Action

section

variable {launcher : Launcher} {s : State} {o : Outcome} {b : Build}

theorem run_checkExit (launcher : Launcher) (s : State) (o : Outcome) (label : Text) :
    (checkExit label o launcher s).1 =
      if o.ok = true then .ok ()
      else .error (.buildFailed label o.exitCode (o.tail errorTailLines)) := by
  unfold checkExit
  split <;> rfl

/-- Only the check of the exit code tells that a build failed. -/
theorem tail_of_checkExit {α : Type} {label label' : Text} {code : Option Int} {t : Text}
    {next : Unit → Action α}
    (hnext : ∀ s', (next () launcher s').1 ≠ .error (.buildFailed label' code t))
    (h : ((checkExit label o >>= next) launcher s).1 = .error (.buildFailed label' code t)) :
    t = o.tail errorTailLines := by
  have hcheck := run_checkExit launcher s o label
  rw [run_bind] at h
  rcases hrun : checkExit label o launcher s with ⟨e | ⟨⟩, s'⟩ <;> rw [hrun] at h hcheck
  · split at hcheck
    · cases hcheck
    · cases hcheck
      cases h
      rfl
  · exact absurd h (hnext s')

/-- A build that failed is told with the tail for failures. -/
theorem tail_of_collect_error {label : Text} {code : Option Int} {t : Text}
    (h : (b.collect o launcher s).1 = .error (.buildFailed label code t)) :
    t = o.tail errorTailLines := by
  unfold Build.collect at h
  cases hkind : b.request.kind with
  | maven =>
    rw [hkind] at h
    refine tail_of_checkExit (fun s' hread => ?_) h
    unfold readListing at hread
    rw [run_bind, run_look] at hread
    cases hfile : s'.machine.readFile (listingPath b.scratch) with
    | ok bytes =>
      rw [hfile] at hread
      cases hread
    | error fault =>
      rw [hfile] at hread
      cases fault <;> cases hread
  | gradle | native =>
    rw [hkind] at h
    exact tail_of_checkExit (fun s' hpure => by cases hpure) h

/-- A result has the tail for logs, if it has one. -/
theorem tail_of_collect_ok {result : ScanResult} {t : Text}
    (h : (b.collect o launcher s).1 = .ok result) (ht : result.logTail = some t) :
    t = o.tail logTailLines := by
  have hresult : Ensures (fun result => ∃ dependencies, result = b.request.result o dependencies)
      (b.collect o) := by
    unfold Build.collect
    cases b.request.kind with
    | maven => exact .last fun _ => .last fun _ => .pure ⟨_, rfl⟩
    | gradle | native => exact .last fun _ => .pure ⟨_, rfl⟩
  obtain ⟨dependencies, rfl⟩ := hresult launcher s result h
  unfold ScanRequest.result at ht
  dsimp only at ht
  split at ht
  · exact (Option.some.inj ht).symm
  · cases ht

end

end Dependency

open JarLens.Dependency in
/-- A tail shows the end of an outcome's errors, or of its output where the errors are blank, a
longer one what a shorter one shows and more, and it is empty only where both streams are blank.
What a failed build tells shows at most 20 lines this way, and a log tail at most 10. -/
theorem tails_show_end (o : Outcome) :
    (∀ n : Nat, 1 ≤ n → ShowsEnd o n (o.tail n)) ∧
    (∀ m n : Nat, 1 ≤ m → m ≤ n → o.tail m <:+ o.tail n) ∧
    (∀ n : Nat, 1 ≤ n → (o.tail n = [] ↔ AllBlank o.stderr ∧ AllBlank o.stdout)) ∧
    (∀ (b : Build) launcher s label code t,
      (b.collect o launcher s).1 = .error (.buildFailed label code t) → ShowsEnd o 20 t) ∧
    ∀ (b : Build) launcher s result t,
      (b.collect o launcher s).1 = .ok result → result.logTail = some t → ShowsEnd o 10 t := by
  refine ⟨fun n hn => o.showsEnd_tail hn, fun m n hm hmn => o.tail_suffix hm hmn,
    fun n hn => o.tail_eq_nil_iff hn, ?_, ?_⟩
  · intro b launcher s label code t h
    rw [tail_of_collect_error h]
    exact o.showsEnd_tail (n := 20) (by decide)
  · intro b launcher s result t h ht
    rw [tail_of_collect_ok h ht]
    exact o.showsEnd_tail (n := 10) (by decide)

/-! ## Breaks of several kinds -/

/-- An outcome with five lines, two of them empty, and with blank errors. -/
def fiveLines (code : Int) : Outcome :=
  { exitCode := some code, stdout := "a\x0b\r\nb\u2028\u2028c\n".toList, stderr := " \n".toList
    project := { kind := .gradle, root := some ['/'], markers := ["build.gradle".toList] } }

/-- An outcome with lines in both streams. -/
def bothStreams : Outcome :=
  { fiveLines 1 with stdout := "done\n".toList, stderr := "\n a\x85b \n\n".toList }

/-- A build of the project at the root, with a log tail. -/
def rootBuild : Dependency.Build :=
  { request := { path := ['/'], root := ['/'], kind := .gradle, options := { includeLogTail := true } }
    scratch := [], tool := ⟨"gradle".toList, (fiveLines 0).project, 0⟩ }

/-- A machine with nothing on it. -/
def bareMachine : Machine :=
  { files := {}, environment := {}, folder := some [], scratch := [], programFolders := []
    homes := [] }

/-- Of five lines in the output the last three are shown, and of errors next to an output their last
line. A failed build shows them all, and so does the log tail of one that succeeded. -/
theorem tails_show_end_breaks :
    (bothStreams.tail 1 = ['b'] ∧ IsEnd 1 "a\x85b".toList (bothStreams.tail 1)) ∧
    ((fiveLines 1).tail 3 = "b\n\nc".toList ∧ ShowsEnd (fiveLines 1) 3 ((fiveLines 1).tail 3)) ∧
    ((fiveLines 1).tail 2 <:+ (fiveLines 1).tail 3 ∧ (fiveLines 1).tail 3 ≠ []) ∧
    (∃ t, (rootBuild.collect (fiveLines 1) default { machine := bareMachine }).1 =
        .error (.buildFailed "gradle jarViewerListDeps".toList (some 1) t) ∧
      ShowsEnd (fiveLines 1) 20 t) ∧
    ∃ result t, (rootBuild.collect (fiveLines 0) default { machine := bareMachine }).1 = .ok result ∧
      result.logTail = some t ∧ ShowsEnd (fiveLines 0) 10 t := by
  obtain ⟨hends, hlonger, hempty, hfailed, -⟩ := tails_show_end (fiveLines 1)
  obtain ⟨-, -, -, -, hlogged⟩ := tails_show_end (fiveLines 0)
  have herrors : strip bothStreams.stderr = "a\x85b".toList := by decide
  have hshown := ((tails_show_end bothStreams).1 1 (by decide)).errors (by rw [herrors]; decide)
  rw [herrors] at hshown
  refine ⟨⟨by decide, hshown⟩, ⟨by decide, hends 3 (by decide)⟩,
    ⟨hlonger 2 3 (by decide) (by decide), ?_⟩, ?_, ?_⟩
  · have hnot : ¬(AllBlank (fiveLines 1).stderr ∧ AllBlank (fiveLines 1).stdout) := by decide
    exact fun hnil => hnot ((hempty 3 (by decide)).1 hnil)
  · exact ⟨_, rfl, hfailed rootBuild default { machine := bareMachine } _ _ _ rfl⟩
  · exact ⟨_, _, rfl, rfl, hlogged rootBuild default { machine := bareMachine } _ _ rfl rfl⟩

end JarLens
