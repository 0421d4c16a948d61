import JarLens.Dependency.Record
import JarLens.Proofs.Text.LowerCase
import JarLens.Proofs.Text.Trimming

/-!
# Which records a query keeps

A query is compared in lower case with the coordinates and the path of a record. What contains it
literally contains it in lower case too, but for one letter: the capital sigma has two small letters,
and which one it gets depends on whether it ends a word (`matching_keeps`).
-/

namespace JarLens.Dependency

open JarLens.Text

/-- The text is literally in the coordinates or the path of the record, and its capital sigmas end
the same words there and by themselves. -/
def Record.Shows (r : Record) (t : Text) : Prop :=
  ∃ a b, (r.coordinates = a ++ t ++ b ∨ r.path = a ++ t ++ b) ∧ EndsAlike a t b

/-- A record that shows a text mentions it in lower case. -/
theorem Record.Shows.mentions {r : Record} {t : Text} (h : r.Shows t) :
    r.mentions (lower t) = true := by
  obtain ⟨a, b, hplace, halike⟩ := h
  unfold Record.mentions
  rw [Bool.or_eq_true]
  rcases hplace with hplace | hplace
  · exact .inl (hplace ▸ halike.occursIn)
  · exact .inr (hplace ▸ halike.occursIn)

/-- A text without a capital sigma is shown wherever it stands, since no other letter is lowered by
its place. -/
theorem Record.shows_of_not_mem {r : Record} {t : Text} (hsigma : '\u03a3' ∉ t)
    (h : t <:+: r.coordinates ∨ t <:+: r.path) : r.Shows t := by
  rcases h with ⟨a, b, heq⟩ | ⟨a, b, heq⟩
  · exact ⟨a, b, .inl heq.symm, .of_not_mem hsigma⟩
  · exact ⟨a, b, .inr heq.symm, .of_not_mem hsigma⟩

theorem needle_of_allBlank {query : Option Text} (h : AllBlank (query.getD [])) :
    needle query = [] := by
  rw [needle, strip_eq_nil_iff.2 h]
  rfl

theorem matching_eq_filter (query : Option Text) (records : List Record) :
    matching query records =
      records.filter fun r => (needle query).isEmpty || r.mentions (needle query) := by
  unfold matching
  split
  · next hempty => exact (List.filter_eq_self.2 fun _ _ => by rw [hempty, Bool.true_or]).symm
  · next hempty => simp [hempty]

/-- A query without more than white space keeps all records. Any query keeps records in their order,
and never hides one that shows it: without capital sigmas in the query, one that literally contains
it. -/
theorem matching_keeps (query : Option Text) (records : List Record) :
    (AllBlank (query.getD []) → matching query records = records) ∧
    ∃ keep : Record → Bool, matching query records = records.filter keep ∧
      (∀ r, r.Shows (strip (query.getD [])) → keep r = true) ∧
      ('\u03a3' ∉ strip (query.getD []) → ∀ r : Record,
        strip (query.getD []) <:+: r.coordinates ∨ strip (query.getD []) <:+: r.path →
          keep r = true) := by
  have hkeep : ∀ r : Record, r.Shows (strip (query.getD [])) →
      ((needle query).isEmpty || r.mentions (needle query)) = true := by
    intro r hr
    rw [Bool.or_eq_true]
    exact .inr hr.mentions
  refine ⟨fun h => ?_, _, matching_eq_filter query records, hkeep, fun hsigma r hr => ?_⟩
  · rw [matching, needle_of_allBlank h]
    rfl
  · exact hkeep r (Record.shows_of_not_mem hsigma hr)

/-- A record with a capital sigma at the end of a word. -/
def sigmaRecord : Record :=
  { group := "g".toList, artifact := "ΟΔΟΣ".toList, packaging := "jar".toList, classifier := none
    version := "1".toList, scope := "compile".toList, path := "/r/x.jar".toList }

/-- A record that ends with a final sigma, and a query that does so too. -/
theorem matching_keeps_sigmaRecord :
    sigmaRecord.Shows "ΟΔΟΣ".toList ∧
    ∃ keep : Record → Bool,
      matching (some " ΟΔΟΣ ".toList) [sigmaRecord] = [sigmaRecord].filter keep ∧
      keep sigmaRecord = true := by
  have hshows : sigmaRecord.Shows "ΟΔΟΣ".toList := by
    refine ⟨"g:".toList, [], .inl (by decide), ?_⟩
    rw [← lowerWithin_eq_lower_iff]
    decide +kernel
  obtain ⟨-, keep, hfilter, hkeep, -⟩ := matching_keeps (some " ΟΔΟΣ ".toList) [sigmaRecord]
  exact ⟨hshows, keep, hfilter, hkeep _ hshows⟩

/-- A sigma by itself is not the last letter of a word, as the one in the record is. -/
theorem matching_sigmaRecord :
    (∃ a b, sigmaRecord.coordinates = a ++ "Σ".toList ++ b) ∧
    strip "Σ".toList = "Σ".toList ∧ matching (some "Σ".toList) [sigmaRecord] = [] := by
  refine ⟨⟨"g:ΟΔΟ".toList, [], by decide⟩, by decide, by decide +kernel⟩

end JarLens.Dependency
