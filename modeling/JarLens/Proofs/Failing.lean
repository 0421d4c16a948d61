/-!
# Computations that fail

What is known of a computation in `Except` from what it gives: a result comes through all of its
steps, and a failure comes from one of them. `FailsOnly` says what all its failures have in common.
-/

namespace JarLens

/-! ## Results -/

/-- Both steps of a result succeeded. -/
theorem exists_of_bind_eq_ok {ε α β : Type} {x : Except ε α} {f : α → Except ε β} {b : β}
    (h : (x >>= f) = .ok b) : ∃ a, x = .ok a ∧ f a = .ok b := by
  cases x with
  | error e => cases h
  | ok a => exact ⟨a, rfl, h⟩

theorem eq_ok_of_mapError {ε ε' α : Type} {x : Except ε α} {f : ε → ε'} {a : α}
    (h : x.mapError f = .ok a) : x = .ok a := by
  cases x with
  | error e => cases h
  | ok b => cases h; rfl

/-- Every failure of a computation has the property. -/
def FailsOnly {ε α : Type} (P : ε → Prop) (x : Except ε α) : Prop :=
  ∀ e, x = .error e → P e

namespace FailsOnly

variable {ε α β : Type} {P : ε → Prop}

theorem pure (a : α) : FailsOnly P (pure a) := by
  intro e h
  cases h

theorem throw {e : ε} (h : P e) : FailsOnly P (throw e : Except ε α) := by
  intro e' he'
  cases he'
  exact h

/-- Two steps fail only as each of them may. -/
theorem bind {x : Except ε α} {f : α → Except ε β} (hx : FailsOnly P x)
    (hf : ∀ a, FailsOnly P (f a)) : FailsOnly P (x >>= f) := by
  intro e h
  cases x with
  | error e' =>
    cases h
    exact hx e rfl
  | ok a => exact hf a e h

theorem ite {c : Prop} [Decidable c] {x y : Except ε α} (hx : FailsOnly P x)
    (hy : FailsOnly P y) : FailsOnly P (if c then x else y) := by
  split
  · exact hx
  · exact hy

/-- A check that comes before the rest. -/
theorem check {c : Prop} [Decidable c] {e : ε} {x : Except ε α} {rest : β → Except ε α} (h : P e)
    (hx : FailsOnly P x) :
    FailsOnly P (if c then (MonadExcept.throw e : Except ε β) >>= rest else x) :=
  .ite (.throw h) hx

end FailsOnly

/-- What comes last and cannot fail has no part in a failure. -/
theorem eq_error_of_bind_pure {ε α β : Type} {x : Except ε α} {f : α → β} {e : ε}
    (h : (x >>= fun a => pure (f a)) = .error e) : x = .error e := by
  cases x with
  | error e' =>
    cases h
    rfl
  | ok a => cases h

end JarLens
