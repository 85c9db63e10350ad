import Mathlib.Data.List.Basic
import Mathlib.Logic.Function.Iterate

/-!
# Iterating a partial step

A loop is a step that may leave it.  The loop terminates if some number of its
iterations cannot be performed, and goes on forever from every state of a set that the
step does not leave.  A total step that lowers a measure settles.
-/

namespace DescargaP2P.Transition

universe u

variable {σ : Type u}

/-- The state after exactly `n` iterations, if the loop has not been left. -/
def iterate (step : σ → Option σ) : Nat → σ → Option σ
  | 0, state => some state
  | n + 1, state => (step state).bind (iterate step n)

/-- Only finitely many iterations are performed. -/
def Terminates (step : σ → Option σ) (state : σ) : Prop := ∃ n, iterate step n state = none

/-- A loop that is left at once terminates. -/
theorem terminates_of_none {step : σ → Option σ} {state : σ} (left : step state = none) :
    Terminates step state :=
  ⟨1, by rw [iterate, left, Option.bind_none]⟩

/-- One iteration does not change whether the loop terminates. -/
theorem terminates_iff_of_some {step : σ → Option σ} {state next : σ}
    (taken : step state = some next) : Terminates step state ↔ Terminates step next := by
  constructor
  · rintro ⟨n, left⟩
    cases n with
    | zero => cases left
    | succ n =>
        rw [iterate, taken, Option.bind_some] at left
        exact ⟨n, left⟩
  · rintro ⟨n, left⟩
    exact ⟨n + 1, by rw [iterate, taken, Option.bind_some, left]⟩

/-- The loop goes on forever from a state with a property that every iteration keeps. -/
theorem not_terminates_of_kept {step : σ → Option σ} (property : σ → Prop)
    (kept : ∀ state, property state → ∃ next, step state = some next ∧ property next)
    {state : σ} (initial : property state) : ¬ Terminates step state := by
  rintro ⟨n, left⟩
  induction n generalizing state with
  | zero => cases left
  | succ n ih =>
      obtain ⟨next, taken, holds⟩ := kept state initial
      rw [iterate, taken, Option.bind_some] at left
      exact ih holds left

/-- A map that reaches a fixed point or lowers a measure settles. -/
theorem exists_settled {step : σ → σ} {settled : σ → Prop} (measure : σ → Nat)
    (fixed : ∀ state, settled state → step state = state)
    (lowers : ∀ state, settled (step state) ∨ measure (step state) < measure state)
    (state : σ) :
    ∃ n ≤ measure state + 1, settled (step^[n] state) ∧
      ∀ k, n ≤ k → step^[k] state = step^[n] state := by
  have reached : ∃ n ≤ measure state + 1, settled (step^[n] state) := by
    induction size : measure state using Nat.strongRecOn generalizing state with
    | ind bound ih =>
        rcases lowers state with now | lower
        · exact ⟨1, Nat.le_add_left 1 bound, now⟩
        · obtain ⟨n, within, later⟩ := ih _ (size ▸ lower) (step state) rfl
          exact ⟨n + 1, by omega, later⟩
  obtain ⟨n, bound, there⟩ := reached
  refine ⟨n, bound, there, ?_⟩
  intro k later
  obtain ⟨more, rfl⟩ := Nat.exists_eq_add_of_le later
  rw [Nat.add_comm, Function.iterate_add_apply, Function.iterate_fixed (fixed _ there)]

end DescargaP2P.Transition
