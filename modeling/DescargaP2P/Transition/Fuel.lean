import Mathlib.Data.Nat.Init

/-!
# Computations with fuel

A computation that is bounded by fuel ends with a result if it gives it with all fuel from
some amount on.
-/

namespace DescargaP2P.Transition

universe u v

variable {β : Type u} {γ : Type v}

/-- With enough fuel the computation gives the result. -/
def Ends (run : Nat → Option β) (result : β) : Prop :=
  ∃ enough, ∀ fuel, enough ≤ fuel → run fuel = some result

theorem Ends.unique {run : Nat → Option β} {first second : β} (left : Ends run first)
    (right : Ends run second) : first = second := by
  obtain ⟨enough, gives⟩ := left
  obtain ⟨more, gives'⟩ := right
  have same := gives (max enough more) (Nat.le_max_left _ _)
  rw [gives' _ (Nat.le_max_right _ _)] at same
  exact (Option.some.inj same).symm

theorem Ends.of_const (result : β) : Ends (fun _ => some result) result := ⟨0, fun _ _ => rfl⟩

/-- If more fuel never changes a result, one amount decides. -/
theorem Ends.of_some {run : Nat → Option β}
    (grows : ∀ {fuel result}, run fuel = some result → run (fuel + 1) = some result) {fuel : Nat}
    {result : β} (given : run fuel = some result) : Ends run result := by
  refine ⟨fuel, fun more large => ?_⟩
  induction large with
  | refl => exact given
  | step _ ih => exact grows ih

/-- A step costs one unit. -/
theorem Ends.of_succ {run next : Nat → Option β} {result : β}
    (step : ∀ fuel, run (fuel + 1) = next fuel) (later : Ends next result) : Ends run result := by
  obtain ⟨enough, gives⟩ := later
  refine ⟨enough + 1, fun fuel more => ?_⟩
  obtain ⟨fuel, rfl⟩ := Nat.exists_eq_add_of_le more
  rw [Nat.add_right_comm, step]
  exact gives _ (Nat.le_add_right _ _)

theorem Ends.bind {run : Nat → Option β} {next : β → Nat → Option γ} {middle : β} {result : γ}
    (first : Ends run middle) (second : Ends (next middle) result) :
    Ends (fun fuel => (run fuel).bind fun value => next value fuel) result := by
  obtain ⟨enough, gives⟩ := first
  obtain ⟨more, goes⟩ := second
  refine ⟨max enough more, fun fuel large => ?_⟩
  dsimp only
  rw [gives fuel (Nat.le_trans (Nat.le_max_left _ _) large), Option.bind_some]
  exact goes fuel (Nat.le_trans (Nat.le_max_right _ _) large)

theorem Ends.map {run : Nat → Option β} {result : β} (ends : Ends run result) (f : β → γ) :
    Ends (fun fuel => (run fuel).map f) (f result) := by
  obtain ⟨enough, gives⟩ := ends
  refine ⟨enough, fun fuel more => ?_⟩
  dsimp only
  rw [gives fuel more, Option.map_some]

end DescargaP2P.Transition
