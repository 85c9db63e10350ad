import DescargaP2P.Transition.Core

/-!
# Endless executions

An execution gives a state for every moment; between two moments an allowed step is
taken or nothing happens.  Weak fairness of an action says that it does not stay
enabled for ever without being taken.  What it brings about is shown by an action
that helps at each stage, and by a measure over the stages.
-/

namespace DescargaP2P.Transition

universe u v

variable {σ : Type u} {ε : Type v}

/-- The states of an execution, moment by moment. -/
def Execution (step : Labelled σ ε) (allowed : σ → ε → Prop) (state : Nat → σ) : Prop :=
  ∀ moment, state (moment + 1) = state moment ∨
    ∃ event, allowed (state moment) event ∧ step (state moment) event (state (moment + 1))

/-- Some event of an action can happen. -/
def Enabled (step : Labelled σ ε) (allowed : σ → ε → Prop) (action : ε → Prop)
    (source : σ) : Prop :=
  ∃ event target, action event ∧ allowed source event ∧ step source event target

/-- Some event of an action happens between a moment and the next. -/
def Taken (step : Labelled σ ε) (allowed : σ → ε → Prop) (action : ε → Prop)
    (state : Nat → σ) (moment : Nat) : Prop :=
  ∃ event, action event ∧ allowed (state moment) event ∧
    step (state moment) event (state (moment + 1))

/-- An action that stays enabled from some moment on is taken after it. -/
def WeaklyFair (step : Labelled σ ε) (allowed : σ → ε → Prop) (action : ε → Prop)
    (state : Nat → σ) : Prop :=
  ∀ start, (∀ later, start ≤ later → Enabled step allowed action (state later)) →
    ∃ later, start ≤ later ∧ Taken step allowed action state later

section Rules

variable {step : Labelled σ ε} {allowed : σ → ε → Prop} {state : Nat → σ}

/-- The state at each moment is reached by a run. -/
theorem Execution.run (execution : Execution step allowed state) (moment : Nat) :
    ∃ events, Run step allowed (state 0) events (state moment) := by
  induction moment with
  | zero => exact ⟨[], Run.refl⟩
  | succ moment ih =>
      rcases ih with ⟨events, before⟩
      rcases execution moment with same | ⟨event, permitted, taken⟩
      · exact ⟨events, same ▸ before⟩
      · exact ⟨events ++ [event], Run.tail before permitted taken⟩

/-- What is not enabled any more is treated fairly. -/
theorem weaklyFair_of_disabled {action : ε → Prop} (moment : Nat)
    (disabled : ∀ later, moment ≤ later → ¬ Enabled step allowed action (state later)) :
    WeaklyFair step allowed action state :=
  fun start enabled => absurd (enabled (max start moment) (Nat.le_max_left _ _))
    (disabled _ (Nat.le_max_right _ _))

/-- A fair action leads from `waiting` to `goal` if it is enabled while the system
waits, if every event of it brings the goal about, and if no other step makes the
system stop waiting in another way.  What holds at every moment may be used. -/
theorem Execution.leadsTo (execution : Execution step allowed state) {action : ε → Prop}
    (fair : WeaklyFair step allowed action state) (always waiting goal : σ → Prop) {start : Nat}
    (holds : ∀ later, start ≤ later → always (state later))
    (enables : ∀ {source}, always source → waiting source → Enabled step allowed action source)
    (helps : ∀ {source event target}, always source → always target → waiting source →
      action event → allowed source event → step source event target → goal target)
    (kept : ∀ {source event target}, always source → always target → waiting source →
      allowed source event → step source event target → waiting target ∨ goal target)
    (waits : waiting (state start)) : ∃ later, start < later ∧ goal (state later) := by
  by_contra never
  have avoided : ∀ later, start < later → ¬ goal (state later) :=
    fun later after reached => never ⟨later, after, reached⟩
  have stays : ∀ later, start ≤ later → waiting (state later) := by
    intro later after
    induction after with
    | refl => exact waits
    | step after ih =>
        rename_i later
        rcases execution later with same | ⟨event, permitted, taken⟩
        · rw [same]
          exact ih
        · have next := holds (later + 1) (Nat.le_succ_of_le after)
          apply (kept (holds later after) next ih permitted taken).resolve_right
          exact avoided (later + 1) (Nat.lt_succ_of_le after)
  obtain ⟨later, after, event, inAction, permitted, taken⟩ :=
    fair start fun later after => enables (holds later after) (stays later after)
  have next := holds (later + 1) (Nat.le_succ_of_le after)
  apply avoided (later + 1) (Nat.lt_succ_of_le after)
  exact helps (holds later after) next (stays later after) inAction permitted taken

/-- A measure that is lowered again and again reaches zero. -/
theorem eventually_zero (measure : σ → Nat) {start : Nat}
    (falls : ∀ moment, start ≤ moment → measure (state moment) ≠ 0 →
      ∃ later, moment < later ∧ measure (state later) < measure (state moment)) :
    ∃ later, start ≤ later ∧ measure (state later) = 0 := by
  have from_bound : ∀ bound moment, start ≤ moment → measure (state moment) ≤ bound →
      ∃ later, start ≤ later ∧ measure (state later) = 0 := by
    intro bound
    induction bound with
    | zero => exact fun moment after small => ⟨moment, after, Nat.le_zero.mp small⟩
    | succ bound ih =>
        intro moment after small
        by_cases done : measure (state moment) = 0
        · exact ⟨moment, after, done⟩
        · obtain ⟨later, beyond, lower⟩ := falls moment after done
          apply ih later (Nat.le_trans after (Nat.le_of_lt beyond))
          omega
  exact from_bound _ start (Nat.le_refl start) (Nat.le_refl _)

/-- A measure reaches zero if no step raises it and a fair action, enabled as long as
the measure is not zero, lowers it. -/
theorem Execution.eventually_zero (execution : Execution step allowed state)
    {action : ε → Prop} (fair : WeaklyFair step allowed action state) (measure : σ → Nat)
    (always : σ → Prop) {start : Nat} (holds : ∀ later, start ≤ later → always (state later))
    (enables : ∀ {source}, always source → measure source ≠ 0 →
      Enabled step allowed action source)
    (advances : ∀ {source event target}, always source → always target →
      allowed source event → step source event target →
      measure target ≤ measure source ∧ (action event → measure target < measure source)) :
    ∃ later, start ≤ later ∧ measure (state later) = 0 := by
  apply Transition.eventually_zero measure
  intro moment after pending
  apply execution.leadsTo fair always (fun source => measure source = measure (state moment))
    (fun source => measure source < measure (state moment))
  · exact fun later beyond => holds later (Nat.le_trans after beyond)
  · intro source here same
    apply enables here
    rwa [same]
  · intro source event target here there same acts permitted taken
    rw [← same]
    exact (advances here there permitted taken).2 acts
  · intro source event target here there same permitted taken
    rw [← same]
    exact Nat.eq_or_lt_of_le (advances here there permitted taken).1
  · rfl

end Rules

end DescargaP2P.Transition
