import Mathlib.Data.List.Basic

/-!
# Runs of labelled transition systems

A step relates a state, an event and a next state.  A run records its events in
order, and can be restricted to steps that are allowed in their source state.
Invariants are proved for one allowed step and carried to whole runs.
-/

namespace DescargaP2P.Transition

universe u v

/-- A labelled step relation. -/
abbrev Labelled (σ : Type u) (ε : Type v) := σ → ε → σ → Prop

variable {σ : Type u} {ε : Type v}

/-- Runs from `start` whose steps are all allowed, with their events. -/
inductive Run (step : Labelled σ ε) (allowed : σ → ε → Prop) (start : σ) :
    List ε → σ → Prop
  | refl : Run step allowed start [] start
  | tail {events : List ε} {middle target : σ} {event : ε} :
      Run step allowed start events middle → allowed middle event →
      step middle event target → Run step allowed start (events ++ [event]) target

/-- `target` is reached from `start` by some run. -/
def Reachable (step : Labelled σ ε) (start target : σ) : Prop :=
  ∃ events, Run step (fun _ _ => True) start events target

/-- A property that holds initially and is preserved by every allowed step holds
throughout every run. -/
theorem Run.invariant {step : Labelled σ ε} {allowed : σ → ε → Prop} {start target : σ}
    {events : List ε} (property : σ → Prop) (initial : property start)
    (preserved : ∀ {source event next}, property source → allowed source event →
      step source event next → property next)
    (run : Run step allowed start events target) : property target := by
  induction run with
  | refl => exact initial
  | tail _ permitted last ih => exact preserved ih permitted last

/-- A run is allowed under weaker restrictions as well. -/
theorem Run.mono {step : Labelled σ ε} {strong weak : σ → ε → Prop} {start target : σ}
    {events : List ε} (weaker : ∀ {source event}, strong source event → weak source event)
    (run : Run step strong start events target) : Run step weak start events target := by
  induction run with
  | refl => exact Run.refl
  | tail _ permitted last ih => exact Run.tail ih (weaker permitted) last

/-- If an invariant forces a restriction on every step, then all runs obey it. -/
theorem Run.restrict {step : Labelled σ ε} {weak strong : σ → ε → Prop} {start target : σ}
    {events : List ε} (property : σ → Prop) (initial : property start)
    (preserved : ∀ {source event next}, property source → strong source event →
      step source event next → property next)
    (forced : ∀ {source event next}, property source → step source event next →
      strong source event)
    (run : Run step weak start events target) :
    Run step strong start events target ∧ property target := by
  induction run with
  | refl => exact ⟨Run.refl, initial⟩
  | tail _ _ last ih =>
      have permitted := forced ih.2 last
      exact ⟨Run.tail ih.1 permitted last, preserved ih.2 permitted last⟩

/-- A run is no longer than a measure that every allowed step lowers. -/
theorem Run.length_add_le {step : Labelled σ ε} {allowed : σ → ε → Prop} {start target : σ}
    {events : List ε} (measure : σ → Nat) (property : σ → Prop) (initial : property start)
    (preserved : ∀ {source event next}, property source → allowed source event →
      step source event next → property next)
    (lowers : ∀ {source event next}, property source → allowed source event →
      step source event next → measure next < measure source)
    (run : Run step allowed start events target) :
    events.length + measure target ≤ measure start := by
  induction run with
  | refl => exact Nat.le_of_eq (Nat.zero_add _)
  | tail before permitted last ih =>
      have lower := lowers (before.invariant property initial preserved) permitted last
      rw [List.length_append, List.length_singleton]
      omega

/-- A run to a state without further steps exists if every step lowers a measure. -/
theorem Run.exists_stuck {step : Labelled σ ε} {allowed : σ → ε → Prop} {start target : σ}
    {events : List ε} (run : Run step allowed start events target) (measure : σ → Nat)
    (property : σ → Prop)
    (preserved : ∀ {source event next}, property source → allowed source event →
      step source event next → property next)
    (lowers : ∀ {source event next}, property source → allowed source event →
      step source event next → measure next < measure source)
    (holds : property target) :
    ∃ later stuck, Run step allowed start (events ++ later) stuck ∧
      ∀ event next, allowed stuck event → ¬ step stuck event next := by
  induction size : measure target using Nat.strongRecOn generalizing target events with
  | ind bound ih =>
      by_cases more : ∃ event next, allowed target event ∧ step target event next
      · rcases more with ⟨event, next, permitted, taken⟩
        have lower := lowers holds permitted taken
        rw [size] at lower
        obtain ⟨later, stuck, longer, ended⟩ :=
          ih _ lower (Run.tail run permitted taken) (preserved holds permitted taken) rfl
        exact ⟨event :: later, stuck, by simpa using longer, ended⟩
      · refine ⟨[], target, by simpa using run, ?_⟩
        intro event next permitted taken
        exact more ⟨event, next, permitted, taken⟩

/-- Runs compose. -/
theorem Run.trans {step : Labelled σ ε} {allowed : σ → ε → Prop}
    {start middle target : σ} {first second : List ε}
    (before : Run step allowed start first middle)
    (after : Run step allowed middle second target) :
    Run step allowed start (first ++ second) target := by
  induction after with
  | refl => simpa using before
  | tail _ permitted last ih =>
      rw [← List.append_assoc]
      exact Run.tail ih permitted last

theorem Reachable.refl (step : Labelled σ ε) (state : σ) : Reachable step state state :=
  ⟨[], Run.refl⟩

theorem Reachable.tail {step : Labelled σ ε} {start middle target : σ} {event : ε}
    (reachable : Reachable step start middle) (last : step middle event target) :
    Reachable step start target := by
  rcases reachable with ⟨events, run⟩
  exact ⟨events ++ [event], Run.tail run trivial last⟩

theorem Reachable.single {step : Labelled σ ε} {start target : σ} {event : ε}
    (first : step start event target) : Reachable step start target :=
  (Reachable.refl step start).tail first

theorem Reachable.trans {step : Labelled σ ε} {start middle target : σ}
    (before : Reachable step start middle) (after : Reachable step middle target) :
    Reachable step start target := by
  rcases before with ⟨_, first⟩
  rcases after with ⟨_, second⟩
  exact ⟨_, first.trans second⟩

/-- Invariants of unrestricted steps hold of every reachable state. -/
theorem Reachable.invariant {step : Labelled σ ε} {start target : σ} (property : σ → Prop)
    (initial : property start)
    (preserved : ∀ {source event next}, property source → step source event next →
      property next)
    (reachable : Reachable step start target) : property target := by
  rcases reachable with ⟨_, run⟩
  exact run.invariant property initial fun holds _ taken => preserved holds taken

/-- If every allowed step maps to a step of another system, or to no change, then
its runs map to runs. -/
theorem Run.refines {τ : Type*} {δ : Type*} {step : Labelled σ ε} {allowed : σ → ε → Prop}
    {abstractStep : Labelled τ δ} {start target : σ} {events : List ε} (image : σ → τ)
    (property : σ → Prop) (initial : property start)
    (preserved : ∀ {source event next}, property source → allowed source event →
      step source event next → property next)
    (simulated : ∀ {source event next}, property source → allowed source event →
      step source event next →
      image next = image source ∨ ∃ action, abstractStep (image source) action (image next))
    (run : Run step allowed start events target) :
    Reachable abstractStep (image start) (image target) := by
  induction run with
  | refl => exact Reachable.refl _ _
  | tail before permitted last ih =>
      have holds := before.invariant property initial preserved
      rcases simulated holds permitted last with same | ⟨action, taken⟩
      · rw [same]
        exact ih
      · exact ih.tail taken

end DescargaP2P.Transition
