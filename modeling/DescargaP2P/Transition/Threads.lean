import DescargaP2P.Transition.Core

/-!
# Threads over shared memory

A list of threads shares one memory.  An event is the number of a thread, which
then takes one atomic step of its own; threads are interleaved freely.
-/

namespace DescargaP2P.Transition

universe u v w

variable {σ : Type u} {τ : Type v} {β : Type w}

/-- One atomic step of the thread with a number. -/
def threadNext (act : σ → τ → Option (σ × τ)) (state : σ × List τ) (number : Nat) :
    Option (σ × List τ) :=
  match state.2[number]? with
  | none => none
  | some thread =>
      match act state.1 thread with
      | none => none
      | some (memory, next) => some (memory, state.2.set number next)

/-- The interleavings of the threads. -/
def ThreadStep (act : σ → τ → Option (σ × τ)) : Labelled (σ × List τ) Nat :=
  fun state number target => threadNext act state number = some target

/-- A step replaces one thread and touches no other. -/
theorem threadStep_cases {act : σ → τ → Option (σ × τ)} {state target : σ × List τ}
    {number : Nat} (taken : ThreadStep act state number target) :
    ∃ before thread after memory next, state.2 = before ++ thread :: after ∧
      state.2[number]? = some thread ∧ act state.1 thread = some (memory, next) ∧
      target = (memory, before ++ next :: after) := by
  unfold ThreadStep threadNext at taken
  cases found : state.2[number]? with
  | none => simp [found] at taken
  | some thread =>
      simp only [found] at taken
      cases acted : act state.1 thread with
      | none => simp [acted] at taken
      | some result =>
          rcases result with ⟨memory, next⟩
          simp only [acted, Option.some.injEq] at taken
          obtain ⟨inside, rfl⟩ := List.getElem?_eq_some_iff.mp found
          refine ⟨state.2.take number, state.2[number], state.2.drop (number + 1), memory, next,
            ?_, rfl, acted, ?_⟩
          · rw [← List.drop_eq_getElem_cons inside, List.take_append_drop]
          · rw [← taken, List.set_eq_take_append_cons_drop, if_pos inside]

/-- Execute the threads in a given order. -/
def runThreads (act : σ → τ → Option (σ × τ)) : List Nat → σ × List τ → Option (σ × List τ)
  | [], state => some state
  | number :: rest, state => (threadNext act state number).bind (runThreads act rest)

/-- An executed order is a run. -/
theorem run_of_runThreads {act : σ → τ → Option (σ × τ)} {order : List Nat}
    {start target : σ × List τ} (executed : runThreads act order start = some target) :
    Run (ThreadStep act) (fun _ _ => True) start order target := by
  induction order generalizing start with
  | nil =>
      cases executed
      exact Run.refl
  | cons number rest ih =>
      obtain ⟨middle, first, later⟩ := Option.bind_eq_some_iff.mp executed
      have one : Run (ThreadStep act) (fun _ _ => True) start [number] middle :=
        Run.tail Run.refl trivial first
      exact one.trans (ih later)

/-! ## What the threads have done -/

/-- What all threads have done so far. -/
def doneBy (done : τ → List β) (threads : List τ) : List β := threads.flatMap done

theorem doneBy_perm (done : τ → List β) (before : List τ) (thread : τ) (after : List τ) :
    (doneBy done (before ++ thread :: after)).Perm (done thread ++ doneBy done (before ++ after)) := by
  simp only [doneBy, List.flatMap_append, List.flatMap_cons]
  rw [← List.append_assoc, ← List.append_assoc]
  exact List.perm_append_comm.append_right _

end DescargaP2P.Transition
