import Mathlib.Data.List.Infix

/-!
# Paths of names

A path is a text that is cut into names at a separator.  It is walked name by name from
a directory: one name leads up, some names lead nowhere, and any other name leads down.
A path without the name that leads up never leaves the directory it starts from.
-/

namespace DescargaP2P.Paths

universe u v

section Walking

variable {ν : Type u} [DecidableEq ν] (up : ν) (stays : ν → Bool)

/-- One name from a directory, which is the list of names from the root. -/
def step (directory : List ν) (name : ν) : List ν :=
  if name = up then directory.dropLast
  else if stays name then directory
  else directory ++ [name]

/-- All the names of a path. -/
def walk (directory names : List ν) : List ν := names.foldl (step up stays) directory

/-- Without the name that leads up a walk only goes down. -/
theorem prefix_walk {names : List ν} (noUp : up ∉ names) (directory : List ν) :
    directory <+: walk up stays directory names := by
  induction names generalizing directory with
  | nil => exact List.prefix_refl _
  | cons name names ih =>
      have other : name ≠ up := fun same => noUp (same ▸ List.mem_cons_self)
      have first : directory <+: step up stays directory name := by
        rw [step, if_neg other]
        split
        · exact List.prefix_refl _
        · exact List.prefix_append _ _
      exact first.trans (ih (fun later => noUp (List.mem_cons_of_mem _ later)) _)

end Walking

/-! ## Cutting at more separators -/

section Cutting

variable {α : Type v}

/-- What cutting at more separators does to the first name and to the others. -/
theorem finer_cons {coarse fine : α → Bool}
    (finer : ∀ symbol, coarse symbol = true → fine symbol = true) (text : List α) :
    ∃ wide wides narrow narrows, text.splitOnP coarse = wide :: wides ∧
      text.splitOnP fine = narrow :: narrows ∧
      ((∀ symbol ∈ wide, fine symbol = false) → narrow = wide) ∧
      ∀ name ∈ wides, (∀ symbol ∈ name, fine symbol = false) → name ∈ narrows := by
  induction text with
  | nil => exact ⟨[], [], [], [], by simp⟩
  | cons symbol text ih =>
      obtain ⟨wide, wides, narrow, narrows, cutWide, cutNarrow, head, tail⟩ := ih
      simp only [List.splitOnP_cons_eq_if_modifyHead, cutWide, cutNarrow, List.modifyHead_cons]
      by_cases atWide : coarse symbol = true
      · rw [if_pos atWide, if_pos (finer symbol atWide)]
        refine ⟨_, _, _, _, rfl, rfl, fun _ => rfl, ?_⟩
        intro name member clean
        rcases List.mem_cons.mp member with rfl | later
        · exact head clean ▸ List.mem_cons_self
        · exact List.mem_cons_of_mem _ (tail name later clean)
      · rw [if_neg atWide]
        by_cases atNarrow : fine symbol = true
        · rw [if_pos atNarrow]
          refine ⟨_, _, _, _, rfl, rfl, ?_, ?_⟩
          · intro clean
            rw [clean symbol List.mem_cons_self] at atNarrow
            cases atNarrow
          · exact fun name member clean => List.mem_cons_of_mem _ (tail name member clean)
        · rw [if_neg atNarrow]
          refine ⟨_, _, _, _, rfl, rfl, ?_, tail⟩
          exact fun clean =>
            congrArg (symbol :: ·)
              (head fun other inside => clean other (List.mem_cons_of_mem _ inside))

/-- Cutting at more separators leaves the names that hold none of the new ones. -/
theorem mem_splitOnP_of_finer {coarse fine : α → Bool}
    (finer : ∀ symbol, coarse symbol = true → fine symbol = true) {text name : List α}
    (member : name ∈ text.splitOnP coarse) (clean : ∀ symbol ∈ name, fine symbol = false) :
    name ∈ text.splitOnP fine := by
  obtain ⟨wide, wides, narrow, narrows, cutWide, cutNarrow, head, tail⟩ := finer_cons finer text
  rw [cutWide] at member
  rw [cutNarrow]
  rcases List.mem_cons.mp member with rfl | later
  · exact head clean ▸ List.mem_cons_self
  · exact List.mem_cons_of_mem _ (tail name later clean)

end Cutting

end DescargaP2P.Paths
