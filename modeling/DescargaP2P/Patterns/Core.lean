import Mathlib.Data.List.MinMax

/-!
# Patterns and their priorities

A pattern is a sequence of symbols and parameters.  What a parameter takes is decided
by its kind and by the text in front of it, so a pattern matches a text in at most one
way.  Of the patterns that match a text, the first one of least priority number is
chosen.
-/

namespace DescargaP2P.Patterns

universe u v w x

variable {α : Type u} {κ : Type v} {ν : Type w} {β : Type x}

/-! ## Matching -/

inductive Piece (α : Type u) (κ : Type v)
  | symbol (value : α)
  | param (kind : κ)
  deriving DecidableEq, Repr

/-- What a kind of parameter takes from the front of a text, and what it leaves. -/
abbrev Take (α : Type u) (κ : Type v) (ν : Type w) := κ → List α → Option (ν × List α)

section Matching

variable [DecidableEq α] (take : Take α κ ν)

/-- The values of the parameters, if the pattern matches the whole text. -/
def values : List (Piece α κ) → List α → Option (List ν)
  | [], [] => some []
  | [], _ :: _ => none
  | .symbol _ :: _, [] => none
  | .symbol value :: pattern, first :: text =>
      if value = first then values pattern text else none
  | .param kind :: pattern, text =>
      match take kind text with
      | none => none
      | some (value, rest) => (values pattern rest).map (value :: ·)

/-- A word in front of a pattern is compared as a whole. -/
theorem values_word_append (word : List α) (pattern : List (Piece α κ)) (text : List α) :
    values take (word.map .symbol ++ pattern) text =
      if word <+: text then values take pattern (text.drop word.length) else none := by
  induction word generalizing text with
  | nil => simp
  | cons value word ih =>
      cases text with
      | nil => simp [values]
      | cons first text =>
          by_cases same : value = first
          · simp [values, same, ih, List.cons_prefix_cons]
          · simp [values, same, List.cons_prefix_cons]

/-- Nothing but the empty pattern matches the empty text. -/
theorem values_nil_right (hungry : ∀ kind, take kind [] = none)
    (pattern : List (Piece α κ)) :
    values take pattern [] = if pattern = [] then some [] else none := by
  cases pattern with
  | nil => rfl
  | cons piece pattern => cases piece <;> simp [values, hungry]

end Matching

/-! ## The least of several -/

section Least

variable [LinearOrder ν] (key : β → ν)

/-- The one of lower key, the first one if they have the same. -/
def better : Option β → Option β → Option β
  | none, second => second
  | some first, none => some first
  | some first, some second => if key second < key first then some second else some first

@[simp]
theorem better_none_left (second : Option β) : better key none second = second := by
  cases second <;> rfl

@[simp]
theorem better_none_right (first : Option β) : better key first none = first := by
  cases first <;> rfl

theorem better_assoc (first second third : Option β) :
    better key (better key first second) third = better key first (better key second third) := by
  cases first with
  | none => simp
  | some first =>
      cases second with
      | none => simp
      | some second =>
          cases third with
          | none => simp
          | some third =>
              simp only [better]
              grind

theorem argmin_append (first second : List β) :
    (first ++ second).argmin key = better key (first.argmin key) (second.argmin key) := by
  induction first with
  | nil => simp
  | cons item rest ih =>
      have cons : ∀ items : List β,
          (item :: items).argmin key = better key (some item) (items.argmin key) := by
        intro items
        rw [List.argmin_cons]
        cases items.argmin key <;> rfl
      rw [List.cons_append, cons, ih, cons, better_assoc]

theorem argmin_map {γ : Type*} (image : γ → β) (items : List γ) :
    (items.map image).argmin key = (items.argmin (key ∘ image)).map image := by
  induction items with
  | nil => rfl
  | cons item rest ih =>
      rw [List.map_cons, List.argmin_cons, ih, List.argmin_cons]
      cases rest.argmin (key ∘ image) with
      | none => rfl
      | some least =>
          simp only [Option.map_some, Function.comp_apply]
          split <;> rfl

end Least

/-! ## The pattern that is chosen -/

section Choice

variable [DecidableEq α] (take : Take α κ ν)

/-- The patterns that match, by their numbers, with the values of their parameters. -/
def answers (routes : List (List (Piece α κ) × Nat)) (text : List α) : List (Nat × List ν) :=
  routes.filterMap fun route => (values take route.1 text).map (Prod.mk route.2)

/-- The match of least number. -/
def choose (routes : List (List (Piece α κ) × Nat)) (text : List α) : Option (Nat × List ν) :=
  (answers take routes text).argmin Prod.fst

variable {take}

theorem mem_answers_iff {routes : List (List (Piece α κ) × Nat)} {text : List α}
    {answer : Nat × List ν} :
    answer ∈ answers take routes text ↔
      ∃ pattern, (pattern, answer.1) ∈ routes ∧ values take pattern text = some answer.2 := by
  simp only [answers, List.mem_filterMap, Option.map_eq_some_iff, Prod.exists]
  constructor
  · rintro ⟨pattern, number, route, found, matched, rfl⟩
    exact ⟨pattern, route, matched⟩
  · rintro ⟨pattern, route, matched⟩
    exact ⟨pattern, answer.1, route, answer.2, matched, rfl⟩

theorem answers_append (first second : List (List (Piece α κ) × Nat)) (text : List α) :
    answers take (first ++ second) text = answers take first text ++ answers take second text :=
  List.filterMap_append

theorem choose_append (first second : List (List (Piece α κ) × Nat)) (text : List α) :
    choose take (first ++ second) text =
      better Prod.fst (choose take first text) (choose take second text) := by
  rw [choose, answers_append, argmin_append, ← choose, ← choose]

/-- Only empty patterns answer an empty text. -/
theorem answers_eq_nil (hungry : ∀ kind, take kind [] = none)
    {routes : List (List (Piece α κ) × Nat)} (longer : ∀ route ∈ routes, route.1 ≠ []) :
    answers take routes [] = [] := by
  rw [answers, List.filterMap_eq_nil_iff]
  intro route member
  rw [values_nil_right take hungry, if_neg (longer route member), Option.map_none]

theorem answers_word (word : List α) (routes : List (List (Piece α κ) × Nat)) (text : List α) :
    answers take (routes.map fun route => (word.map .symbol ++ route.1, route.2)) text =
      if word <+: text then answers take routes (text.drop word.length) else [] := by
  simp only [answers, List.filterMap_map, Function.comp_def, values_word_append]
  split
  · rfl
  · simp

theorem answers_param (kind : κ) (routes : List (List (Piece α κ) × Nat)) (text : List α) :
    answers take (routes.map fun route => (.param kind :: route.1, route.2)) text =
      match take kind text with
      | none => []
      | some (value, rest) =>
          (answers take routes rest).map fun answer => (answer.1, value :: answer.2) := by
  simp only [answers, List.filterMap_map, Function.comp_def, values]
  cases take kind text with
  | none => simp
  | some taken =>
      rcases taken with ⟨value, rest⟩
      simp only [List.map_filterMap, Option.map_map]
      rfl

theorem choose_eq_none_iff {routes : List (List (Piece α κ) × Nat)} {text : List α} :
    choose take routes text = none ↔ ∀ route ∈ routes, values take route.1 text = none := by
  rw [choose, List.argmin_eq_none, answers, List.filterMap_eq_nil_iff]
  simp

/-- The chosen match belongs to a pattern, and no pattern of lower number matches. -/
theorem choose_eq_some {routes : List (List (Piece α κ) × Nat)} {text : List α}
    {answer : Nat × List ν} (chosen : choose take routes text = some answer) :
    (∃ pattern, (pattern, answer.1) ∈ routes ∧ values take pattern text = some answer.2) ∧
      ∀ route ∈ routes, ∀ found, values take route.1 text = some found → answer.1 ≤ route.2 := by
  refine ⟨mem_answers_iff.mp (List.argmin_mem chosen), ?_⟩
  intro route member found matched
  have offered : (route.2, found) ∈ answers take routes text :=
    mem_answers_iff.mpr ⟨route.1, member, matched⟩
  exact List.le_of_mem_argmin offered chosen

end Choice

end DescargaP2P.Patterns
