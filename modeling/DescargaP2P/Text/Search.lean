import Mathlib.Data.List.Infix
import Mathlib.Data.List.Basic
import Mathlib.Data.Nat.Find

/-!
# Substring search and splitting at a separator

The search is `List.dropInfix?` at its first occurrence.  The splitter is the
usual loop that searches a separator, emits the text before it and erases the
text up to its end, until no separator is left.

A separator that is *unbordered* cannot occur across the border between a text
without separators and the separator that follows it, whatever the text ends
with.  This is what makes the splitter undo a concatenation.  A text is *apart* from a
pattern if no occurrence of it begins there, whatever follows.
-/

namespace DescargaP2P.Text

universe u v

variable {α : Type u}

/-! ## Joins -/

/-- Every part with the separator after it. -/
def joined (separator : List α) (parts : List (List α)) : List α :=
  parts.flatMap fun part => part ++ separator

@[simp]
theorem joined_nil (separator : List α) : joined separator [] = [] := rfl

@[simp]
theorem joined_cons (separator part : List α) (parts : List (List α)) :
    joined separator (part :: parts) = part ++ separator ++ joined separator parts :=
  List.flatMap_cons

theorem length_flatMap_le {β : Type v} {first second : β → List α} {items : List β}
    (shorter : ∀ item ∈ items, (first item).length ≤ (second item).length) :
    (items.flatMap first).length ≤ (items.flatMap second).length := by
  induction items with
  | nil => exact Nat.le_refl _
  | cons item items ih =>
      obtain ⟨here, others⟩ := List.forall_mem_cons.mp shorter
      rw [List.flatMap_cons, List.flatMap_cons, List.length_append, List.length_append]
      exact Nat.add_le_add here (ih others)

/-- Joins of pieces, none of them longer than its counterpart, are equal exactly when the
pieces are. -/
theorem flatMap_eq_iff {β : Type v} {first second : β → List α} {items : List β}
    (shorter : ∀ item ∈ items, (first item).length ≤ (second item).length) :
    items.flatMap first = items.flatMap second ↔ ∀ item ∈ items, first item = second item := by
  constructor
  · intro same
    induction items with
    | nil => exact fun _ member => absurd member List.not_mem_nil
    | cons item items ih =>
        obtain ⟨here, others⟩ := List.forall_mem_cons.mp shorter
        have rest := length_flatMap_le others
        have total := congrArg List.length same
        simp only [List.flatMap_cons, List.length_append] at total
        obtain ⟨sameHere, sameRest⟩ := List.append_inj same (by omega)
        exact List.forall_mem_cons.mpr ⟨sameHere, ih others sameRest⟩
  · exact List.flatMap_congr

variable [DecidableEq α]

/-! ## First occurrence -/

/-- Offset of the first occurrence of a pattern. -/
def findSub (pattern text : List α) : Option Nat :=
  (text.dropInfix? pattern).map fun cut => cut.1.length

theorem dropInfix?_eq_some {pattern text before after : List α} :
    text.dropInfix? pattern = some (before, after) ↔
      text = before ++ pattern ++ after ∧
        ∀ earlier later, text = earlier ++ pattern ++ later →
          before.length ≤ earlier.length := by
  rw [List.dropInfix?_eq_some_iff]
  simp only [beq_iff_eq]
  constructor
  · rintro ⟨⟨_, cut, rfl⟩, first⟩
    exact ⟨cut, fun earlier later other => first earlier _ later other rfl⟩
  · rintro ⟨cut, first⟩
    refine ⟨⟨pattern, cut, rfl⟩, ?_⟩
    rintro earlier _ later other rfl
    exact first earlier later other

theorem dropInfix?_eq_none {pattern text : List α} :
    text.dropInfix? pattern = none ↔ ¬ pattern <:+: text := by
  constructor
  · rintro notFound ⟨before, after, cut⟩
    have occurs : ∃ n, ∃ earlier later,
        text = earlier ++ pattern ++ later ∧ earlier.length = n :=
      ⟨before.length, before, after, cut.symm, rfl⟩
    classical
    obtain ⟨earlier, later, firstCut, lengthEq⟩ := Nat.find_spec occurs
    have found : text.dropInfix? pattern = some (earlier, later) :=
      dropInfix?_eq_some.mpr ⟨firstCut, fun other rest otherCut => by
        rw [lengthEq]
        exact Nat.find_min' occurs ⟨other, rest, otherCut, rfl⟩⟩
    rw [notFound] at found
    contradiction
  · intro absent
    rw [Option.eq_none_iff_forall_ne_some]
    rintro ⟨before, after⟩ found
    exact absent ⟨before, after, (dropInfix?_eq_some.mp found).1.symm⟩

theorem findSub_eq_none_iff {pattern text : List α} :
    findSub pattern text = none ↔ ¬ pattern <:+: text := by
  simp [findSub, dropInfix?_eq_none]

/-! ## Unbordered separators -/

/-- No proper nonempty prefix of the word is also a suffix of it. -/
def Unbordered (word : List α) : Prop :=
  ∀ border ∈ word.inits, border <:+ word → border = [] ∨ border = word

instance (word : List α) : Decidable (Unbordered word) :=
  inferInstanceAs (Decidable (∀ border ∈ word.inits, _))

/-- An unbordered pattern after a text without the pattern is found where it
was appended. -/
theorem dropInfix?_append {pattern before : List α} (unbordered : Unbordered pattern)
    (absent : ¬ pattern <:+: before) (after : List α) :
    (before ++ pattern ++ after).dropInfix? pattern = some (before, after) := by
  refine dropInfix?_eq_some.mpr ⟨rfl, fun earlier later cut => ?_⟩
  by_contra shorter
  have prefixEarlier : earlier ++ pattern <+: before ++ pattern ++ after :=
    ⟨later, cut.symm⟩
  have notInside : ¬ earlier ++ pattern <+: before := by
    rintro ⟨tail, inside⟩
    exact absent ⟨earlier, tail, inside⟩
  -- The earlier occurrence starts inside `before` and ends after it.
  have longer : before.length < (earlier ++ pattern).length := by
    by_contra fits
    refine notInside (List.prefix_of_prefix_length_le prefixEarlier ?_ (by omega))
    exact ⟨pattern ++ after, by simp⟩
  obtain ⟨gap, gapEq⟩ : earlier <+: before :=
    List.prefix_of_prefix_length_le ((List.prefix_append _ _).trans prefixEarlier)
      ⟨pattern ++ after, by simp⟩ (by omega)
  obtain ⟨border, borderEq⟩ : before <+: earlier ++ pattern :=
    List.prefix_of_prefix_length_le ⟨pattern ++ after, by simp⟩ prefixEarlier (by omega)
  have patternEq : gap ++ border = pattern := by
    rw [← gapEq, List.append_assoc] at borderEq
    exact List.append_cancel_left borderEq
  have borderPrefix : border <+: pattern := by
    have aligned : border ++ later = pattern ++ after := by
      rw [← borderEq, List.append_assoc, List.append_assoc] at cut
      exact (List.append_cancel_left cut).symm
    refine List.prefix_of_prefix_length_le ⟨later, aligned⟩ ⟨after, rfl⟩ ?_
    rw [← patternEq]
    simp
  have trivialBorder := unbordered border ((List.mem_inits _ _).mpr borderPrefix)
    ⟨gap, patternEq⟩
  have gapLength := congrArg List.length gapEq
  have borderLength := congrArg List.length borderEq
  have patternLength := congrArg List.length patternEq
  simp only [List.length_append] at gapLength borderLength patternLength longer
  rcases trivialBorder with rfl | rfl
  · simp only [List.length_nil] at borderLength
    omega
  · omega

theorem findSub_append {pattern before : List α} (unbordered : Unbordered pattern)
    (absent : ¬ pattern <:+: before) (after : List α) :
    findSub pattern (before ++ pattern ++ after) = some before.length := by
  rw [findSub, dropInfix?_append unbordered absent]
  rfl

/-! ## Texts apart from a pattern -/

/-- No occurrence of the pattern begins in the text, whatever follows it. -/
def Apart (pattern text : List α) : Prop :=
  ¬ pattern <:+: text ∧ ∀ front ∈ pattern.inits, front ≠ [] → ¬ front <:+ text

instance (pattern text : List α) : Decidable (Apart pattern text) :=
  inferInstanceAs (Decidable (_ ∧ ∀ front ∈ pattern.inits, _))

omit [DecidableEq α] in
theorem Apart.infix_append_iff {pattern text : List α} (apart : Apart pattern text)
    (rest : List α) : pattern <:+: text ++ rest ↔ pattern <:+: rest := by
  rw [List.infix_append_iff_ne_nil]
  constructor
  · rintro (inText | inRest | ⟨front, back, nonempty, _, rfl, suffix, _⟩)
    · exact absurd inText apart.1
    · exact inRest
    · have isInit : front ∈ (front ++ back).inits :=
        (List.mem_inits _ _).mpr (List.prefix_append front back)
      exact absurd suffix (apart.2 front isInit nonempty)
  · exact fun inRest => Or.inr (Or.inl inRest)

/-- The first occurrence is that of what follows. -/
theorem Apart.findSub_append {pattern text : List α} (apart : Apart pattern text)
    (rest : List α) : findSub pattern (text ++ rest) =
      (findSub pattern rest).map (text.length + ·) := by
  cases found : rest.dropInfix? pattern with
  | none =>
      have absent := dropInfix?_eq_none.mp found
      rw [findSub_eq_none_iff.mpr (mt (apart.infix_append_iff rest).mp absent),
        findSub_eq_none_iff.mpr absent, Option.map_none]
  | some cut =>
      obtain ⟨before, after⟩ := cut
      obtain ⟨rfl, first⟩ := dropInfix?_eq_some.mp found
      have later : (text ++ (before ++ pattern ++ after)).dropInfix? pattern =
          some (text ++ before, after) := by
        refine dropInfix?_eq_some.mpr ⟨by simp, fun earlier later other => ?_⟩
        rw [List.append_assoc earlier] at other
        rcases List.append_eq_append_iff.mp other with ⟨front, inside, cut⟩ | ⟨back, cut, inside⟩
        · have bound := first front later (by rw [cut, List.append_assoc])
          rw [inside, List.length_append, List.length_append]
          exact Nat.add_le_add_left bound text.length
        · -- An occurrence that begins in the text ends there, or after it.
          cases back with
          | nil =>
              rw [List.append_nil] at cut
              have bound := first [] later (by simpa using inside.symm)
              rw [cut, List.length_append]
              exact Nat.add_le_add_left bound earlier.length
          | cons symbol back =>
              rcases List.append_eq_append_iff.mp inside with ⟨tail, whole, _⟩ | ⟨tail, whole, _⟩
              · exact absurd ⟨earlier, tail, by rw [cut, whole, List.append_assoc]⟩ apart.1
              · have isInit : symbol :: back ∈ pattern.inits :=
                  (List.mem_inits _ _).mpr ⟨tail, whole.symm⟩
                exact absurd ⟨earlier, cut.symm⟩ (apart.2 _ isInit (List.cons_ne_nil _ _))
      simp only [findSub, later, found, Option.map_some, List.length_append]

/-- A text that begins with the pattern. -/
theorem findSub_self_append (pattern rest : List α) :
    findSub pattern (pattern ++ rest) = some 0 := by
  have first : (pattern ++ rest).dropInfix? pattern = some ([], rest) :=
    dropInfix?_eq_some.mpr ⟨rfl, fun _ _ _ => Nat.zero_le _⟩
  rw [findSub, first]
  rfl

omit [DecidableEq α] in
/-- A symbol that the pattern does not have goes before a text apart from it. -/
theorem Apart.cons {pattern text : List α} (apart : Apart pattern text) {symbol : α}
    (foreign : symbol ∉ pattern) : Apart pattern (symbol :: text) := by
  constructor
  · rw [List.infix_cons_iff]
    rintro (starts | inside)
    · cases pattern with
      | nil => exact apart.1 (List.nil_infix)
      | cons first pattern =>
          obtain rfl := (List.cons_prefix_cons.mp starts).1
          exact foreign List.mem_cons_self
    · exact apart.1 inside
  · intro front init nonempty suffix
    rcases List.suffix_cons_iff.mp suffix with rfl | within
    · have inside := ((List.mem_inits _ _).mp init).subset
      exact foreign (inside List.mem_cons_self)
    · exact apart.2 front init nonempty within

/-! ## Splitting -/

/-- The splitting loop: while the separator occurs, emit the text before it and
erase the text up to its end.  The result is the emitted parts and the text
that is left. -/
def splitLoop (separator : List α) : Nat → List α → List (List α) × List α
  | 0, text => ([], text)
  | fuel + 1, text =>
      match findSub separator text with
      | none => ([], text)
      | some pos =>
          let next := splitLoop separator fuel (text.drop (pos + separator.length))
          (text.take pos :: next.1, next.2)

/-- Split a text at a separator.  Every iteration erases at least one symbol, so
the length of the text bounds their number. -/
def split (separator text : List α) : List (List α) × List α :=
  splitLoop separator text.length text

theorem findSub_eq_some_cut {pattern text : List α} {pos : Nat}
    (found : findSub pattern text = some pos) :
    text = text.take pos ++ pattern ++ text.drop (pos + pattern.length) ∧
      ¬ (pattern ≠ [] ∧ pattern <:+: text.take pos) := by
  obtain ⟨⟨before, after⟩, cutFound, rfl⟩ := Option.map_eq_some_iff.mp found
  obtain ⟨cut, first⟩ := dropInfix?_eq_some.mp cutFound
  have takeEq : text.take before.length = before := by
    rw [cut, List.append_assoc, List.take_left]
  have dropEq : text.drop (before.length + pattern.length) = after := by
    rw [cut, ← List.length_append, List.drop_left]
  refine ⟨by rw [takeEq, dropEq]; exact cut, ?_⟩
  rintro ⟨nonempty, earlier, later, inside⟩
  rw [takeEq] at inside
  have bound := first earlier (later ++ pattern ++ after) (by
    rw [cut, ← inside]
    simp)
  have lengthEq := congrArg List.length inside
  have positive := List.length_pos_iff.mpr nonempty
  simp only [List.length_append] at lengthEq
  omega

/-- Fuel beyond the length of the text does not change the loop. -/
theorem splitLoop_eq_split {separator : List α} (nonempty : separator ≠ [])
    {fuel : Nat} {text : List α} (enough : text.length ≤ fuel) :
    splitLoop separator fuel text = split separator text := by
  have positive := List.length_pos_iff.mpr nonempty
  induction fuel using Nat.strong_induction_on generalizing text with
  | _ fuel ih =>
      cases fuel with
      | zero => rw [split, Nat.le_zero.mp enough]
      | succ fuel =>
          cases lengthEq : text.length with
          | zero =>
              rw [List.length_eq_zero_iff.mp lengthEq]
              have notFound : findSub separator [] = none := by
                rw [findSub_eq_none_iff, List.infix_nil]
                exact nonempty
              simp [splitLoop, split, notFound]
          | succ size =>
              rw [split, lengthEq]
              simp only [splitLoop]
              cases findSub separator text with
              | none => rfl
              | some pos =>
                  have shorter : (text.drop (pos + separator.length)).length ≤ size := by
                    rw [List.length_drop]
                    omega
                  simp only [ih fuel (by omega) (shorter.trans (by omega)),
                    ih size (by omega) shorter]

theorem split_of_absent {separator text : List α} (absent : ¬ separator <:+: text) :
    split separator text = ([], text) := by
  cases lengthEq : text.length with
  | zero => simp [split, lengthEq, splitLoop]
  | succ size => simp [split, lengthEq, splitLoop, findSub_eq_none_iff.mpr absent]

theorem split_of_findSub {separator text : List α} (nonempty : separator ≠ [])
    {pos : Nat} (found : findSub separator text = some pos) :
    split separator text =
      (text.take pos :: (split separator (text.drop (pos + separator.length))).1,
        (split separator (text.drop (pos + separator.length))).2) := by
  have positive := List.length_pos_iff.mpr nonempty
  rw [← splitLoop_eq_split nonempty (Nat.le_succ text.length)]
  simp only [splitLoop, found]
  rw [splitLoop_eq_split nonempty (by rw [List.length_drop]; omega)]

/-- Splitting a text without separators followed by an unbordered separator
emits that text first. -/
theorem split_append {separator before : List α} (nonempty : separator ≠ [])
    (unbordered : Unbordered separator) (absent : ¬ separator <:+: before)
    (after : List α) :
    split separator (before ++ separator ++ after) =
      (before :: (split separator after).1, (split separator after).2) := by
  have found := findSub_append unbordered absent after
  rw [split_of_findSub nonempty found]
  have dropEq : (before ++ separator ++ after).drop (before.length + separator.length) =
      after := by
    rw [← List.length_append, List.drop_left]
  rw [dropEq, List.append_assoc, List.take_left]

/-- The first part emitted is the text before the first separator. -/
theorem split_fst_eq_cons_iff {separator : List α} (nonempty : separator ≠ [])
    (unbordered : Unbordered separator) {text part : List α} {parts : List (List α)} :
    (split separator text).1 = part :: parts ↔
      ∃ rest, text = part ++ separator ++ rest ∧ ¬ separator <:+: part ∧
        (split separator rest).1 = parts := by
  constructor
  · intro emitted
    cases found : findSub separator text with
    | none =>
        rw [split_of_absent (findSub_eq_none_iff.mp found)] at emitted
        contradiction
    | some pos =>
        obtain ⟨cut, absent⟩ := findSub_eq_some_cut found
        rw [split_of_findSub nonempty found] at emitted
        obtain ⟨rfl, rfl⟩ := List.cons_eq_cons.mp emitted
        exact ⟨text.drop (pos + separator.length), cut,
          fun inside => absent ⟨nonempty, inside⟩, rfl⟩
  · rintro ⟨rest, rfl, absent, rfl⟩
    rw [split_append nonempty unbordered absent]

/-- A text apart from the separator goes to the first part. -/
theorem Apart.split_append {separator text : List α} (nonempty : separator ≠ [])
    (apart : Apart separator text) (rest : List α) :
    (split separator (text ++ rest)).1 = (split separator rest).1.modifyHead (text ++ ·) := by
  have searched := apart.findSub_append rest
  cases found : findSub separator rest with
  | none =>
      have absent := findSub_eq_none_iff.mp found
      rw [found, Option.map_none] at searched
      rw [split_of_absent absent, split_of_absent (findSub_eq_none_iff.mp searched)]
      rfl
  | some pos =>
      rw [found, Option.map_some] at searched
      have left : (text ++ rest).take (text.length + pos) = text ++ rest.take pos := by
        rw [List.take_length_add_append]
      have right : (text ++ rest).drop (text.length + pos + separator.length) =
          rest.drop (pos + separator.length) := by
        rw [Nat.add_assoc, List.drop_length_add_append]
      rw [split_of_findSub nonempty searched, split_of_findSub nonempty found, left, right]
      rfl

/-- A separator cuts the emitted parts in two: the text left by the first half ends
where it stands. -/
theorem split_fst_append {separator : List α} (nonempty : separator ≠ [])
    (unbordered : Unbordered separator) (before after : List α) :
    (split separator (before ++ separator ++ after)).1 =
      (split separator before).1 ++
        (split separator before).2 :: (split separator after).1 := by
  have positive := List.length_pos_iff.mpr nonempty
  induction lengthEq : before.length using Nat.strong_induction_on generalizing before with
  | _ size ih =>
      cases found : findSub separator before with
      | none =>
          have absent := findSub_eq_none_iff.mp found
          rw [split_append nonempty unbordered absent, split_of_absent absent, List.nil_append]
      | some pos =>
          obtain ⟨cut, noEarlier⟩ := findSub_eq_some_cut found
          have absent : ¬ separator <:+: before.take pos := fun inside =>
            noEarlier ⟨nonempty, inside⟩
          have shorter := congrArg List.length cut
          simp only [List.length_append] at shorter
          have later := ih _ (by omega) (before.drop (pos + separator.length)) rfl
          have regrouped : before ++ separator ++ after = before.take pos ++ separator ++
              (before.drop (pos + separator.length) ++ separator ++ after) := by
            nth_rewrite 1 [cut]
            simp only [List.append_assoc]
          rw [regrouped, split_append nonempty unbordered absent, later,
            split_of_findSub nonempty found, List.cons_append]

/-! ## Splitting and joining -/

/-- The parts, joined again, and the text that is left are the whole text. -/
theorem joined_split {separator : List α} (nonempty : separator ≠ []) (text : List α) :
    joined separator (split separator text).1 ++ (split separator text).2 = text := by
  have positive := List.length_pos_iff.mpr nonempty
  induction lengthEq : text.length using Nat.strong_induction_on generalizing text with
  | _ size ih =>
      cases found : findSub separator text with
      | none =>
          rw [split_of_absent (findSub_eq_none_iff.mp found), joined_nil, List.nil_append]
      | some pos =>
          obtain ⟨cut, _⟩ := findSub_eq_some_cut found
          have shorter := congrArg List.length cut
          simp only [List.length_append] at shorter
          have later := ih _ (by omega) (text.drop (pos + separator.length)) rfl
          rw [split_of_findSub nonempty found, joined_cons, List.append_assoc, later]
          exact cut.symm

/-- The loop leaves no separator behind, neither in a part nor in the text that is
left. -/
theorem split_clean {separator : List α} (nonempty : separator ≠ []) (text : List α) :
    (∀ part ∈ (split separator text).1, ¬ separator <:+: part) ∧
      ¬ separator <:+: (split separator text).2 := by
  have positive := List.length_pos_iff.mpr nonempty
  induction lengthEq : text.length using Nat.strong_induction_on generalizing text with
  | _ size ih =>
      cases found : findSub separator text with
      | none =>
          have absent := findSub_eq_none_iff.mp found
          rw [split_of_absent absent]
          exact ⟨fun part member => absurd member List.not_mem_nil, absent⟩
      | some pos =>
          obtain ⟨cut, noEarlier⟩ := findSub_eq_some_cut found
          have shorter := congrArg List.length cut
          simp only [List.length_append] at shorter
          obtain ⟨partsClean, restClean⟩ :=
            ih _ (by omega) (text.drop (pos + separator.length)) rfl
          rw [split_of_findSub nonempty found]
          refine ⟨List.forall_mem_cons.mpr ⟨?_, partsClean⟩, restClean⟩
          intro inside
          exact noEarlier ⟨nonempty, inside⟩

/-- Splitting undoes a join of parts without separators, whatever the parts begin or
end with. -/
theorem split_joined {separator : List α} (nonempty : separator ≠ [])
    (unbordered : Unbordered separator) {parts : List (List α)}
    (absent : ∀ part ∈ parts, ¬ separator <:+: part) :
    split separator (joined separator parts) = (parts, []) := by
  induction parts with
  | nil =>
      apply split_of_absent
      rw [joined_nil, List.infix_nil]
      exact nonempty
  | cons part parts ih =>
      obtain ⟨first, others⟩ := List.forall_mem_cons.mp absent
      rw [joined_cons, split_append nonempty unbordered first, ih others]

/-- A separator of one symbol after every part leaves an empty text at the end. -/
theorem splitOn_joined {symbol : α} {parts : List (List α)}
    (absent : ∀ part ∈ parts, symbol ∉ part) :
    (joined [symbol] parts).splitOn symbol = parts ++ [[]] := by
  induction parts with
  | nil => exact List.splitOn_nil symbol
  | cons part parts ih =>
      obtain ⟨first, others⟩ := List.forall_mem_cons.mp absent
      rw [joined_cons, List.append_assoc, List.singleton_append,
        List.splitOn_append_cons_self_of_not_mem first, ih others, List.cons_append]

end DescargaP2P.Text
