import Mathlib.Order.Lattice
import Mathlib.Data.List.Basic

/-!
# Ordered maps as strictly sorted entry lists

An ordered map is a list of key-value pairs whose keys increase strictly.  The
order is a field of the structure, so an iteration over the entries is an
iteration in key order and two maps with the same lookups are equal.

Two updates are supplied: `emplace` inserts under an absent key and leaves a
present key alone, and `modify` rewrites the value of a present key.
-/

namespace DescargaP2P.Collections

universe u v

/-- A finite map whose entries are listed in strictly increasing key order. -/
structure OrderedMap (κ : Type u) (ν : Type v) [LinearOrder κ] where
  entries : List (κ × ν)
  sorted : entries.Pairwise fun first second => first.1 < second.1
  deriving DecidableEq

namespace OrderedMap

variable {κ : Type u} {ν : Type v} [LinearOrder κ]

/-- The map without entries. -/
def empty : OrderedMap κ ν := ⟨[], List.Pairwise.nil⟩

/-- Keys in iteration order. -/
def keys (map : OrderedMap κ ν) : List κ := map.entries.map Prod.fst

/-! ## Lookup -/

/-- Value stored under the first entry with the given key. -/
def lookupEntry (key : κ) : List (κ × ν) → Option ν
  | [] => none
  | (first, value) :: rest => if first = key then some value else lookupEntry key rest

/-- Value stored under a key. -/
def find? (map : OrderedMap κ ν) (key : κ) : Option ν := lookupEntry key map.entries

theorem lookupEntry_eq_some_iff {entries : List (κ × ν)}
    (sorted : entries.Pairwise fun first second => first.1 < second.1)
    (key : κ) (value : ν) :
    lookupEntry key entries = some value ↔ (key, value) ∈ entries := by
  induction entries with
  | nil => simp [lookupEntry]
  | cons entry rest ih =>
      obtain ⟨first, stored⟩ := entry
      obtain ⟨below, sortedRest⟩ := List.pairwise_cons.mp sorted
      by_cases same : first = key
      · subst same
        have notLater : (first, value) ∉ rest := fun later =>
          lt_irrefl first (below _ later)
        simp [lookupEntry, notLater, eq_comm]
      · simp [lookupEntry, same, Ne.symm same, ih sortedRest]

/-- Lookup is membership in the entry list. -/
theorem find?_eq_some_iff (map : OrderedMap κ ν) (key : κ) (value : ν) :
    map.find? key = some value ↔ (key, value) ∈ map.entries :=
  lookupEntry_eq_some_iff map.sorted key value

theorem find?_eq_none_iff (map : OrderedMap κ ν) (key : κ) :
    map.find? key = none ↔ key ∉ map.keys := by
  rw [Option.eq_none_iff_forall_ne_some]
  simp only [ne_eq, find?_eq_some_iff, keys, List.mem_map, not_exists, not_and]
  constructor
  · rintro absent ⟨stored, value⟩ member rfl
    exact absent value member
  · intro absent value member
    exact absent (key, value) member rfl

theorem mem_keys_iff (map : OrderedMap κ ν) (key : κ) :
    key ∈ map.keys ↔ ∃ value, map.find? key = some value := by
  rw [← not_iff_not, ← find?_eq_none_iff, Option.eq_none_iff_forall_ne_some]
  simp

/-- Keys are listed in strictly increasing order. -/
theorem keys_sorted (map : OrderedMap κ ν) : map.keys.Pairwise (· < ·) :=
  List.pairwise_map.mpr map.sorted

/-- The entries up to a key stay sorted, whatever the key is mapped to. -/
theorem sorted_of_cut {before after : List (κ × ν)} {key : κ} {held : ν}
    (sorted : (before ++ (key, held) :: after).Pairwise fun first second => first.1 < second.1)
    (value : ν) :
    (before ++ [(key, value)]).Pairwise fun first second => first.1 < second.1 := by
  rw [List.pairwise_append] at sorted ⊢
  refine ⟨sorted.1, List.pairwise_singleton _ _, ?_⟩
  intro entry member other last
  rw [List.mem_singleton.mp last]
  exact sorted.2.2 entry member (key, held) List.mem_cons_self

/-- Sorted entry lists with the same members are the same list. -/
theorem entries_eq_of_mem_iff {first second : List (κ × ν)}
    (firstSorted : first.Pairwise fun left right => left.1 < right.1)
    (secondSorted : second.Pairwise fun left right => left.1 < right.1)
    (sameMembers : ∀ entry, entry ∈ first ↔ entry ∈ second) : first = second := by
  induction first generalizing second with
  | nil =>
      cases second with
      | nil => rfl
      | cons entry rest => simpa using sameMembers entry
  | cons entry rest ih =>
      cases second with
      | nil => simpa using sameMembers entry
      | cons other others =>
          obtain ⟨below, restSorted⟩ := List.pairwise_cons.mp firstSorted
          obtain ⟨otherBelow, othersSorted⟩ := List.pairwise_cons.mp secondSorted
          have heads : entry = other := by
            rcases List.mem_cons.mp ((sameMembers entry).mp List.mem_cons_self) with
              equal | entryLater
            · exact equal
            rcases List.mem_cons.mp ((sameMembers other).mpr List.mem_cons_self) with
              equal | otherLater
            · exact equal.symm
            exact absurd (below _ otherLater) (lt_asymm (otherBelow _ entryLater))
          subst heads
          have tails : rest = others := ih restSorted othersSorted fun candidate => by
            have onlyTail : ∀ {list : List (κ × ν)},
                (∀ later ∈ list, entry.1 < later.1) → candidate ∈ list →
                  candidate ≠ entry := by
              rintro list bound member rfl
              exact lt_irrefl _ (bound _ member)
            have both := sameMembers candidate
            simp only [List.mem_cons] at both
            constructor
            · intro member
              exact (both.mp (Or.inr member)).resolve_left (onlyTail below member)
            · intro member
              exact (both.mpr (Or.inr member)).resolve_left (onlyTail otherBelow member)
          rw [tails]

/-- Maps with the same lookups are equal. -/
@[ext]
theorem ext {first second : OrderedMap κ ν}
    (sameLookup : ∀ key, first.find? key = second.find? key) : first = second := by
  have sameEntries : first.entries = second.entries :=
    entries_eq_of_mem_iff first.sorted second.sorted fun ⟨key, value⟩ => by
      rw [← find?_eq_some_iff, ← find?_eq_some_iff, sameLookup]
  cases first
  cases second
  simpa using sameEntries

/-! ## Insertion under an absent key -/

/-- Insert an entry at its place in a sorted list unless its key is present. -/
def emplaceEntry (key : κ) (value : ν) : List (κ × ν) → List (κ × ν)
  | [] => [(key, value)]
  | (first, stored) :: rest =>
      if key < first then (key, value) :: (first, stored) :: rest
      else if key = first then (first, stored) :: rest
      else (first, stored) :: emplaceEntry key value rest

theorem mem_emplaceEntry {key : κ} {value : ν} {entries : List (κ × ν)} {entry : κ × ν}
    (member : entry ∈ emplaceEntry key value entries) :
    entry = (key, value) ∨ entry ∈ entries := by
  induction entries with
  | nil => simpa [emplaceEntry] using member
  | cons head rest ih =>
      obtain ⟨first, stored⟩ := head
      unfold emplaceEntry at member
      split_ifs at member with before same
      · simpa using member
      · exact Or.inr member
      · rcases List.mem_cons.mp member with rfl | later
        · exact Or.inr List.mem_cons_self
        · exact (ih later).imp_right (List.mem_cons_of_mem _)

theorem emplaceEntry_sorted (key : κ) (value : ν) {entries : List (κ × ν)}
    (sorted : entries.Pairwise fun first second => first.1 < second.1) :
    (emplaceEntry key value entries).Pairwise fun first second => first.1 < second.1 := by
  induction entries with
  | nil => simp [emplaceEntry]
  | cons head rest ih =>
      obtain ⟨first, stored⟩ := head
      obtain ⟨below, sortedRest⟩ := List.pairwise_cons.mp sorted
      unfold emplaceEntry
      split_ifs with before same
      · refine List.pairwise_cons.mpr ⟨?_, sorted⟩
        intro later member
        rcases List.mem_cons.mp member with rfl | member
        · exact before
        · exact lt_trans before (below _ member)
      · exact sorted
      · refine List.pairwise_cons.mpr ⟨?_, ih sortedRest⟩
        intro later member
        rcases mem_emplaceEntry member with rfl | member
        · exact lt_of_le_of_ne (not_lt.mp before) (Ne.symm same)
        · exact below _ member

/-- Insert a value under an absent key; a present key keeps its value. -/
def emplace (map : OrderedMap κ ν) (key : κ) (value : ν) : OrderedMap κ ν :=
  ⟨emplaceEntry key value map.entries, emplaceEntry_sorted key value map.sorted⟩

theorem lookupEntry_eq_none_of_lt {key : κ} {entries : List (κ × ν)}
    (below : ∀ entry ∈ entries, key < entry.1) : lookupEntry key entries = none := by
  induction entries with
  | nil => rfl
  | cons head rest ih =>
      have notHead : head.1 ≠ key := ne_of_gt (below head List.mem_cons_self)
      have tail := ih fun entry member => below entry (List.mem_cons_of_mem _ member)
      simp [lookupEntry, notHead, tail]

theorem lookupEntry_emplaceEntry {entries : List (κ × ν)}
    (sorted : entries.Pairwise fun first second => first.1 < second.1)
    (key other : κ) (value : ν) :
    lookupEntry other (emplaceEntry key value entries) =
      if other = key then some ((lookupEntry key entries).getD value)
      else lookupEntry other entries := by
  induction entries with
  | nil => simp only [emplaceEntry, lookupEntry, Option.getD_none, eq_comm]
  | cons head rest ih =>
      obtain ⟨first, stored⟩ := head
      obtain ⟨below, sortedRest⟩ := List.pairwise_cons.mp sorted
      rcases lt_trichotomy key first with before | rfl | after
      · have absent : lookupEntry key ((first, stored) :: rest) = none :=
          lookupEntry_eq_none_of_lt fun entry member => by
            rcases List.mem_cons.mp member with rfl | later
            · exact before
            · exact lt_trans before (below _ later)
        rw [absent, emplaceEntry, if_pos before, lookupEntry]
        simp only [Option.getD_none, eq_comm]
      · rw [emplaceEntry, if_neg (lt_irrefl key), if_pos rfl]
        by_cases asked : other = key
        · simp [lookupEntry, asked]
        · simp [asked]
      · rw [emplaceEntry, if_neg (lt_asymm after), if_neg (ne_of_gt after), lookupEntry,
          ih sortedRest]
        by_cases asked : other = key
        · subst asked
          simp [lookupEntry, ne_of_lt after]
        · simp [lookupEntry, asked]

/-- Lookup after `emplace`. -/
theorem find?_emplace (map : OrderedMap κ ν) (key other : κ) (value : ν) :
    (map.emplace key value).find? other =
      if other = key then some ((map.find? key).getD value) else map.find? other :=
  lookupEntry_emplaceEntry map.sorted key other value

/-! ## Rewriting the value of a present key -/

/-- Apply a function to the value of a present key. -/
def modify (map : OrderedMap κ ν) (key : κ) (update : ν → ν) : OrderedMap κ ν where
  entries := map.entries.map fun entry =>
    if entry.1 = key then (entry.1, update entry.2) else entry
  sorted := by
    refine List.pairwise_map.mpr (map.sorted.imp ?_)
    intro first second below
    split_ifs <;> exact below

theorem lookupEntry_map (key other : κ) (update : ν → ν) (entries : List (κ × ν)) :
    lookupEntry other (entries.map fun entry =>
        if entry.1 = key then (entry.1, update entry.2) else entry) =
      if other = key then (lookupEntry key entries).map update
      else lookupEntry other entries := by
  induction entries with
  | nil => by_cases same : other = key <;> simp [lookupEntry, same]
  | cons head rest ih =>
      obtain ⟨first, stored⟩ := head
      by_cases here : first = key
      · subst here
        by_cases asked : other = first
        · simp [lookupEntry, asked]
        · simp [lookupEntry, asked, Ne.symm asked, ih]
      · by_cases asked : first = other
        · subst asked
          simp [lookupEntry, here]
        · simp [lookupEntry, here, asked, ih]

/-- Lookup after `modify`. -/
theorem find?_modify (map : OrderedMap κ ν) (key other : κ) (update : ν → ν) :
    (map.modify key update).find? other =
      if other = key then (map.find? key).map update else map.find? other :=
  lookupEntry_map key other update map.entries

/-! ## Appending to multi-valued maps -/

section Append

variable {α : Type v}

/-- Append an element to the list under a key, starting from the empty list. -/
def append (map : OrderedMap κ (List α)) (key : κ) (element : α) : OrderedMap κ (List α) :=
  (map.emplace key []).modify key (· ++ [element])

/-- Elements held under a key, none if the key is absent. -/
def elements (map : OrderedMap κ (List α)) (key : κ) : List α := (map.find? key).getD []

@[simp]
theorem elements_empty (key : κ) : (empty : OrderedMap κ (List α)).elements key = [] := rfl

theorem find?_append (map : OrderedMap κ (List α)) (key other : κ) (element : α) :
    (map.append key element).find? other =
      if other = key then some (map.elements key ++ [element]) else map.find? other := by
  unfold append elements
  rw [find?_modify, find?_emplace, find?_emplace]
  by_cases same : other = key <;> simp [same]

theorem elements_append (map : OrderedMap κ (List α)) (key other : κ) (element : α) :
    (map.append key element).elements other =
      if other = key then map.elements key ++ [element] else map.elements other := by
  unfold elements
  rw [find?_append]
  by_cases same : other = key <;> simp [same, elements]

/-- Extending the list of a present key is an append. -/
theorem modify_eq_append {map : OrderedMap κ (List α)} {key : κ} {held : List α}
    (found : map.find? key = some held) (element : α) :
    map.modify key (· ++ [element]) = map.append key element := by
  ext1 other
  simp [find?_modify, find?_append, elements, found]

/-- Inserting a list of one element under an absent key is an append. -/
theorem emplace_eq_append {map : OrderedMap κ (List α)} {key : κ}
    (absent : map.find? key = none) (element : α) :
    map.emplace key [element] = map.append key element := by
  ext1 other
  simp [find?_emplace, find?_append, elements, absent]

/-- Inserting under a present key changes nothing. -/
theorem emplace_of_found {map : OrderedMap κ ν} {key : κ} {held : ν}
    (found : map.find? key = some held) (value : ν) : map.emplace key value = map := by
  ext1 other
  rw [find?_emplace, found, Option.getD_some]
  by_cases same : other = key
  · rw [if_pos same, same, found]
  · rw [if_neg same]

/-- An append can be told from the map it makes. -/
theorem append_inj {map : OrderedMap κ (List α)} {first second : κ} {left right : α}
    (same : map.append first left = map.append second right) : first = second ∧ left = right := by
  have held := congrArg (fun grown => grown.elements first) same
  simp only [elements_append, if_true] at held
  by_cases equal : first = second
  · rw [if_pos equal, equal] at held
    exact ⟨equal, List.singleton_inj.mp (List.append_cancel_left held)⟩
  · rw [if_neg equal, List.append_right_eq_self] at held
    cases held

theorem append_ne_self (map : OrderedMap κ (List α)) (key : κ) (element : α) :
    map.append key element ≠ map := by
  intro same
  have held := congrArg (fun grown => grown.elements key) same
  simp only [elements_append, if_true, List.append_right_eq_self] at held
  cases held

/-- Appends under different keys commute. -/
theorem append_comm (map : OrderedMap κ (List α)) {first second : κ}
    (different : first ≠ second) (left right : α) :
    (map.append first left).append second right =
      (map.append second right).append first left := by
  ext1 key
  simp only [find?_append, elements_append]
  by_cases isFirst : key = first
  · subst isFirst
    simp [different]
  · by_cases isSecond : key = second
    · subst isSecond
      simp [different.symm]
    · simp [isFirst, isSecond]

/-- Append the elements of a log one after another. -/
def appendAll (map : OrderedMap κ (List α)) (log : List (κ × α)) : OrderedMap κ (List α) :=
  log.foldl (fun current entry => current.append entry.1 entry.2) map

@[simp]
theorem appendAll_nil (map : OrderedMap κ (List α)) : map.appendAll [] = map := rfl

@[simp]
theorem appendAll_cons (map : OrderedMap κ (List α)) (entry : κ × α) (log : List (κ × α)) :
    map.appendAll (entry :: log) = (map.append entry.1 entry.2).appendAll log := rfl

theorem appendAll_append (map : OrderedMap κ (List α)) (first second : List (κ × α)) :
    map.appendAll (first ++ second) = (map.appendAll first).appendAll second :=
  List.foldl_append

/-- Elements of a log under a key, in log order. -/
def grouped (log : List (κ × α)) (key : κ) : List α :=
  (log.filter fun entry => entry.1 = key).map Prod.snd

/-- Appending a log groups it by key behind the elements held before. -/
theorem elements_appendAll (map : OrderedMap κ (List α)) (log : List (κ × α)) (key : κ) :
    (map.appendAll log).elements key = map.elements key ++ grouped log key := by
  induction log generalizing map with
  | nil => simp [grouped]
  | cons entry log ih =>
      rw [appendAll_cons, ih, elements_append]
      by_cases same : entry.1 = key
      · subst same
        simp [grouped]
      · simp [grouped, same, Ne.symm same]

/-- No key of the map holds an empty list. -/
def NonemptyLists (map : OrderedMap κ (List α)) : Prop := ∀ key, map.find? key ≠ some []

theorem nonemptyLists_empty : (empty : OrderedMap κ (List α)).NonemptyLists :=
  fun _ found => nomatch found

theorem NonemptyLists.append {map : OrderedMap κ (List α)} (nonempty : map.NonemptyLists)
    (key : κ) (element : α) : (map.append key element).NonemptyLists := by
  intro other
  rw [find?_append]
  split
  · simp
  · exact nonempty other

theorem NonemptyLists.appendAll {map : OrderedMap κ (List α)} (nonempty : map.NonemptyLists)
    (log : List (κ × α)) : (map.appendAll log).NonemptyLists := by
  induction log generalizing map with
  | nil => exact nonempty
  | cons entry log ih => exact ih (nonempty.append entry.1 entry.2)

/-- Without empty lists, a key is absent exactly when it holds no elements. -/
theorem NonemptyLists.find?_eq_none_iff {map : OrderedMap κ (List α)}
    (nonempty : map.NonemptyLists) (key : κ) :
    map.find? key = none ↔ map.elements key = [] := by
  unfold elements
  cases found : map.find? key with
  | none => simp
  | some held =>
      have notNil : held ≠ [] := by
        rintro rfl
        exact nonempty key found
      simp [notNil]

/-- Without empty lists, the elements determine the map. -/
theorem NonemptyLists.ext_elements {first second : OrderedMap κ (List α)}
    (firstNonempty : first.NonemptyLists) (secondNonempty : second.NonemptyLists)
    (same : ∀ key, first.elements key = second.elements key) : first = second := by
  ext1 key
  cases foundFirst : first.find? key with
  | none =>
      have none := (firstNonempty.find?_eq_none_iff key).mp foundFirst
      rw [same] at none
      exact ((secondNonempty.find?_eq_none_iff key).mpr none).symm
  | some held =>
      cases foundSecond : second.find? key with
      | none =>
          have none := (secondNonempty.find?_eq_none_iff key).mp foundSecond
          rw [← same] at none
          rw [(firstNonempty.find?_eq_none_iff key).mpr none] at foundFirst
          contradiction
      | some other =>
          have equal := same key
          simp only [elements, foundFirst, foundSecond, Option.getD_some] at equal
          rw [equal]

theorem elements_of_mem {map : OrderedMap κ (List α)} {entry : κ × List α}
    (member : entry ∈ map.entries) : map.elements entry.1 = entry.2 := by
  rw [elements, (map.find?_eq_some_iff entry.1 entry.2).mpr member, Option.getD_some]

/-- Without empty lists, every entry is a singleton exactly when no key holds a
second element. -/
theorem NonemptyLists.forall_length_eq_one_iff {map : OrderedMap κ (List α)}
    (nonempty : map.NonemptyLists) :
    (∀ entry ∈ map.entries, entry.2.length = 1) ↔ ∀ key, (map.elements key).length ≤ 1 := by
  constructor
  · intro single key
    unfold elements
    cases found : map.find? key with
    | none => exact Nat.zero_le 1
    | some held =>
        exact le_of_eq (single (key, held) ((map.find?_eq_some_iff key held).mp found))
  · rintro atMostOne ⟨key, held⟩ member
    have bound := atMostOne key
    rw [elements_of_mem member] at bound
    apply le_antisymm bound
    apply List.length_pos_iff.mpr
    rintro rfl
    exact nonempty key ((map.find?_eq_some_iff key []).mpr member)

/-- Every key paired with each of its elements, in iteration order. -/
def pairs (map : OrderedMap κ (List α)) : List (κ × α) :=
  map.entries.flatMap fun entry => entry.2.map (Prod.mk entry.1)

theorem flatMap_emplaceEntry_nil (key : κ) (entries : List (κ × List α)) :
    ((emplaceEntry key [] entries).flatMap fun entry => entry.2.map (Prod.mk entry.1)) =
      entries.flatMap fun entry => entry.2.map (Prod.mk entry.1) := by
  induction entries with
  | nil => rfl
  | cons head rest ih =>
      rw [emplaceEntry]
      split_ifs with before same
      · rfl
      · rfl
      · rw [List.flatMap_cons, List.flatMap_cons, ih]

theorem grouped_append (first second : List (κ × α)) (key : κ) :
    grouped (first ++ second) key = grouped first key ++ grouped second key := by
  simp [grouped]

theorem grouped_map_mk (first key : κ) (elements : List α) :
    grouped (elements.map (Prod.mk first)) key = if first = key then elements else [] := by
  by_cases same : first = key <;> simp [grouped, List.filter_map, Function.comp_def, same]

theorem grouped_flatMap {entries : List (κ × List α)}
    (sorted : entries.Pairwise fun first second => first.1 < second.1) (key : κ) :
    grouped (entries.flatMap fun entry => entry.2.map (Prod.mk entry.1)) key =
      (lookupEntry key entries).getD [] := by
  induction entries with
  | nil => rfl
  | cons head rest ih =>
      obtain ⟨below, sortedRest⟩ := List.pairwise_cons.mp sorted
      rw [List.flatMap_cons, grouped_append, grouped_map_mk, ih sortedRest, lookupEntry]
      by_cases here : head.1 = key
      · have absent : lookupEntry key rest = none :=
          lookupEntry_eq_none_of_lt fun entry member => here ▸ below entry member
        rw [if_pos here, if_pos here, absent, Option.getD_none, List.append_nil, Option.getD_some]
      · rw [if_neg here, if_neg here, List.nil_append]

/-- Grouping the pairs of a map by key gives the map back. -/
theorem grouped_pairs (map : OrderedMap κ (List α)) (key : κ) :
    grouped map.pairs key = map.elements key :=
  grouped_flatMap map.sorted key

theorem NonemptyLists.appendAll_pairs {map : OrderedMap κ (List α)}
    (nonempty : map.NonemptyLists) : empty.appendAll map.pairs = map := by
  apply (nonemptyLists_empty.appendAll map.pairs).ext_elements nonempty
  intro key
  rw [elements_appendAll, elements_empty, List.nil_append, grouped_pairs]

/-- Extending the list of a present key adds one pair. -/
theorem flatMap_extend_perm {entries : List (κ × List α)}
    (sorted : entries.Pairwise fun first second => first.1 < second.1) {key : κ}
    (present : key ∈ entries.map Prod.fst) (element : α) :
    ((entries.map fun entry =>
        if entry.1 = key then (entry.1, entry.2 ++ [element]) else entry).flatMap
          fun entry => entry.2.map (Prod.mk entry.1)).Perm
      ((key, element) :: entries.flatMap fun entry => entry.2.map (Prod.mk entry.1)) := by
  induction entries with
  | nil => simp at present
  | cons head rest ih =>
      obtain ⟨below, sortedRest⟩ := List.pairwise_cons.mp sorted
      by_cases here : head.1 = key
      · have unchanged : (rest.map fun entry =>
            if entry.1 = key then (entry.1, entry.2 ++ [element]) else entry) = rest := by
          apply (List.map_congr_left _).trans (List.map_id rest)
          intro entry member
          rw [if_neg (ne_of_gt (here ▸ below entry member))]
          rfl
        rw [List.map_cons, if_pos here, unchanged, List.flatMap_cons, List.flatMap_cons,
          List.map_append, here]
        exact (List.perm_append_singleton _ _).append_right _
      · have later : key ∈ rest.map Prod.fst := by
          rcases List.mem_cons.mp present with equal | member
          · exact absurd equal.symm here
          · exact member
        rw [List.map_cons, if_neg here, List.flatMap_cons, List.flatMap_cons]
        exact ((ih sortedRest later).append_left _).trans List.perm_middle

/-- Appending adds one pair. -/
theorem pairs_append_perm (map : OrderedMap κ (List α)) (key : κ) (element : α) :
    (map.append key element).pairs.Perm ((key, element) :: map.pairs) := by
  have present : key ∈ (map.emplace key []).keys := by
    apply ((map.emplace key []).mem_keys_iff key).mpr
    exact ⟨_, by rw [find?_emplace, if_pos rfl]⟩
  apply (flatMap_extend_perm (map.emplace key []).sorted present element).trans
  exact List.Perm.of_eq (congrArg (List.cons _) (flatMap_emplaceEntry_nil key map.entries))

/-- The pairs of a grouped log are those of the log. -/
theorem pairs_appendAll_perm (map : OrderedMap κ (List α)) (log : List (κ × α)) :
    (map.appendAll log).pairs.Perm (map.pairs ++ log) := by
  induction log generalizing map with
  | nil => simp
  | cons entry log ih =>
      rw [appendAll_cons]
      apply (ih (map.append entry.1 entry.2)).trans
      exact ((map.pairs_append_perm entry.1 entry.2).append_right log).trans
        List.perm_middle.symm

end Append

end OrderedMap

end DescargaP2P.Collections
