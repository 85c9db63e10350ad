import DescargaP2P.Paths.Core
import DescargaP2P.Text.Bytes
import Mathlib.Data.List.TakeWhile

/-!
# File names out of a URL

`sanitize_filename` goes through a path from the front.  At the front and behind every
separator it looks for a device name or `..`, and it replaces the characters that a file
name must not have.  What it leaves has neither, so it names a file in the directory it
is put behind, and a path that was like this already is not changed.
-/

namespace DescargaP2P.Crow

open DescargaP2P.Paths
open DescargaP2P.Text

/-! ## The loop -/

/-- `replacement`. -/
def replacement : UInt8 := 95

/-- `toUpper`. -/
def toUpper (c : UInt8) : UInt8 := if 97 ≤ c ∧ c ≤ 122 then c - 32 else c

/-- `/` and `\`. -/
def isSeparator (c : UInt8) : Bool := c == 47 || c == 92

/-- The characters that are replaced wherever they stand. -/
def isForbidden (c : UInt8) : Bool :=
  c < 32 || (0x80 ≤ c && c ≤ 0x9F) || (ascii "?<>:*|\"").contains c

/-- The patterns of `sanitizeSpecialFile`, and whether a digit from 1 to 9 follows. -/
def specialFiles : List (Bytes × Bool) :=
  [(ascii "AUX", false), (ascii "CON", false), (ascii "COM", true), (ascii "LPT", true),
    (ascii "NUL", false), (ascii "PRN", false), (ascii "..", false)]

/-- What is left behind a pattern, if the text begins with it. -/
def afterPattern : Bytes → Bytes → Option Bytes
  | [], source => some source
  | _ :: _, [] => none
  | p :: pattern, c :: source => if toUpper c = p then afterPattern pattern source else none

/-- What is left behind the number. -/
def afterNumber (includeNumber : Bool) (source : Bytes) : Option Bytes :=
  if includeNumber then
    match source with
    | [] => none
    | c :: rest => if c < 49 ∨ 57 < c then none else some rest
  else some source

/-- A special name ends with the text or in front of one of these. -/
def endsSpecial (source : Bytes) : Bool :=
  match source with
  | [] => true
  | c :: _ => c == 46 || c == 58 || isSeparator c

/-- What is left behind a special name at the front. -/
def afterSpecial (special : Bytes × Bool) (source : Bytes) : Option Bytes :=
  ((afterPattern special.1 source).bind (afterNumber special.2)).filter endsSpecial

/-- The number of characters of a special name at the front.  The first characters of
the patterns are different, but for two that exclude each other, so the order in which
they are tried does not matter. -/
def specialLength (source : Bytes) : Option Nat :=
  (specialFiles.findSome? fun special => afterSpecial special source).map
    fun rest => source.length - rest.length

/-- The loop from index `i`, with `skip` characters that have been erased, whether `i`
is 0, and `checkForSpecialEntries`. -/
def sanitizeFrom : Nat → Bool → Bool → Bytes → Bytes
  | _, _, _, [] => []
  | skip + 1, first, check, _ :: rest => sanitizeFrom skip first check rest
  | 0, first, check, c :: rest =>
      match if check then specialLength (c :: rest) else none with
      | some length => replacement :: sanitizeFrom (length - 1) false false rest
      | none =>
          if isForbidden c then replacement :: sanitizeFrom 0 false false rest
          else if isSeparator c then
            if first then replacement :: sanitizeFrom 0 false false rest
            else c :: sanitizeFrom 0 false true rest
          else c :: sanitizeFrom 0 false false rest

/-- `sanitize_filename`. -/
def sanitizeFilename (data : Bytes) : Bytes := sanitizeFrom 0 true true (data.take 255)

example : sanitizeFilename (ascii "/../com1.txt/..\\con/...") = ascii "_../_.txt/_\\_/_." := by
  decide

/-! ## Safe paths -/

/-- The names between separators. -/
def components (data : Bytes) : List Bytes := data.splitOnP isSeparator

/-- A component that some system does not take for a file. -/
def Special (component : Bytes) : Prop := specialLength component ≠ none

instance (component : Bytes) : Decidable (Special component) :=
  inferInstanceAs (Decidable (specialLength component ≠ none))

/-- A path that can be put behind a directory. -/
structure Safe (data : Bytes) : Prop where
  short : data.length ≤ 255
  allowed : ∀ c ∈ data, isForbidden c = false
  relative : ∀ c ∈ data.head?, isSeparator c = false
  plain : ∀ component ∈ components data, ¬ Special component

/-! ## Single characters -/

/-- A character as it is left inside a component. -/
def clean (c : UInt8) : UInt8 := if isForbidden c then replacement else c

theorem forall_byte_iff {P : UInt8 → Prop} :
    (∀ n < 256, P (UInt8.ofNat n)) ↔ ∀ c, P c := by
  constructor
  · intro all c
    have own := all c.toNat c.toNat_lt
    rwa [UInt8.ofNat_toNat] at own
  · exact fun all n _ => all (UInt8.ofNat n)

theorem eq_of_isSeparator {c : UInt8} (separator : isSeparator c = true) : c = 47 ∨ c = 92 := by
  simpa [isSeparator] using separator

theorem isForbidden_of_isSeparator (c : UInt8) (separator : isSeparator c = true) :
    isForbidden c = false := by
  rcases eq_of_isSeparator separator with rfl | rfl <;> rfl

theorem toUpper_of_isSeparator (c : UInt8) (separator : isSeparator c = true) : toUpper c = c := by
  rcases eq_of_isSeparator separator with rfl | rfl <;> rfl

theorem noDigit_of_isSeparator (c : UInt8) (separator : isSeparator c = true) :
    c < 49 ∨ 57 < c := by
  rcases eq_of_isSeparator separator with rfl | rfl <;> decide

/-- A character that is replaced is neither a letter nor a digit. -/
theorem noLetter_of_isForbidden :
    ∀ c, isForbidden c = true → toUpper c = c ∧ (c < 49 ∨ 57 < c) :=
  forall_byte_iff.mp (by decide +kernel)

theorem isSeparator_clean (c : UInt8) : isSeparator (clean c) = isSeparator c := by
  unfold clean
  split
  · rename_i forbidden
    have noSeparator : isSeparator c = false := by
      by_contra separator
      rw [isForbidden_of_isSeparator c (by simpa using separator)] at forbidden
      cases forbidden
    rw [noSeparator]
    rfl
  · rfl

theorem clean_eq_self {c : UInt8} (allowed : isForbidden c = false) : clean c = c := by
  rw [clean, allowed]
  rfl

/-- Letters, digits and dots are neither replaced nor made. -/
theorem toUpper_clean_eq_iff {p : UInt8} (plain : p ≠ replacement ∧ isForbidden p = false)
    (c : UInt8) : toUpper (clean c) = p ↔ toUpper c = p := by
  unfold clean
  split
  · rename_i forbidden
    rw [(noLetter_of_isForbidden c forbidden).1]
    constructor
    · rintro rfl
      exact absurd rfl plain.1
    · rintro rfl
      rw [plain.2] at forbidden
      cases forbidden
  · rfl

theorem clean_digit_iff (c : UInt8) :
    (clean c < 49 ∨ 57 < clean c) ↔ (c < 49 ∨ 57 < c) := by
  unfold clean
  split
  · rename_i forbidden
    have noDigit : replacement < 49 ∨ 57 < replacement := by decide
    exact iff_of_true noDigit (noLetter_of_isForbidden c forbidden).2
  · rfl

theorem endsSpecial_clean (c : UInt8)
    (ends : (clean c == 46 || clean c == 58 || isSeparator (clean c)) = true) :
    (c == 46 || c == 58 || isSeparator c) = true := by
  unfold clean at ends
  split at ends
  · cases ends
  · exact ends

/-! ## Special names -/

/-- What comes behind a component: nothing, or a separator. -/
def Separated (after : Bytes) : Prop := ∀ c ∈ after.head?, isSeparator c = true

/-- The pattern has no separator and no character that is replaced. -/
theorem plain_of_mem {special : Bytes × Bool} (listed : special ∈ specialFiles) :
    special.1 ≠ [] ∧ special.1.head? ≠ some replacement ∧
      ∀ p ∈ special.1, isSeparator p = false ∧ p ≠ replacement ∧ isForbidden p = false := by
  have all : ∀ special ∈ specialFiles, special.1 ≠ [] ∧ special.1.head? ≠ some replacement ∧
      ∀ p ∈ special.1, isSeparator p = false ∧ p ≠ replacement ∧ isForbidden p = false := by
    simp [specialFiles, ascii, replacement, isSeparator, isForbidden]
  exact all special listed

theorem afterPattern_append {pattern after : Bytes} (separated : Separated after)
    (plain : ∀ p ∈ pattern, isSeparator p = false) (component : Bytes) :
    afterPattern pattern (component ++ after) =
      (afterPattern pattern component).map (· ++ after) := by
  induction pattern generalizing component with
  | nil => rfl
  | cons p pattern ih =>
      cases component with
      | nil =>
          cases after with
          | nil => rfl
          | cons c after =>
              have separator := separated c rfl
              have different : toUpper c ≠ p := by
                rw [toUpper_of_isSeparator c separator]
                rintro rfl
                rw [plain c List.mem_cons_self] at separator
                cases separator
              simp [afterPattern, different]
      | cons c component =>
          rw [List.cons_append, afterPattern, afterPattern]
          split
          · exact ih (fun p member => plain p (List.mem_cons_of_mem _ member)) component
          · rfl

theorem afterNumber_append {after : Bytes} (separated : Separated after) (includeNumber : Bool)
    (component : Bytes) :
    afterNumber includeNumber (component ++ after) =
      (afterNumber includeNumber component).map (· ++ after) := by
  cases includeNumber with
  | false => rfl
  | true =>
      cases component with
      | nil =>
          cases after with
          | nil => rfl
          | cons c after =>
              have noDigit := noDigit_of_isSeparator c (separated c rfl)
              simp [afterNumber, noDigit]
      | cons c component =>
          by_cases noDigit : c < 49 ∨ 57 < c <;> simp [afterNumber, noDigit]

theorem endsSpecial_append {after : Bytes} (separated : Separated after) (component : Bytes) :
    endsSpecial (component ++ after) = endsSpecial component := by
  cases component with
  | cons c component => rfl
  | nil =>
      cases after with
      | nil => rfl
      | cons c after => simp [endsSpecial, separated c rfl]

/-- Whether a name is special is decided by its component. -/
theorem afterSpecial_append {after : Bytes} (separated : Separated after) {special : Bytes × Bool}
    (listed : special ∈ specialFiles) (component : Bytes) :
    afterSpecial special (component ++ after) =
      (afterSpecial special component).map (· ++ after) := by
  have plain := (plain_of_mem listed).2.2
  rw [afterSpecial, afterSpecial,
    afterPattern_append separated (fun p member => (plain p member).1)]
  cases afterPattern special.1 component with
  | none => rfl
  | some rest =>
      simp only [Option.map_some, Option.bind_some, afterNumber_append separated]
      cases afterNumber special.2 rest with
      | none => rfl
      | some rest =>
          simp only [Option.map_some, Option.filter_some, endsSpecial_append separated]
          split <;> rfl

theorem findSome?_map_of_forall {α β γ : Type*} {f : α → Option β} {g : α → Option γ}
    {image : γ → β} {items : List α} (same : ∀ item ∈ items, f item = (g item).map image) :
    items.findSome? f = (items.findSome? g).map image := by
  induction items with
  | nil => rfl
  | cons item rest ih =>
      rw [List.findSome?_cons, List.findSome?_cons, same item List.mem_cons_self,
        ih fun other member => same other (List.mem_cons_of_mem _ member)]
      cases g item <;> rfl

theorem specialLength_append {after : Bytes} (separated : Separated after) (component : Bytes) :
    specialLength (component ++ after) = specialLength component := by
  rw [specialLength, specialLength,
    findSome?_map_of_forall fun special listed => afterSpecial_append separated listed component,
    Option.map_map]
  congr 1
  funext rest
  simp only [Function.comp_apply, List.length_append]
  omega

/-! ## Components that have been gone through -/

theorem specialLength_eq_none_iff {source : Bytes} :
    specialLength source = none ↔ ∀ special ∈ specialFiles, afterSpecial special source = none := by
  rw [specialLength, Option.map_eq_none_iff, List.findSome?_eq_none_iff]

theorem length_afterPattern {pattern source rest : Bytes}
    (found : afterPattern pattern source = some rest) :
    source.length = pattern.length + rest.length := by
  induction pattern generalizing source with
  | nil =>
      rw [afterPattern, Option.some.injEq] at found
      rw [found, List.length_nil, Nat.zero_add]
  | cons p pattern ih =>
      cases source with
      | nil => cases found
      | cons c source =>
          rw [afterPattern] at found
          split at found
          · rw [List.length_cons, List.length_cons, ih found]
            omega
          · cases found

/-- A special name has a character and lies within the text. -/
theorem specialLength_pos {source : Bytes} {length : Nat}
    (found : specialLength source = some length) : 0 < length ∧ length ≤ source.length := by
  obtain ⟨rest, special, rfl⟩ := Option.map_eq_some_iff.mp found
  obtain ⟨name, listed, its⟩ := List.exists_of_findSome?_eq_some special
  obtain ⟨middle, pattern, number⟩ :=
    Option.bind_eq_some_iff.mp (Option.filter_eq_some_iff.mp its).1
  have shorter : rest.length ≤ middle.length := by
    unfold afterNumber at number
    split at number
    · split at number
      · cases number
      · split at number
        · cases number
        · obtain rfl := Option.some.inj number
          exact Nat.le_succ _
    · obtain rfl := Option.some.inj number
      exact Nat.le_refl _
  have whole := length_afterPattern pattern
  have longer := List.length_pos_iff.mpr (plain_of_mem listed).1
  omega

/-- Nothing special begins with the replacement. -/
theorem specialLength_replacement (rest : Bytes) : specialLength (replacement :: rest) = none := by
  rw [specialLength_eq_none_iff]
  intro special listed
  obtain ⟨some_, first, _⟩ := plain_of_mem listed
  rcases special with ⟨_ | ⟨p, pattern⟩, number⟩
  · exact absurd rfl some_
  · have different : toUpper replacement ≠ p := by
      rintro rfl
      exact first rfl
    simp [afterSpecial, afterPattern, different]

theorem afterPattern_clean {pattern : Bytes}
    (plain : ∀ p ∈ pattern, p ≠ replacement ∧ isForbidden p = false) (source : Bytes) :
    afterPattern pattern (source.map clean) = (afterPattern pattern source).map (·.map clean) := by
  induction pattern generalizing source with
  | nil => rfl
  | cons p pattern ih =>
      cases source with
      | nil => rfl
      | cons c source =>
          have same := toUpper_clean_eq_iff (plain p List.mem_cons_self) c
          rw [List.map_cons, afterPattern, afterPattern]
          by_cases here : toUpper c = p
          · rw [if_pos here, if_pos (same.mpr here)]
            exact ih (fun p member => plain p (List.mem_cons_of_mem _ member)) source
          · rw [if_neg here, if_neg (mt same.mp here)]
            rfl

theorem afterNumber_clean (includeNumber : Bool) (source : Bytes) :
    afterNumber includeNumber (source.map clean) =
      (afterNumber includeNumber source).map (·.map clean) := by
  cases includeNumber with
  | false => rfl
  | true =>
      cases source with
      | nil => rfl
      | cons c source =>
          have same := clean_digit_iff c
          by_cases noDigit : c < 49 ∨ 57 < c
          · simp [afterNumber, noDigit, same.mpr noDigit]
          · simp [afterNumber, noDigit, mt same.mp noDigit]

/-- Replacing characters makes no name special. -/
theorem specialLength_clean {component : Bytes} (plain : specialLength component = none) :
    specialLength (component.map clean) = none := by
  rw [specialLength_eq_none_iff] at plain ⊢
  intro special listed
  have own := plain special listed
  have letters := (plain_of_mem listed).2.2
  rw [afterSpecial, Option.filter_eq_none_iff] at own ⊢
  rw [afterPattern_clean fun p member => (letters p member).2]
  cases pattern : afterPattern special.1 component with
  | none => exact nofun
  | some middle =>
      rw [pattern, Option.bind_some] at own
      rw [Option.map_some, Option.bind_some, afterNumber_clean]
      intro rest found ends
      obtain ⟨before, number, rfl⟩ := Option.map_eq_some_iff.mp found
      apply own before number
      cases before with
      | nil => rfl
      | cons c before => exact endsSpecial_clean c ends

/-- What is left of a component. -/
def sanitizeComponent (component : Bytes) : Bytes :=
  match specialLength component with
  | some length => replacement :: (component.drop length).map clean
  | none => component.map clean

theorem not_special_sanitizeComponent (component : Bytes) :
    ¬ Special (sanitizeComponent component) := by
  unfold Special sanitizeComponent
  rw [not_not]
  split
  · exact specialLength_replacement _
  · rename_i plain
    exact specialLength_clean plain

/-- The loop goes on behind a component. -/
def continued : Bytes → Bytes
  | [] => []
  | c :: rest => c :: sanitizeFrom 0 false true rest

theorem sanitizeFrom_skip (skip : Nat) (first check : Bool) (text : Bytes) :
    sanitizeFrom skip first check text = sanitizeFrom 0 first check (text.drop skip) := by
  induction skip generalizing text with
  | zero => rfl
  | succ skip ih =>
      cases text with
      | nil => simp [sanitizeFrom]
      | cons c text => exact ih text

/-- Inside a component characters are replaced one by one. -/
theorem sanitizeFrom_inside {component after : Bytes}
    (inside : ∀ c ∈ component, isSeparator c = false) (separated : Separated after) :
    sanitizeFrom 0 false false (component ++ after) = component.map clean ++ continued after := by
  induction component with
  | nil =>
      cases after with
      | nil => rfl
      | cons c after =>
          have separator := separated c rfl
          have allowed := isForbidden_of_isSeparator c separator
          simp [sanitizeFrom, continued, separator, allowed]
  | cons c component ih =>
      have later := ih fun other member => inside other (List.mem_cons_of_mem _ member)
      have noSeparator := inside c List.mem_cons_self
      rw [List.cons_append, sanitizeFrom]
      by_cases forbidden : isForbidden c = true
      · simp [forbidden, later, clean]
      · simp [forbidden, noSeparator, later, clean]

/-- The loop from the front of a component. -/
theorem sanitizeFrom_component {component after : Bytes} (first : Bool)
    (inside : ∀ c ∈ component, isSeparator c = false) (separated : Separated after)
    (some_ : first = true → component ≠ []) :
    sanitizeFrom 0 first true (component ++ after) =
      sanitizeComponent component ++ continued after := by
  have decided := specialLength_append separated component
  cases component with
  | nil =>
      have notFirst : first = false := by
        rw [← Bool.not_eq_true]
        exact fun first => some_ first rfl
      subst notFirst
      cases after with
      | nil => rfl
      | cons c after =>
          have separator := separated c rfl
          have allowed := isForbidden_of_isSeparator c separator
          have plain : specialLength (c :: after) = none := decided
          simp [sanitizeFrom, continued, separator, allowed, plain, sanitizeComponent,
            show specialLength [] = none from rfl]
  | cons c component =>
      rw [List.cons_append] at decided ⊢
      rw [sanitizeFrom, if_pos rfl, decided, sanitizeComponent]
      cases found : specialLength (c :: component) with
      | some length =>
          obtain ⟨positive, within⟩ := specialLength_pos found
          obtain ⟨length, rfl⟩ := Nat.exists_eq_add_of_lt positive
          rw [List.length_cons] at within
          have drops : (component ++ after).drop length = component.drop length ++ after :=
            List.drop_append_of_le_length (by omega)
          simp only [Nat.zero_add, Nat.add_sub_cancel, List.drop_succ_cons]
          rw [sanitizeFrom_skip, drops, sanitizeFrom_inside _ separated, List.cons_append]
          exact fun other member =>
            inside other (List.mem_cons_of_mem _ (List.mem_of_mem_drop member))
      | none =>
          have later := sanitizeFrom_inside
            (fun other member => inside other (List.mem_cons_of_mem _ member)) separated
          have noSeparator := inside c List.mem_cons_self
          by_cases forbidden : isForbidden c = true
          · simp [forbidden, later, clean]
          · simp [forbidden, noSeparator, later, clean]

/-! ## The path that is left -/

theorem sanitizeFrom_allowed (skip : Nat) (first check : Bool) (text : Bytes) :
    ∀ c ∈ sanitizeFrom skip first check text, isForbidden c = false := by
  have replaced : isForbidden replacement = false := by decide
  induction text generalizing skip first check with
  | nil => simp [sanitizeFrom]
  | cons c text ih =>
      cases skip with
      | succ skip => exact ih skip first check
      | zero =>
          have head : ∀ {left d skip first check}, isForbidden left = false →
              d ∈ left :: sanitizeFrom skip first check text → isForbidden d = false := by
            intro left d skip first check allowed member
            rcases List.mem_cons.mp member with rfl | later
            · exact allowed
            · exact ih _ _ _ d later
          intro d member
          rw [sanitizeFrom] at member
          split at member
          · exact head replaced member
          · split at member
            · exact head replaced member
            · rename_i allowed
              have kept : isForbidden c = false := by simpa using allowed
              split at member
              · split at member
                · exact head replaced member
                · exact head kept member
              · exact head kept member

theorem length_sanitizeFrom_le (skip : Nat) (first check : Bool) (text : Bytes) :
    (sanitizeFrom skip first check text).length ≤ text.length := by
  induction text generalizing skip first check with
  | nil => simp [sanitizeFrom]
  | cons c text ih =>
      cases skip with
      | succ skip => exact (ih skip first check).trans (Nat.le_succ _)
      | zero =>
          have head : ∀ left skip first check,
              (left :: sanitizeFrom skip first check text).length ≤ (c :: text).length :=
            fun left skip first check => Nat.succ_le_succ (ih skip first check)
          rw [sanitizeFrom]
          split
          · exact head _ _ _ _
          · split
            · exact head _ _ _ _
            · split
              · split <;> exact head _ _ _ _
              · exact head _ _ _ _

/-- A text is a component and what comes behind it. -/
theorem exists_component (text : Bytes) :
    ∃ component after, text = component ++ after ∧
      (∀ c ∈ component, isSeparator c = false) ∧ Separated after := by
  refine ⟨text.takeWhile fun c => !isSeparator c, text.dropWhile fun c => !isSeparator c,
    List.takeWhile_append_dropWhile.symm, ?_, ?_⟩
  · intro c member
    simpa using List.mem_takeWhile_imp member
  · intro c head
    have stops := List.head?_dropWhile_not (fun c => !isSeparator c) text
    rw [Option.mem_def.mp head] at stops
    simpa using stops

theorem components_of_inside {component : Bytes}
    (inside : ∀ c ∈ component, isSeparator c = false) : components component = [component] :=
  List.splitOnP_eq_singleton inside

theorem components_append_cons {component : Bytes}
    (inside : ∀ c ∈ component, isSeparator c = false) {c : UInt8} (separator : isSeparator c = true)
    (rest : Bytes) : components (component ++ c :: rest) = component :: components rest :=
  List.splitOnP_append_cons_of_forall_mem inside c separator rest

/-- Behind a component the same holds of what is left of the rest. -/
theorem plain_append_continued {component after : Bytes}
    (inside : ∀ c ∈ component, isSeparator c = false) (plain : ¬ Special component)
    (separated : Separated after)
    (later : ∀ c rest, after = c :: rest →
      ∀ name ∈ components (sanitizeFrom 0 false true rest), ¬ Special name) :
    ∀ name ∈ components (component ++ continued after), ¬ Special name := by
  cases after with
  | nil =>
      rw [continued, List.append_nil, components_of_inside inside]
      simpa using plain
  | cons c rest =>
      rw [continued, components_append_cons inside (separated c rfl)]
      intro name member
      rcases List.mem_cons.mp member with rfl | behind
      · exact plain
      · exact later c rest rfl name behind

theorem inside_clean {component : Bytes} (inside : ∀ c ∈ component, isSeparator c = false) :
    ∀ c ∈ component.map clean, isSeparator c = false := by
  intro c member
  obtain ⟨original, there, rfl⟩ := List.mem_map.mp member
  rw [isSeparator_clean]
  exact inside original there

theorem inside_replacement {rest : Bytes} (inside : ∀ c ∈ rest, isSeparator c = false) :
    ∀ c ∈ replacement :: rest, isSeparator c = false := by
  intro c member
  rcases List.mem_cons.mp member with rfl | later
  · decide
  · exact inside c later

theorem inside_sanitizeComponent {component : Bytes}
    (inside : ∀ c ∈ component, isSeparator c = false) :
    ∀ c ∈ sanitizeComponent component, isSeparator c = false := by
  unfold sanitizeComponent
  split
  · exact inside_replacement
      (inside_clean fun c member => inside c (List.mem_of_mem_drop member))
  · exact inside_clean inside

/-- No component behind a separator is special. -/
theorem plain_sanitizeFrom (text : Bytes) :
    ∀ name ∈ components (sanitizeFrom 0 false true text), ¬ Special name := by
  induction length : text.length using Nat.strong_induction_on generalizing text with
  | _ number ih =>
      obtain ⟨component, after, rfl, inside, separated⟩ := exists_component text
      rw [sanitizeFrom_component false inside separated nofun]
      refine plain_append_continued (inside_sanitizeComponent inside)
        (not_special_sanitizeComponent component) separated ?_
      rintro c rest rfl
      refine ih _ ?_ rest rfl
      rw [← length, List.length_append, List.length_cons]
      omega

/-- Nor is one of the whole path. -/
theorem plain_sanitizeFrom_first (text : Bytes) :
    ∀ name ∈ components (sanitizeFrom 0 true true text), ¬ Special name := by
  obtain ⟨component, after, rfl, inside, separated⟩ := exists_component text
  cases component with
  | cons c component =>
      rw [sanitizeFrom_component true inside separated (fun _ => List.cons_ne_nil _ _)]
      exact plain_append_continued (inside_sanitizeComponent inside)
        (not_special_sanitizeComponent _) separated fun _ rest _ => plain_sanitizeFrom rest
  | nil =>
      cases after with
      | nil =>
          have empty : ∀ name ∈ components [], ¬ Special name := by decide
          exact empty
      | cons c rest =>
          have separator := separated c rfl
          have plainHere : specialLength (c :: rest) = none :=
            specialLength_append separated []
          obtain ⟨next, behind, rfl, nextInside, nextSeparated⟩ := exists_component rest
          have out : sanitizeFrom 0 true true (c :: (next ++ behind)) =
              (replacement :: next.map clean) ++ continued behind := by
            simp [sanitizeFrom, plainHere, separator, isForbidden_of_isSeparator c separator,
              sanitizeFrom_inside nextInside nextSeparated]
          rw [List.nil_append, out]
          refine plain_append_continued (inside_replacement (inside_clean nextInside)) ?_
            nextSeparated fun _ rest _ => plain_sanitizeFrom rest
          exact not_not.mpr (specialLength_replacement _)

/-- A path that is safe is not changed. -/
theorem sanitizeFrom_of_plain {first : Bool} {text : Bytes}
    (allowed : ∀ c ∈ text, isForbidden c = false)
    (relative : first = true → ∀ c ∈ text.head?, isSeparator c = false)
    (plain : ∀ name ∈ components text, ¬ Special name) : sanitizeFrom 0 first true text = text := by
  induction length : text.length using Nat.strong_induction_on generalizing first text with
  | _ number ih =>
      obtain ⟨component, after, rfl, inside, separated⟩ := exists_component text
      have unchanged : component.map clean = component := by
        have each := List.map_congr_left fun c member =>
          clean_eq_self (allowed c (List.mem_append_left after member))
        rw [each, List.map_id']
      by_cases empty : component = [] ∧ after = []
      · obtain ⟨rfl, rfl⟩ := empty
        rfl
      · have some_ : first = true → component ≠ [] := by
          rintro isFirst rfl
          cases after with
          | nil => exact empty ⟨rfl, rfl⟩
          | cons c rest => exact absurd (relative isFirst c rfl) (by rw [separated c rfl]; decide)
        rw [sanitizeFrom_component first inside separated some_]
        cases after with
        | nil =>
            rw [List.append_nil, components_of_inside inside] at plain
            have own := not_not.mp (plain component List.mem_cons_self)
            rw [sanitizeComponent, own, unchanged, continued]
        | cons c rest =>
            rw [components_append_cons inside (separated c rfl)] at plain
            have own := not_not.mp (plain component List.mem_cons_self)
            have behind : sanitizeFrom 0 false true rest = rest := by
              refine ih _ ?_ ?_ nofun ?_ rfl
              · rw [← length, List.length_append, List.length_cons]
                omega
              · exact fun d member =>
                  allowed d (List.mem_append_right _ (List.mem_cons_of_mem _ member))
              · exact fun name member => plain name (List.mem_cons_of_mem _ member)
            rw [sanitizeComponent, own, unchanged, continued, behind]

theorem head_sanitizeFrom (text : Bytes) :
    ∀ c ∈ (sanitizeFrom 0 true true text).head?, isSeparator c = false := by
  have replaced : isSeparator replacement = false := by decide
  cases text with
  | nil => exact nofun
  | cons c text =>
      rw [sanitizeFrom]
      split
      · rintro _ ⟨⟩
        exact replaced
      · split
        · rintro _ ⟨⟩
          exact replaced
        · split
          · rintro _ ⟨⟩
            exact replaced
          · rename_i noSeparator
            rintro _ ⟨⟩
            simpa using noSeparator

theorem safe_sanitizeFilename (data : Bytes) : Safe (sanitizeFilename data) where
  short := (length_sanitizeFrom_le _ _ _ _).trans (List.length_take_le _ _)
  allowed := sanitizeFrom_allowed _ _ _ _
  relative := head_sanitizeFrom _
  plain := plain_sanitizeFrom_first _

/-- What is left of any path is safe, and exactly the safe paths stay as they are. -/
theorem sanitizeFilename_spec (data : Bytes) :
    Safe (sanitizeFilename data) ∧ (sanitizeFilename data = data ↔ Safe data) := by
  refine ⟨safe_sanitizeFilename data, ?_, ?_⟩
  · intro same
    rw [← same]
    exact safe_sanitizeFilename data
  · intro safe
    rw [sanitizeFilename, List.take_of_length_le safe.short]
    exact sanitizeFrom_of_plain safe.allowed (fun _ => safe.relative) safe.plain

/-! ## The file that is opened -/

/-- The name that leads up. -/
def parent : Bytes := ascii ".."

/-- The names that lead nowhere: `.` and the empty one. -/
def stays (name : Bytes) : Bool := name == [] || name == ascii "."

/-- Where a path leads from the working directory, if no name is a link. -/
def resolve (directory : List Bytes) (path : Bytes) : List Bytes :=
  if path.head? = some 47 then walk parent stays [] (path.splitOnP (· == 47))
  else walk parent stays directory (path.splitOnP (· == 47))

/-- `CROW_STATIC_DIRECTORY`. -/
def CROW_STATIC_DIRECTORY : Bytes := ascii "static/"

/-- A safe path has no name that leads up. -/
theorem Safe.parent_not_mem {data : Bytes} (safe : Safe data) :
    parent ∉ data.splitOnP (· == 47) := by
  intro member
  have special : Special parent := by decide
  have finer : ∀ c : UInt8, (c == 47) = true → isSeparator c = true := by
    intro c slash
    rw [isSeparator, slash, Bool.true_or]
  have clean : ∀ c ∈ parent, isSeparator c = false := by simp [parent, ascii, isSeparator]
  exact safe.plain parent (mem_splitOnP_of_finer finer member clean) special

/-- Whatever follows `/static/`, the file that is opened lies in the static directory. -/
theorem static_file_inside (directory : List Bytes) (filePathPartial : Bytes) :
    directory ++ [ascii "static"] <+:
      resolve directory (CROW_STATIC_DIRECTORY ++ sanitizeFilename filePathPartial) := by
  have cut : (CROW_STATIC_DIRECTORY ++ sanitizeFilename filePathPartial).splitOnP (· == 47) =
      ascii "static" :: (sanitizeFilename filePathPartial).splitOnP (· == 47) := by
    have whole : CROW_STATIC_DIRECTORY ++ sanitizeFilename filePathPartial =
        ascii "static" ++ 47 :: sanitizeFilename filePathPartial := rfl
    rw [whole]
    exact List.splitOnP_append_cons_of_forall_mem (by simp [ascii]) 47 rfl _
  have down : step parent stays directory (ascii "static") = directory ++ [ascii "static"] := by
    rw [step, if_neg (by decide), if_neg (by decide)]
  rw [resolve, if_neg (by simp [CROW_STATIC_DIRECTORY, ascii]), cut, walk, List.foldl_cons, down]
  exact prefix_walk parent stays (safe_sanitizeFilename filePathPartial).parent_not_mem _

end DescargaP2P.Crow
