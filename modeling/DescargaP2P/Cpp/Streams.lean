import DescargaP2P.Cpp.Strings
import Mathlib.Data.List.TakeWhile
import Mathlib.Tactic.SplitIfs

/-!
# Formatted extraction from input streams

`operator>>` of an input stream for strings and for unsigned integers, over the
bytes that are left in the stream.  An extraction that sets `failbit` is `none`:
every later extraction of the same expression then fails as well.
-/

namespace DescargaP2P.Cpp

open DescargaP2P.Text

/-- Extraction of a string: skip white space, then read up to white space. -/
def extractWord (stream : Bytes) : Option (Bytes × Bytes) :=
  let field := stream.dropWhile isSpace
  if field = [] then none
  else some (field.takeWhile (!isSpace ·), field.dropWhile (!isSpace ·))

/-- Extraction of an unsigned integer of the given width: skip white space, then
read an optional sign and a run of digits.  A magnitude out of range fails; a
negative number wraps. -/
def extractUnsigned (width : Nat) (stream : Bytes) : Option (Nat × Bytes) :=
  let (negative, magnitude) := takeSign (stream.dropWhile isSpace)
  let digits := magnitude.takeWhile isDigit
  let value := numValue digits
  if digits = [] ∨ 2 ^ width ≤ value then none
  else
    some (if negative then (2 ^ width - value) % 2 ^ width else value,
      magnitude.dropWhile isDigit)

/-- `std::getline` with a delimiter: the text before the next delimiter, which is
taken out of the stream and dropped.  It fails at the end of the stream. -/
def getline (delim : UInt8) (stream : Bytes) : Option (Bytes × Bytes) :=
  if stream = [] then none
  else some (stream.takeWhile (· != delim), (stream.dropWhile (· != delim)).tail)

/-- The texts of a loop over `std::getline`.  The fuel bounds their number. -/
def getlineLoop (delim : UInt8) : Nat → Bytes → List Bytes
  | 0, _ => []
  | fuel + 1, stream =>
      match getline delim stream with
      | none => []
      | some (line, rest) => line :: getlineLoop delim fuel rest

/-- All texts of a stream between its delimiters. -/
def getlines (delim : UInt8) (stream : Bytes) : List Bytes :=
  getlineLoop delim stream.length stream

/-- A word followed by white space is extracted whole. -/
theorem extractWord_append {word rest : Bytes} (nonempty : word ≠ [])
    (noSpace : ∀ byte ∈ word, isSpace byte = false)
    (ends : ∀ byte ∈ rest.head?, isSpace byte = true) :
    extractWord (word ++ rest) = some (word, rest) := by
  have skipped : (word ++ rest).dropWhile isSpace = word ++ rest := by
    cases word with
    | nil => exact absurd rfl nonempty
    | cons first others => simp [noSpace first List.mem_cons_self]
  have inside : ∀ byte ∈ word, (!isSpace byte) = true := by
    intro byte member
    simp [noSpace byte member]
  have outside : ∀ byte ∈ rest.head?, (!isSpace byte) = false := by
    intro byte member
    simp [ends byte member]
  simp only [extractWord, skipped]
  rw [if_neg (by simp [nonempty]), takeWhile_append_of_run inside outside,
    dropWhile_append_of_run inside outside]

/-- White space before a field is skipped. -/
theorem extractWord_cons_space {byte : UInt8} (space : isSpace byte = true) (stream : Bytes) :
    extractWord (byte :: stream) = extractWord stream := by
  simp [extractWord, space]

theorem extractUnsigned_cons_space {byte : UInt8} (space : isSpace byte = true) (width : Nat)
    (stream : Bytes) :
    extractUnsigned width (byte :: stream) = extractUnsigned width stream := by
  simp [extractUnsigned, space]

theorem extractWord_spaces_append {spaces : Bytes}
    (areSpaces : ∀ byte ∈ spaces, isSpace byte = true) (stream : Bytes) :
    extractWord (spaces ++ stream) = extractWord stream := by
  induction spaces with
  | nil => rfl
  | cons byte rest ih =>
      obtain ⟨space, restSpaces⟩ := List.forall_mem_cons.mp areSpaces
      rw [List.cons_append, extractWord_cons_space space, ih restSpaces]

theorem extractUnsigned_spaces_append {spaces : Bytes}
    (areSpaces : ∀ byte ∈ spaces, isSpace byte = true) (width : Nat) (stream : Bytes) :
    extractUnsigned width (spaces ++ stream) = extractUnsigned width stream := by
  induction spaces with
  | nil => rfl
  | cons byte rest ih =>
      obtain ⟨space, restSpaces⟩ := List.forall_mem_cons.mp areSpaces
      rw [List.cons_append, extractUnsigned_cons_space space, ih restSpaces]

/-- A run of digits that no digit follows is extracted whole if its value fits, and
fails otherwise. -/
theorem extractUnsigned_digits {width : Nat} {digits rest : Bytes} (nonempty : digits ≠ [])
    (areDigits : ∀ digit ∈ digits, isDigit digit = true)
    (ends : ∀ byte ∈ rest.head?, isDigit byte = false) :
    extractUnsigned width (digits ++ rest) =
      if numValue digits < 2 ^ width then some (numValue digits, rest) else none := by
  have headDigit : ∀ byte ∈ (digits ++ rest).head?, isDigit byte = true := by
    rw [List.head?_append_of_ne_nil _ nonempty]
    exact fun byte member => areDigits byte (List.mem_of_mem_head? member)
  have spaces : (digits ++ rest).dropWhile isSpace = digits ++ rest := by
    cases digits with
    | nil => exact absurd rfl nonempty
    | cons first others => simp [isSpace_of_isDigit (areDigits first List.mem_cons_self)]
  have run := takeWhile_append_of_run areDigits ends
  have dropped := dropWhile_append_of_run areDigits ends
  simp only [extractUnsigned, spaces, takeSign_of_isDigit headDigit, run, dropped, nonempty,
    false_or, Bool.false_eq_true, if_false]
  by_cases fits : numValue digits < 2 ^ width
  · rw [if_neg (Nat.not_le.mpr fits), if_pos fits]
  · rw [if_pos (Nat.not_lt.mp fits), if_neg fits]

/-- A decimal numeral of the width that no digit follows is extracted whole. -/
theorem extractUnsigned_decimal {width n : Nat} (small : n < 2 ^ width) {rest : Bytes}
    (ends : ∀ byte ∈ rest.head?, isDigit byte = false) :
    extractUnsigned width (decimal n ++ rest) = some (n, rest) := by
  rw [extractUnsigned_digits (decimal_ne_nil n) (fun _ member => isDigit_of_mem_decimal member)
    ends, numValue_decimal, if_pos small]

/-- No number is extracted from a text that starts with another field. -/
theorem extractUnsigned_of_head {width : Nat} {stream : Bytes}
    (other : ∀ byte ∈ stream.head?, isSpace byte = false ∧ isDigit byte = false ∧
      byte ≠ 43 ∧ byte ≠ 45) : extractUnsigned width stream = none := by
  cases stream with
  | nil => rfl
  | cons byte rest =>
      obtain ⟨notSpace, notDigit, notPlus, notMinus⟩ := other byte rfl
      simp [extractUnsigned, takeSign, notSpace, notDigit, notPlus, notMinus]

/-- An extracted number fits its width. -/
theorem extractUnsigned_lt {width value : Nat} {stream rest : Bytes}
    (extracted : extractUnsigned width stream = some (value, rest)) : value < 2 ^ width := by
  simp only [extractUnsigned] at extracted
  split_ifs at extracted with failed minus
  · rcases Prod.mk.inj (Option.some.inj extracted) with ⟨rfl, _⟩
    exact Nat.mod_lt _ (Nat.two_pow_pos width)
  · rcases Prod.mk.inj (Option.some.inj extracted) with ⟨rfl, _⟩
    exact Nat.not_le.mp fun large => failed (Or.inr large)

/-! ## Lines -/

/-- Fuel beyond the length of the stream does not change the loop. -/
theorem getlineLoop_eq_getlines {delim : UInt8} {fuel : Nat} {stream : Bytes}
    (enough : stream.length ≤ fuel) : getlineLoop delim fuel stream = getlines delim stream := by
  induction fuel using Nat.strong_induction_on generalizing stream with
  | _ fuel ih =>
      cases stream with
      | nil => cases fuel <;> rfl
      | cons first rest =>
          cases fuel with
          | zero => contradiction
          | succ fuel =>
              have shorter : (((first :: rest).dropWhile (· != delim)).tail).length ≤
                  rest.length := by
                have dropped := List.IsSuffix.length_le
                  (List.dropWhile_suffix (l := first :: rest) (· != delim))
                rw [List.length_tail]
                exact Nat.sub_le_of_le_add dropped
              have small : rest.length ≤ fuel := Nat.le_of_succ_le_succ enough
              simp only [getlines, List.length_cons, getlineLoop, getline, reduceCtorEq, if_false]
              rw [ih fuel (Nat.lt_succ_self fuel) (shorter.trans small),
                ih rest.length (Nat.lt_succ_of_le small) shorter]

/-- A text without the delimiter is one line. -/
theorem getlines_append {delim : UInt8} {line : Bytes} (clean : ∀ byte ∈ line, byte ≠ delim)
    (rest : Bytes) :
    getlines delim (line ++ delim :: rest) = line :: getlines delim rest := by
  have inside : ∀ byte ∈ line, (byte != delim) = true := by
    intro byte member
    exact bne_iff_ne.mpr (clean byte member)
  have outside : ∀ byte ∈ (delim :: rest).head?, (byte != delim) = false := by
    rintro byte ⟨⟩
    exact bne_self_eq_false delim
  have nonempty : line ++ delim :: rest ≠ [] := List.append_ne_nil_of_right_ne_nil _ (by simp)
  have one : getline delim (line ++ delim :: rest) = some (line, rest) := by
    rw [getline, if_neg nonempty, takeWhile_append_of_run inside outside,
      dropWhile_append_of_run inside outside, List.tail_cons]
  obtain ⟨size, lengthEq⟩ : ∃ size, (line ++ delim :: rest).length = size + 1 :=
    Nat.exists_eq_succ_of_ne_zero (mt List.length_eq_zero_iff.mp nonempty)
  have enough : rest.length ≤ size := by
    rw [List.length_append, List.length_cons] at lengthEq
    omega
  rw [getlines, lengthEq, getlineLoop, one]
  simp only [getlineLoop_eq_getlines enough]

theorem getlines_of_clean {delim : UInt8} {line : Bytes} (nonempty : line ≠ [])
    (clean : ∀ byte ∈ line, byte ≠ delim) : getlines delim line = [line] := by
  have inside : ∀ byte ∈ line, (byte != delim) = true := by
    intro byte member
    exact bne_iff_ne.mpr (clean byte member)
  have one : getline delim line = some (line, []) := by
    rw [getline, if_neg nonempty, List.takeWhile_eq_self_iff.mpr inside,
      List.dropWhile_eq_nil_iff.mpr inside, List.tail_nil]
  obtain ⟨size, lengthEq⟩ : ∃ size, line.length = size + 1 :=
    Nat.exists_eq_succ_of_ne_zero (mt List.length_eq_zero_iff.mp nonempty)
  rw [getlines, lengthEq, getlineLoop, one]
  cases size <;> rfl

/-- The lines are the pieces between delimiters, except that an empty last piece is not
read. -/
theorem splitOn_eq_getlines (delim : UInt8) (text : Bytes) :
    text.splitOn delim = getlines delim text ∨
      text.splitOn delim = getlines delim text ++ [[]] := by
  induction size : text.length using Nat.strong_induction_on generalizing text with
  | _ size ih =>
      by_cases inside : delim ∈ text
      · obtain ⟨line, rest, rfl, absent⟩ := List.eq_append_cons_of_mem inside
        have clean : ∀ byte ∈ line, byte ≠ delim := by
          rintro byte member rfl
          exact absent member
        rw [List.length_append, List.length_cons] at size
        rw [List.splitOn_append_cons_self_of_not_mem absent, getlines_append clean]
        rcases ih rest.length (by omega) rest rfl with same | empty
        · exact Or.inl (congrArg (line :: ·) same)
        · exact Or.inr (congrArg (line :: ·) empty)
      · rw [List.splitOn_eq_singleton inside]
        cases text with
        | nil => exact Or.inr rfl
        | cons first rest =>
            have clean : ∀ byte ∈ first :: rest, byte ≠ delim := by
              rintro byte member rfl
              exact inside member
            exact Or.inl (getlines_of_clean (List.cons_ne_nil first rest) clean).symm

/-! ## What an extraction consumes -/

/-- Weight of a byte: nothing for white space and one for a digit.  The sign of a
numeral outweighs the ten digits that its value can have after wrapping. -/
def byteWeight (byte : UInt8) : Nat :=
  if isSpace byte then 0 else if isDigit byte then 1 else 10

/-- Weight of a text. -/
def weight (text : Bytes) : Nat := (text.map byteWeight).sum

@[simp]
theorem weight_append (first second : Bytes) :
    weight (first ++ second) = weight first + weight second := by
  simp [weight]

theorem weight_cons (byte : UInt8) (rest : Bytes) :
    weight (byte :: rest) = byteWeight byte + weight rest := by
  simp [weight]

/-- Skipping a leading run loses its weight only. -/
theorem weight_dropWhile_isSpace (text : Bytes) :
    weight (text.dropWhile isSpace) = weight text := by
  induction text with
  | nil => rfl
  | cons byte rest ih =>
      by_cases space : isSpace byte = true
      · rw [List.dropWhile_cons_of_pos space, ih, weight_cons, byteWeight, if_pos space,
          Nat.zero_add]
      · rw [List.dropWhile_cons_of_neg space]

theorem weight_digits {digits : Bytes} (areDigits : ∀ digit ∈ digits, isDigit digit = true) :
    weight digits = digits.length := by
  induction digits with
  | nil => rfl
  | cons digit rest ih =>
      have isOne : byteWeight digit = 1 := by
        have digitIs := areDigits digit List.mem_cons_self
        simp [byteWeight, digitIs, isSpace_of_isDigit digitIs]
      have tail := ih fun other member => areDigits other (List.mem_cons_of_mem _ member)
      rw [weight_cons, isOne, tail, List.length_cons, Nat.add_comm]

/-- A word weighs at least its length. -/
theorem length_le_weight {word : Bytes} (noSpace : ∀ byte ∈ word, isSpace byte = false) :
    word.length ≤ weight word := by
  induction word with
  | nil => exact Nat.zero_le _
  | cons byte rest ih =>
      have atLeastOne : 1 ≤ byteWeight byte := by
        simp only [byteWeight, noSpace byte List.mem_cons_self, Bool.false_eq_true, if_false]
        split <;> decide
      have tail := ih fun other member => noSpace other (List.mem_cons_of_mem _ member)
      rw [weight_cons, List.length_cons]
      omega

theorem weight_takeSign (field : Bytes) :
    weight field = weight (takeSign field).2 ∨
      weight field = 10 + weight (takeSign field).2 := by
  cases field with
  | nil => exact Or.inl rfl
  | cons first rest =>
      simp only [takeSign]
      split_ifs with minus plus
      · right
        subst minus
        exact weight_cons 45 rest
      · right
        subst plus
        exact weight_cons 43 rest
      · exact Or.inl rfl

/-- A negative numeral has a sign. -/
theorem weight_takeSign_of_negative {field : Bytes} (negative : (takeSign field).1 = true) :
    weight field = 10 + weight (takeSign field).2 := by
  cases field with
  | nil => contradiction
  | cons first rest =>
      simp only [takeSign] at negative ⊢
      split_ifs at negative ⊢ with minus plus
      · subst minus
        exact weight_cons 45 rest

/-- An extracted word carries its weight with it. -/
theorem weight_of_extractWord {stream word rest : Bytes}
    (extracted : extractWord stream = some (word, rest)) :
    weight word + weight rest = weight stream := by
  simp only [extractWord] at extracted
  split_ifs at extracted with empty
  simp only [Option.some.injEq, Prod.mk.injEq] at extracted
  rcases extracted with ⟨rfl, rfl⟩
  rw [← weight_append, List.takeWhile_append_dropWhile, weight_dropWhile_isSpace]

/-- An extracted number is written with no more digits than the weight it
consumed. -/
theorem weight_of_extractUnsigned {width value : Nat} {stream rest : Bytes}
    (narrow : 2 ^ width ≤ 10 ^ 10)
    (extracted : extractUnsigned width stream = some (value, rest)) :
    (decimal value).length + weight rest ≤ weight stream := by
  rw [← weight_dropWhile_isSpace stream]
  simp only [extractUnsigned] at extracted
  generalize stream.dropWhile isSpace = field at extracted ⊢
  have signWeight := weight_takeSign field
  have negativeWeight : (takeSign field).1 = true →
      weight field = 10 + weight (takeSign field).2 := weight_takeSign_of_negative
  rcases signed : takeSign field with ⟨negative, magnitude⟩
  simp only [signed] at extracted signWeight negativeWeight
  have areDigits : ∀ digit ∈ magnitude.takeWhile isDigit, isDigit digit = true :=
    fun _ member => List.mem_takeWhile_imp member
  have cut : weight magnitude =
      (magnitude.takeWhile isDigit).length + weight (magnitude.dropWhile isDigit) := by
    rw [← weight_digits areDigits, ← weight_append, List.takeWhile_append_dropWhile]
  split_ifs at extracted with failed minus
  · rcases Prod.mk.inj (Option.some.inj extracted) with ⟨rfl, rfl⟩
    have wrapped : (decimal ((2 ^ width - numValue (magnitude.takeWhile isDigit)) %
        2 ^ width)).length ≤ 10 :=
      length_decimal_le (by decide)
        (Nat.lt_of_lt_of_le (Nat.mod_lt _ (Nat.two_pow_pos width)) narrow)
    have signed := negativeWeight minus
    omega
  · rcases Prod.mk.inj (Option.some.inj extracted) with ⟨rfl, rfl⟩
    have nonempty : magnitude.takeWhile isDigit ≠ [] := fun empty => failed (Or.inl empty)
    have canonical := length_decimal_numValue nonempty areDigits
    omega

end DescargaP2P.Cpp
