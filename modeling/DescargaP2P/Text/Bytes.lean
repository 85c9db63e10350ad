import Mathlib.Data.List.Induction
import Mathlib.Data.List.Lex
import Mathlib.Data.Nat.Digits.Defs
import Mathlib.Data.Nat.Log
import Mathlib.Tactic.IntervalCases

/-!
# Byte strings and decimal numerals

Texts are lists of bytes, ordered as `std::string` orders them: lexicographically
by unsigned bytes.  The character classes are those of the "C" locale.

`decimal` writes a natural number without leading zeros and `numValue` reads a
run of digits; `numValue_decimal` and `length_decimal_numValue` relate the two.
-/

namespace DescargaP2P.Text

instance byteOrder : LinearOrder UInt8 where
  le_refl := UInt8.le_refl
  le_trans _ _ _ := UInt8.le_trans
  le_antisymm _ _ := UInt8.le_antisymm
  le_total := UInt8.le_total
  lt_iff_le_not_ge first second := by
    rw [UInt8.not_le]
    exact ⟨fun below => ⟨UInt8.le_of_lt below, below⟩, And.right⟩
  toDecidableLE := inferInstance
  toDecidableLT := inferInstance

/-- A byte string. -/
abbrev Bytes := List UInt8

/-- Bytes of an ASCII literal. -/
def ascii (literal : String) : Bytes :=
  literal.toList.map fun character => UInt8.ofNat character.toNat

/-- `isspace` in the "C" locale: tab, line feed, vertical tab, form feed,
carriage return and space. -/
def isSpace (byte : UInt8) : Bool := (9 ≤ byte && byte ≤ 13) || byte == 32

/-- `isdigit` in the "C" locale. -/
def isDigit (byte : UInt8) : Bool := 48 ≤ byte && byte ≤ 57

theorem isDigit_eq_true_iff (byte : UInt8) :
    isDigit byte = true ↔ 48 ≤ byte.toNat ∧ byte.toNat ≤ 57 := by
  simp only [isDigit, Bool.and_eq_true, decide_eq_true_eq, UInt8.le_iff_toNat_le]
  rfl

theorem isSpace_eq_true_iff (byte : UInt8) :
    isSpace byte = true ↔ (9 ≤ byte.toNat ∧ byte.toNat ≤ 13) ∨ byte.toNat = 32 := by
  simp only [isSpace, Bool.or_eq_true, Bool.and_eq_true, decide_eq_true_eq, beq_iff_eq,
    UInt8.le_iff_toNat_le, ← UInt8.toNat_inj]
  rfl

theorem isSpace_of_isDigit {byte : UInt8} (digit : isDigit byte = true) :
    isSpace byte = false := by
  rw [isDigit_eq_true_iff] at digit
  rw [← Bool.not_eq_true, isSpace_eq_true_iff]
  omega

/-! ## Leading runs -/

/-- A run of bytes of a class ends where a byte outside the class follows. -/
theorem takeWhile_append_of_run {p : UInt8 → Bool} {run rest : Bytes}
    (inside : ∀ byte ∈ run, p byte = true)
    (ends : ∀ byte ∈ rest.head?, p byte = false) :
    (run ++ rest).takeWhile p = run := by
  rw [List.takeWhile_append_of_pos inside]
  cases rest with
  | nil => simp
  | cons byte rest => simp [ends byte rfl]

theorem dropWhile_append_of_run {p : UInt8 → Bool} {run rest : Bytes}
    (inside : ∀ byte ∈ run, p byte = true)
    (ends : ∀ byte ∈ rest.head?, p byte = false) :
    (run ++ rest).dropWhile p = rest := by
  rw [List.dropWhile_append_of_pos inside]
  cases rest with
  | nil => rfl
  | cons byte rest => simp [ends byte rfl]

/-! ## Decimal numerals -/

/-- Value of a run of digits. -/
def numValue (digits : Bytes) : Nat :=
  digits.foldl (fun value digit => 10 * value + (digit.toNat - 48)) 0

/-- Decimal numeral without leading zeros, as written by `std::to_string`. -/
def decimal (n : Nat) : Bytes :=
  (Nat.toDigits 10 n).map fun character => UInt8.ofNat character.toNat

theorem ofNat_digitChar {digit : Nat} (small : digit < 10) :
    UInt8.ofNat (Nat.digitChar digit).toNat = UInt8.ofNat (48 + digit) := by
  interval_cases digit <;> rfl

/-- The last digit comes off the end. -/
theorem decimal_eq (n : Nat) :
    decimal n = (if n < 10 then [] else decimal (n / 10)) ++ [UInt8.ofNat (48 + n % 10)] := by
  unfold decimal
  rw [Nat.toDigits_eq_if (by omega)]
  split
  · rename_i small
    simp [ofNat_digitChar small, Nat.mod_eq_of_lt small]
  · simp [ofNat_digitChar (Nat.mod_lt n (by omega))]

theorem toNat_digit {digit : Nat} (small : digit < 10) :
    (UInt8.ofNat (48 + digit)).toNat = 48 + digit := by
  rw [UInt8.toNat_ofNat']
  omega

theorem decimal_ne_nil (n : Nat) : decimal n ≠ [] := by
  rw [decimal_eq]
  simp

theorem isDigit_of_mem_decimal {n : Nat} {byte : UInt8} (member : byte ∈ decimal n) :
    isDigit byte = true := by
  induction n using Nat.strong_induction_on with
  | _ n ih =>
      rw [decimal_eq, List.mem_append, List.mem_singleton] at member
      rcases member with front | rfl
      · split at front
        · simp at front
        · exact ih (n / 10) (by omega) front
      · rw [isDigit_eq_true_iff, toNat_digit (Nat.mod_lt n (by omega))]
        omega

theorem numValue_concat (digits : Bytes) (digit : UInt8) :
    numValue (digits ++ [digit]) = 10 * numValue digits + (digit.toNat - 48) := by
  simp [numValue]

@[simp]
theorem numValue_decimal (n : Nat) : numValue (decimal n) = n := by
  induction n using Nat.strong_induction_on with
  | _ n ih =>
      rw [decimal_eq, numValue_concat, toNat_digit (Nat.mod_lt n (by omega))]
      split
      · simp only [numValue, List.foldl_nil]
        omega
      · rw [ih (n / 10) (by omega)]
        omega

/-- A numeral below `10 ^ k` has at most `k` digits. -/
theorem length_decimal_le {n k : Nat} (positive : 1 ≤ k) (bound : n < 10 ^ k) :
    (decimal n).length ≤ k := by
  rw [decimal, List.length_map]
  exact (Nat.length_toDigits_le_iff (by omega) positive).mpr bound

/-- Number of digits of a numeral. -/
theorem length_decimal (n : Nat) : (decimal n).length = Nat.log 10 n + 1 := by
  have positive : 1 ≤ (decimal n).length := List.length_pos_iff.mpr (decimal_ne_nil n)
  apply Nat.le_antisymm
  · exact length_decimal_le (Nat.le_add_left 1 _) (Nat.lt_pow_succ_log_self (by decide) n)
  · have bound : n < 10 ^ (decimal n).length := by
      rw [decimal, List.length_map] at positive ⊢
      exact (Nat.length_toDigits_le_iff (by decide) positive).mp (Nat.le_refl _)
    cases n with
    | zero => simpa using positive
    | succ n => exact Nat.log_lt_of_lt_pow (Nat.succ_ne_zero n) bound

theorem numValue_lt {digits : Bytes} (areDigits : ∀ digit ∈ digits, isDigit digit = true) :
    numValue digits < 10 ^ digits.length := by
  induction digits using List.reverseRecOn with
  | nil => simp [numValue]
  | append_singleton front last ih =>
      have lastDigit := (isDigit_eq_true_iff last).mp (areDigits last (by simp))
      have frontBound := ih fun digit member => areDigits digit (by simp [member])
      rw [numValue_concat, List.length_append, List.length_singleton, pow_succ]
      omega

/-- The canonical numeral of a value is no longer than any run of digits with
that value. -/
theorem length_decimal_numValue {digits : Bytes} (nonempty : digits ≠ [])
    (areDigits : ∀ digit ∈ digits, isDigit digit = true) :
    (decimal (numValue digits)).length ≤ digits.length :=
  length_decimal_le (List.length_pos_iff.mpr nonempty) (numValue_lt areDigits)

end DescargaP2P.Text
