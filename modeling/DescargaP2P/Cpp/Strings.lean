import DescargaP2P.Text.Bytes
import DescargaP2P.Text.Search
import Mathlib.Data.List.TakeWhile
import Mathlib.Tactic.SplitIfs

/-!
# Strings of the C++ standard library

`std::string::find`, `std::string::substr` and `std::stoi`, with the exceptions
they throw, and the integer conversions of a 64-bit little-endian host.  Offsets
are `size_t` values: arithmetic on them wraps at `2 ^ 64`.
-/

namespace DescargaP2P.Cpp

open DescargaP2P.Text

/-- Standard exceptions thrown by the modelled library calls. -/
inductive Exception
  | invalidArgument
  | outOfRange
  deriving DecidableEq, Repr

/-! ## Searching and cutting -/

/-- `std::string::npos`. -/
def npos : Nat := 2 ^ 64 - 1

/-- `text.find(pattern, pos)`. -/
def find (text pattern : Bytes) (pos : Nat) : Nat :=
  if text.length < pos then npos
  else
    match findSub pattern (text.drop pos) with
    | none => npos
    | some offset => pos + offset

/-- Addition of offsets. -/
def sizeAdd (first second : Nat) : Nat := (first + second) % 2 ^ 64

/-- Subtraction of offsets. -/
def sizeSub (first second : Nat) : Nat := (first + 2 ^ 64 - second % 2 ^ 64) % 2 ^ 64

/-- `text.substr(pos, count)`. -/
def substr (text : Bytes) (pos count : Nat) : Except Exception Bytes :=
  if text.length < pos then .error .outOfRange else .ok ((text.drop pos).take count)

theorem find_eq_of_findSub {text pattern : Bytes} {pos offset : Nat}
    (inside : pos ≤ text.length) (found : findSub pattern (text.drop pos) = some offset) :
    find text pattern pos = pos + offset := by
  rw [find, if_neg (Nat.not_lt.mpr inside), found]

theorem sizeAdd_eq {first second : Nat} (small : first + second < 2 ^ 64) :
    sizeAdd first second = first + second :=
  Nat.mod_eq_of_lt small

theorem sizeSub_eq {first second : Nat} (below : second ≤ first) (small : first < 2 ^ 64) :
    sizeSub first second = first - second := by
  unfold sizeSub
  omega

/-! ## Reading integers -/

/-- Split off an optional sign; the flag says whether it is `-`. -/
def takeSign (field : Bytes) : Bool × Bytes :=
  match field with
  | [] => (false, [])
  | first :: rest =>
      if first = 45 then (true, rest)
      else if first = 43 then (false, rest)
      else (false, first :: rest)

/-- `std::stoi`: leading white space, an optional sign and a run of digits are
read, whatever follows is ignored. -/
def stoi (text : Bytes) : Except Exception Int :=
  let (negative, magnitude) := takeSign (text.dropWhile isSpace)
  let digits := magnitude.takeWhile isDigit
  if digits = [] then .error .invalidArgument
  else
    let value : Int := if negative then -(numValue digits) else numValue digits
    if value < -2 ^ 31 ∨ 2 ^ 31 ≤ value then .error .outOfRange else .ok value

theorem takeSign_of_isDigit {field : Bytes} (digit : ∀ byte ∈ field.head?, isDigit byte = true) :
    takeSign field = (false, field) := by
  cases field with
  | nil => rfl
  | cons first rest =>
      have bounds := (isDigit_eq_true_iff first).mp (digit first rfl)
      have notMinus : first ≠ 45 := by
        rintro rfl
        simp at bounds
      have notPlus : first ≠ 43 := by
        rintro rfl
        simp at bounds
      simp [takeSign, notMinus, notPlus]

theorem takeWhile_isDigit_decimal (n : Nat) (rest : Bytes)
    (ends : ∀ byte ∈ rest.head?, isDigit byte = false) :
    (decimal n ++ rest).takeWhile isDigit = decimal n :=
  takeWhile_append_of_run (fun _ member => isDigit_of_mem_decimal member) ends

/-- A run of digits in the range of `int` reads as its value. -/
theorem stoi_of_digits {digits : Bytes} (nonempty : digits ≠ [])
    (areDigits : ∀ digit ∈ digits, isDigit digit = true) (small : numValue digits < 2 ^ 31) :
    stoi digits = .ok (numValue digits : Int) := by
  have spaces : digits.dropWhile isSpace = digits := by
    cases digits with
    | nil => rfl
    | cons first rest =>
        simp [isSpace_of_isDigit (areDigits first List.mem_cons_self)]
  have sign : takeSign digits = (false, digits) :=
    takeSign_of_isDigit fun digit member => areDigits digit (List.mem_of_mem_head? member)
  have run : digits.takeWhile isDigit = digits := List.takeWhile_eq_self_iff.mpr areDigits
  have inRange : ¬ ((numValue digits : Int) < -2 ^ 31 ∨ 2 ^ 31 ≤ (numValue digits : Int)) := by
    omega
  simp only [stoi, spaces, sign, run, nonempty, if_false, Bool.false_eq_true, inRange]

theorem takeSign_append {field : Bytes} (nonempty : field ≠ []) (rest : Bytes) :
    takeSign (field ++ rest) = ((takeSign field).1, (takeSign field).2 ++ rest) := by
  cases field with
  | nil => exact absurd rfl nonempty
  | cons first others =>
      simp only [List.cons_append, takeSign]
      split_ifs <;> rfl

/-- What follows the number is ignored, unless it goes on with a digit. -/
theorem stoi_append {text rest : Bytes} {value : Int} (read : stoi text = .ok value)
    (ends : ∀ byte ∈ rest.head?, isDigit byte = false) : stoi (text ++ rest) = .ok value := by
  have nonempty : text.dropWhile isSpace ≠ [] := by
    intro empty
    simp only [stoi, empty, takeSign, List.takeWhile_nil, if_true] at read
    contradiction
  have spaces : (text ++ rest).dropWhile isSpace = text.dropWhile isSpace ++ rest := by
    rw [List.dropWhile_append, if_neg (by simpa using nonempty)]
  have noDigit : rest.takeWhile isDigit = [] := by
    cases rest with
    | nil => rfl
    | cons byte others => simp [ends byte rfl]
  have run : ((takeSign (text.dropWhile isSpace)).2 ++ rest).takeWhile isDigit =
      (takeSign (text.dropWhile isSpace)).2.takeWhile isDigit := by
    rw [List.takeWhile_append, noDigit, List.append_nil]
    split_ifs with all
    · exact (List.takeWhile_prefix isDigit).eq_of_length all |>.symm
    · rfl
  simp only [stoi, spaces, takeSign_append nonempty, run]
  exact read

/-- A decimal numeral in the range of `int` reads back. -/
theorem stoi_decimal {n : Nat} (small : n < 2 ^ 31) : stoi (decimal n) = .ok (n : Int) := by
  have read := stoi_of_digits (decimal_ne_nil n) (fun _ member => isDigit_of_mem_decimal member)
    (by rw [numValue_decimal]; exact small)
  rwa [numValue_decimal] at read

/-! ## Integer conversions -/

/-- Conversion of an `int` to `uint16_t`, modulo `2 ^ 16`. -/
def narrow16 (value : Int) : UInt16 := UInt16.ofNat (value % 2 ^ 16).toNat

theorem narrow16_ofNat {n : Nat} (small : n < 2 ^ 16) : narrow16 (n : Int) = UInt16.ofNat n := by
  have same : ((n : Int) % 2 ^ 16).toNat = n := by omega
  rw [narrow16, same]

@[simp]
theorem narrow16_natCast (port : UInt16) : narrow16 (port.toNat : Int) = port := by
  have small := port.toNat_lt
  apply UInt16.toNat_inj.mp
  rw [narrow16, UInt16.toNat_ofNat']
  omega

end DescargaP2P.Cpp
