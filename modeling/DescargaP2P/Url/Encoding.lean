import DescargaP2P.Text.Bytes
import Mathlib.Tactic.SplitIfs

/-!
# Percent encoding

An encoding leaves the bytes of a safe set as they are and writes any other byte as
`%` and two hexadecimal digits.  It changes a text exactly when the text has a byte
outside the set, and then it puts a `%` into it.
-/

namespace DescargaP2P.Url

open DescargaP2P.Text

/-- ASCII letters and digits. -/
def isAlnum (byte : UInt8) : Bool :=
  isDigit byte || (65 ≤ byte && byte ≤ 90) || (97 ≤ byte && byte ≤ 122)

/-- The bytes an encoding leaves as they are: letters, digits and `-` at least, and
printable ones without `%` and `/` at most. -/
structure SafeSet where
  keeps : UInt8 → Bool
  alnum : ∀ byte, isAlnum byte = true → keeps byte = true
  hyphen : keeps 45 = true
  printable : ∀ byte, keeps byte = true → 33 ≤ byte.toNat ∧ byte.toNat ≤ 126
  escape : keeps 37 = false
  slash : keeps 47 = false

/-- Uppercase hexadecimal digit. -/
def hexDigit (value : Nat) : UInt8 := UInt8.ofNat (if value < 10 then 48 + value else 55 + value)

/-- The code of one byte. -/
def percentByte (byte : UInt8) : Bytes :=
  [37, hexDigit (byte.toNat / 16), hexDigit (byte.toNat % 16)]

def encodeByte (safe : SafeSet) (byte : UInt8) : Bytes :=
  if safe.keeps byte then [byte] else percentByte byte

/-- Encode the bytes outside a safe set. -/
def encode (safe : SafeSet) (text : Bytes) : Bytes := text.flatMap (encodeByte safe)

theorem isAlnum_eq_true_iff (byte : UInt8) :
    isAlnum byte = true ↔ (48 ≤ byte.toNat ∧ byte.toNat ≤ 57) ∨
      (65 ≤ byte.toNat ∧ byte.toNat ≤ 90) ∨ 97 ≤ byte.toNat ∧ byte.toNat ≤ 122 := by
  simp only [isAlnum, Bool.or_eq_true, isDigit_eq_true_iff, Bool.and_eq_true, decide_eq_true_eq,
    UInt8.le_iff_toNat_le, or_assoc]
  rfl

theorem isAlnum_hexDigit {value : Nat} (small : value < 16) : isAlnum (hexDigit value) = true := by
  rw [isAlnum_eq_true_iff, hexDigit, UInt8.toNat_ofNat']
  split <;> omega

theorem isAlnum_of_isDigit {byte : UInt8} (digit : isDigit byte = true) : isAlnum byte = true := by
  rw [isAlnum, digit]
  rfl

@[simp]
theorem encode_nil (safe : SafeSet) : encode safe [] = [] := rfl

@[simp]
theorem encode_cons (safe : SafeSet) (byte : UInt8) (rest : Bytes) :
    encode safe (byte :: rest) = encodeByte safe byte ++ encode safe rest := rfl

theorem encodeByte_of_keeps {safe : SafeSet} {byte : UInt8} (kept : safe.keeps byte = true) :
    encodeByte safe byte = [byte] := by
  rw [encodeByte, if_pos kept]

theorem encodeByte_of_not_keeps {safe : SafeSet} {byte : UInt8}
    (changed : safe.keeps byte = false) : encodeByte safe byte = percentByte byte := by
  rw [encodeByte, if_neg (by rw [changed]; exact Bool.false_ne_true)]

/-- An encoded text has safe bytes and `%` only. -/
theorem eq_or_keeps_of_mem_encode {safe : SafeSet} {text : Bytes} {byte : UInt8}
    (member : byte ∈ encode safe text) : byte = 37 ∨ safe.keeps byte = true := by
  obtain ⟨source, _, inCode⟩ := List.mem_flatMap.mp member
  cases kept : safe.keeps source with
  | true =>
      rw [encodeByte_of_keeps kept, List.mem_singleton] at inCode
      rw [inCode]
      exact Or.inr kept
  | false =>
      have small := source.toNat_lt
      rw [encodeByte_of_not_keeps kept] at inCode
      simp only [percentByte, List.mem_cons, List.not_mem_nil, or_false] at inCode
      rcases inCode with rfl | rfl | rfl
      · exact Or.inl rfl
      · exact Or.inr (safe.alnum _ (isAlnum_hexDigit (by omega)))
      · exact Or.inr (safe.alnum _ (isAlnum_hexDigit (Nat.mod_lt _ (by omega))))

/-- A byte outside the set and different from `%` does not occur in an encoded text. -/
theorem ne_of_mem_encode {safe : SafeSet} {text : Bytes} {byte other : UInt8}
    (member : byte ∈ encode safe text) (notEscape : other ≠ 37)
    (outside : safe.keeps other = false) : byte ≠ other := by
  rintro rfl
  rcases eq_or_keeps_of_mem_encode member with escape | kept
  · exact notEscape escape
  · rw [outside] at kept
    contradiction

theorem printable_of_mem_encode {safe : SafeSet} {text : Bytes} {byte : UInt8}
    (member : byte ∈ encode safe text) : 33 ≤ byte.toNat ∧ byte.toNat ≤ 126 := by
  rcases eq_or_keeps_of_mem_encode member with rfl | kept
  · exact ⟨by decide, by decide⟩
  · exact safe.printable byte kept

theorem isSpace_of_mem_encode {safe : SafeSet} {text : Bytes} {byte : UInt8}
    (member : byte ∈ encode safe text) : isSpace byte = false := by
  have bounds := printable_of_mem_encode member
  rw [← Bool.not_eq_true, isSpace_eq_true_iff]
  omega

theorem encode_eq_self {safe : SafeSet} {text : Bytes}
    (kept : ∀ byte ∈ text, safe.keeps byte = true) : encode safe text = text := by
  induction text with
  | nil => rfl
  | cons byte rest ih =>
      obtain ⟨first, others⟩ := List.forall_mem_cons.mp kept
      rw [encode_cons, encodeByte_of_keeps first, ih others, List.singleton_append]

theorem escape_mem_encode {safe : SafeSet} {text : Bytes}
    (changed : ¬ ∀ byte ∈ text, safe.keeps byte = true) : (37 : UInt8) ∈ encode safe text := by
  simp only [not_forall, Bool.not_eq_true] at changed
  obtain ⟨byte, member, outside⟩ := changed
  apply List.mem_flatMap.mpr
  refine ⟨byte, member, ?_⟩
  rw [encodeByte_of_not_keeps outside]
  exact List.mem_cons_self

theorem length_le_length_encode (safe : SafeSet) (text : Bytes) :
    text.length ≤ (encode safe text).length := by
  induction text with
  | nil => exact Nat.zero_le _
  | cons byte rest ih =>
      have code : 1 ≤ (encodeByte safe byte).length := by
        rw [encodeByte]
        split_ifs
        · exact Nat.le_refl 1
        · exact Nat.succ_le_succ (Nat.zero_le 2)
      rw [encode_cons, List.length_append, List.length_cons, Nat.add_comm]
      exact Nat.add_le_add code ih

/-- An encoding changes the texts with a byte outside its safe set. -/
theorem encode_eq_self_iff {safe : SafeSet} {text : Bytes} :
    encode safe text = text ↔ ∀ byte ∈ text, safe.keeps byte = true := by
  constructor
  · intro same
    induction text with
    | nil => exact fun byte member => absurd member List.not_mem_nil
    | cons byte rest ih =>
        cases kept : safe.keeps byte with
        | true =>
            rw [encode_cons, encodeByte_of_keeps kept, List.singleton_append] at same
            exact List.forall_mem_cons.mpr ⟨kept, ih (List.cons_eq_cons.mp same).2⟩
        | false =>
            have longer := congrArg List.length same
            have restLength := length_le_length_encode safe rest
            rw [encode_cons, encodeByte_of_not_keeps kept, List.length_append] at longer
            simp only [percentByte, List.length_cons, List.length_nil] at longer
            omega
  · exact encode_eq_self

theorem encode_ne_nil {safe : SafeSet} {text : Bytes} (nonempty : text ≠ []) :
    encode safe text ≠ [] := by
  cases text with
  | nil => contradiction
  | cons byte rest =>
      rw [encode_cons, encodeByte]
      split_ifs <;> exact List.cons_ne_nil _ _

/-- The leading digits stay where they are. -/
theorem takeWhile_isDigit_encode (safe : SafeSet) (text : Bytes) :
    (encode safe text).takeWhile isDigit = text.takeWhile isDigit := by
  induction text with
  | nil => rfl
  | cons byte rest ih =>
      cases digit : isDigit byte with
      | true =>
          have kept := safe.alnum byte (isAlnum_of_isDigit digit)
          rw [encode_cons, encodeByte_of_keeps kept, List.singleton_append,
            List.takeWhile_cons_of_pos digit, List.takeWhile_cons_of_pos digit, ih]
      | false =>
          have notDigit : ¬ isDigit byte = true := Bool.eq_false_iff.mp digit
          rw [List.takeWhile_cons_of_neg notDigit, encode_cons, encodeByte]
          split_ifs
          · exact List.takeWhile_cons_of_neg notDigit
          · exact List.takeWhile_cons_of_neg (by decide)

/-! ## Encodings in use -/

/-- The safe set with letters, digits and some marks. -/
def SafeSet.ofMarks (marks : Bytes) (hyphen : (45 : UInt8) ∈ marks)
    (printable : ∀ byte ∈ marks, 33 ≤ byte.toNat ∧ byte.toNat ≤ 126)
    (escape : (37 : UInt8) ∉ marks) (slash : (47 : UInt8) ∉ marks) : SafeSet where
  keeps byte := isAlnum byte || marks.contains byte
  alnum byte alnum := by rw [alnum, Bool.true_or]
  hyphen := by simp [hyphen]
  printable byte kept := by
    rcases Bool.or_eq_true_iff.mp kept with alnum | mark
    · rw [isAlnum_eq_true_iff] at alnum
      omega
    · exact printable byte (List.contains_iff_mem.mp mark)
  escape := by
    have notAlnum : isAlnum 37 = false := rfl
    simp [notAlnum, escape]
  slash := by
    have notAlnum : isAlnum 47 = false := rfl
    simp [notAlnum, slash]

/-- `application/x-www-form-urlencoded`: the marks are `*`, `-`, `.` and `_`. -/
def formSafe : SafeSet :=
  SafeSet.ofMarks [42, 45, 46, 95] (by decide) (by simp) (by decide) (by decide)

/-- The unreserved characters of an address: the marks are `-`, `.`, `_` and `~`. -/
def unreserved : SafeSet :=
  SafeSet.ofMarks [45, 46, 95, 126] (by decide) (by simp) (by decide) (by decide)

/-- The encoding of a form field: a space becomes `+`. -/
def formEncode (text : Bytes) : Bytes :=
  text.flatMap fun byte => if byte = 32 then [43] else encodeByte formSafe byte

theorem formEncode_eq {text : Bytes} (noSpace : ∀ byte ∈ text, byte ≠ 32) :
    formEncode text = encode formSafe text := by
  induction text with
  | nil => rfl
  | cons byte rest ih =>
      obtain ⟨first, others⟩ := List.forall_mem_cons.mp noSpace
      have tail := ih others
      rw [formEncode] at tail ⊢
      rw [List.flatMap_cons, if_neg first, tail, encode_cons]

/-- The body of a form: its fields in order, joined by `&`. -/
def formBody : List (Bytes × Bytes) → Bytes
  | [] => []
  | [(key, value)] => formEncode key ++ ascii "=" ++ formEncode value
  | (key, value) :: rest =>
      formEncode key ++ ascii "=" ++ formEncode value ++ ascii "&" ++ formBody rest

end DescargaP2P.Url
