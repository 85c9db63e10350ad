import DescargaP2P.Cpp.Strings

/-!
# Internet addresses of the C library

`inet_addr`, `inet_ntoa`, `htons` and `ntohs` on a little-endian host.  An
address is the 32-bit word whose bytes in memory are those of the dotted quad.

`inet_addr` reads one to four numbers separated by dots, each decimal, octal
after a leading `0` or hexadecimal after a leading `0x`; the last number fills
the remaining bytes, and white space may end the text.
-/

namespace DescargaP2P.Cpp

open DescargaP2P.Text

/-! ## Byte order -/

/-- `htons`. -/
def htons (value : UInt16) : UInt16 :=
  UInt16.ofNat (value.toNat % 256 * 256 + value.toNat / 256)

/-- `ntohs`. -/
def ntohs (value : UInt16) : UInt16 :=
  UInt16.ofNat (value.toNat % 256 * 256 + value.toNat / 256)

@[simp]
theorem ntohs_htons (value : UInt16) : ntohs (htons value) = value := by
  have small := value.toNat_lt
  have stored : (htons value).toNat = value.toNat % 256 * 256 + value.toNat / 256 := by
    rw [htons, UInt16.toNat_ofNat']
    omega
  have highBound : value.toNat / 256 < 256 := by omega
  have lowBound : value.toNat % 256 < 256 := Nat.mod_lt _ (by omega)
  have lowByte : (htons value).toNat % 256 = value.toNat / 256 := by
    rw [stored, Nat.mul_add_mod_of_lt highBound]
  have highByte : (htons value).toNat / 256 = value.toNat % 256 := by
    rw [stored]
    omega
  apply UInt16.toNat_inj.mp
  rw [ntohs, UInt16.toNat_ofNat', lowByte, highByte]
  omega

/-- Value of bytes in memory order. -/
def littleEndian : List Nat → Nat
  | [] => 0
  | byte :: rest => byte + 256 * littleEndian rest

/-- The given number of bytes of a value, most significant first. -/
def bigEndian : Nat → Nat → List Nat
  | 0, _ => []
  | count + 1, value => value / 256 ^ count % 256 :: bigEndian count value

/-! ## Reading -/

/-- `INADDR_NONE`, the error value of `inet_addr`. -/
def INADDR_NONE : UInt32 := 0xffffffff

/-- Text of a string up to its first NUL, as `c_str` hands it to the C library. -/
def cString (text : Bytes) : Bytes := text.takeWhile (· != 0)

/-- Value of a hexadecimal digit, `none` for another byte. -/
def hexDigit? (byte : UInt8) : Option Nat :=
  if isDigit byte then some (byte.toNat - 48)
  else if 97 ≤ byte ∧ byte ≤ 102 then some (byte.toNat - 87)
  else if 65 ≤ byte ∧ byte ≤ 70 then some (byte.toNat - 55)
  else none

/-- `isxdigit`. -/
def isHexDigit (byte : UInt8) : Bool := (hexDigit? byte).isSome

/-- Value of a run of digits in a radix. -/
def radixValue (radix : Nat) (digits : Bytes) : Nat :=
  digits.foldl (fun value digit => radix * value + (hexDigit? digit).getD 0) 0

/-- `strtoul` with base 0 on a text that starts with a digit: the value and the
text after it. -/
def strtoul (field : Bytes) : Nat × Bytes :=
  if field.head? = some 48 then
    let hex := field.drop 2
    if (field.tail.head? = some 120 ∨ field.tail.head? = some 88) ∧
        hex.head?.any isHexDigit then
      (radixValue 16 (hex.takeWhile isHexDigit), hex.dropWhile isHexDigit)
    else
      let isOctDigit := fun byte : UInt8 => 48 ≤ byte && byte ≤ 55
      (radixValue 8 (field.takeWhile isOctDigit), field.dropWhile isOctDigit)
  else
    (numValue (field.takeWhile isDigit), field.dropWhile isDigit)

/-- The loop of `inet_aton` over the numbers of the text.  `left` counts the dots
that may still follow and `stored` holds the bytes read so far. -/
def inetParts (left : Nat) (stored : List Nat) (text : Bytes) : Option Nat :=
  if text.head?.any isDigit then
    let (value, rest) := strtoul text
    if 0xffffffff < value then none
    else if rest.head? = some 46 then
      match left with
      | 0 => none
      | left + 1 =>
          if 255 < value then none else inetParts left (stored ++ [value]) rest.tail
    else if rest.head?.all isSpace then
      if 256 ^ (4 - stored.length) ≤ value then none
      else some (littleEndian (stored ++ bigEndian (4 - stored.length) value))
    else none
  else none

/-- `inet_addr`. -/
def inetAddr (text : Bytes) : UInt32 :=
  match inetParts 3 [] (cString text) with
  | some word => UInt32.ofNat word
  | none => INADDR_NONE

/-! ## What a readable address is made of -/

/-- The bytes of numbers and dots. -/
def isInetByte (byte : UInt8) : Bool := isHexDigit byte || byte == 120 || byte == 88 || byte == 46

theorem isHexDigit_of_isDigit {byte : UInt8} (digit : isDigit byte = true) :
    isHexDigit byte = true := by
  rw [isHexDigit, hexDigit?, if_pos digit]
  rfl

theorem isInetByte_of_isHexDigit {byte : UInt8} (digit : isHexDigit byte = true) :
    isInetByte byte = true := by
  simp only [isInetByte, digit, Bool.true_or]

/-- A run of a class of digits and the text after it. -/
theorem run_cut {p : UInt8 → Bool} (digits : ∀ byte, p byte = true → isInetByte byte = true)
    (field : Bytes) :
    ∃ used, field = used ++ field.dropWhile p ∧ ∀ byte ∈ used, isInetByte byte = true :=
  ⟨field.takeWhile p, List.takeWhile_append_dropWhile.symm,
    fun byte member => digits byte (List.mem_takeWhile_imp member)⟩

/-- `strtoul` takes digits and the mark of a radix. -/
theorem strtoul_cut (field : Bytes) :
    ∃ used, field = used ++ (strtoul field).2 ∧ ∀ byte ∈ used, isInetByte byte = true := by
  unfold strtoul
  split
  · rename_i zero
    dsimp only
    split
    · rename_i hex
      obtain ⟨mark, rest, rfl, isMark⟩ :
          ∃ mark rest, field = 48 :: mark :: rest ∧ (mark = 120 ∨ mark = 88) := by
        rcases field with _ | ⟨first, _ | ⟨mark, rest⟩⟩
        · cases zero
        · exact absurd hex.2 Bool.false_ne_true
        · refine ⟨mark, rest, ?_, ?_⟩
          · rw [Option.some.inj zero]
          · simpa using hex.1
      obtain ⟨used, cut, inside⟩ := run_cut (fun _ => isInetByte_of_isHexDigit) rest
      refine ⟨48 :: mark :: used, ?_, ?_⟩
      · rw [List.cons_append, List.cons_append]
        exact congrArg (fun tail => 48 :: mark :: tail) cut
      · intro byte member
        rcases List.mem_cons.mp member with rfl | member
        · rfl
        · rcases List.mem_cons.mp member with rfl | member
          · rcases isMark with rfl | rfl <;> rfl
          · exact inside byte member
    · apply run_cut
      intro byte octal
      simp only [Bool.and_eq_true, decide_eq_true_eq] at octal
      have digit : isDigit byte = true := by
        rw [isDigit_eq_true_iff]
        have low := UInt8.le_iff_toNat_le.mp octal.1
        have high := UInt8.le_iff_toNat_le.mp octal.2
        exact ⟨low, high.trans (by decide)⟩
      exact isInetByte_of_isHexDigit (isHexDigit_of_isDigit digit)
  · exact run_cut (fun _ digit => isInetByte_of_isHexDigit (isHexDigit_of_isDigit digit)) field

/-- A text without white space is read as an address only if it is made of numbers
and dots. -/
theorem isInetByte_of_inetParts {left : Nat} {stored : List Nat} {text : Bytes} {word : Nat}
    (read : inetParts left stored text = some word)
    (noSpace : ∀ byte ∈ text, isSpace byte = false) :
    ∀ byte ∈ text, isInetByte byte = true := by
  -- The loop ends at the end of the text, as no white space follows the last number.
  have ended : ∀ {text used rest : Bytes}, text = used ++ rest →
      (∀ byte ∈ used, isInetByte byte = true) → (∀ byte ∈ text, isSpace byte = false) →
      rest.head?.all isSpace = true → ∀ byte ∈ text, isInetByte byte = true := by
    rintro _ used rest rfl inside noSpace space
    cases rest with
    | nil => rwa [List.append_nil]
    | cons first rest =>
        have notSpace := noSpace first (List.mem_append_right _ List.mem_cons_self)
        rw [List.head?_cons, Option.all_some, notSpace] at space
        contradiction
  induction left generalizing stored text with
  | zero =>
      obtain ⟨used, cut, inside⟩ := strtoul_cut text
      rw [inetParts] at read
      rcases parsed : strtoul text with ⟨value, rest⟩
      simp only [parsed] at read cut
      split_ifs at read with digit large dotted space
      exact ended cut inside noSpace space
  | succ left ih =>
      obtain ⟨used, cut, inside⟩ := strtoul_cut text
      rw [inetParts] at read
      rcases parsed : strtoul text with ⟨value, rest⟩
      simp only [parsed] at read cut
      split_ifs at read with digit large dotted byteSize space
      · obtain ⟨first, others, rfl⟩ := List.exists_cons_of_ne_nil
          (fun empty : rest = [] => by rw [empty] at dotted; cases dotted)
        rw [List.tail_cons] at read
        have later := ih read fun byte member => noSpace byte (by simp [cut, member])
        rw [cut]
        intro byte member
        rcases List.mem_append.mp member with front | back
        · exact inside byte front
        · rcases List.mem_cons.mp back with rfl | back
          · rw [Option.some.inj dotted]
            rfl
          · exact later byte back
      · exact ended cut inside noSpace space

/-- A text without white space and with some other byte is no address. -/
theorem inetAddr_eq_none {text : Bytes} (noSpace : ∀ byte ∈ text, isSpace byte = false)
    (noNul : ∀ byte ∈ text, byte ≠ 0) {other : UInt8} (member : other ∈ text)
    (outside : isInetByte other = false) : inetAddr text = INADDR_NONE := by
  have whole : cString text = text := by
    apply List.takeWhile_eq_self_iff.mpr
    intro byte inText
    exact bne_iff_ne.mpr (noNul byte inText)
  rw [inetAddr, whole]
  cases read : inetParts 3 [] text with
  | none => rfl
  | some word =>
      have inside := isInetByte_of_inetParts read noSpace other member
      rw [outside] at inside
      contradiction

/-! ## Writing -/

/-- Canonical dotted quad. -/
def dottedQuad (a b c d : UInt8) : Bytes :=
  decimal a.toNat ++ ascii "." ++ (decimal b.toNat ++ ascii "." ++
    (decimal c.toNat ++ ascii "." ++ decimal d.toNat))

/-- Byte of an address at a position in memory. -/
def addressByte (address : UInt32) (position : Nat) : UInt8 :=
  UInt8.ofNat (address.toNat / 256 ^ position)

/-- `inet_ntoa`. -/
def inetNtoa (address : UInt32) : Bytes :=
  dottedQuad (addressByte address 0) (addressByte address 1) (addressByte address 2)
    (addressByte address 3)

/-! ## Canonical dotted quads -/

theorem head?_decimal_ne_zero {n : Nat} (positive : 0 < n) :
    (decimal n).head? ≠ some 48 := by
  induction n using Nat.strong_induction_on with
  | _ n ih =>
      rw [decimal_eq]
      split
      · rename_i small
        intro leading
        have value := congrArg UInt8.toNat (Option.some.inj leading)
        rw [toNat_digit (Nat.mod_lt n (by omega))] at value
        simp at value
        omega
      · rw [List.head?_append_of_ne_nil _ (decimal_ne_nil _)]
        exact ih (n / 10) (by omega) (by omega)

/-- A canonical numeral is read in base ten and ends before a byte that is no
digit. -/
theorem strtoul_decimal (n : Nat) (rest : Bytes)
    (ends : ∀ byte ∈ rest.head?, byte = 46) :
    strtoul (decimal n ++ rest) = (n, rest) := by
  have notDigit : ∀ byte ∈ rest.head?, isDigit byte = false := by
    intro byte member
    rw [ends byte member]
    rfl
  rcases Nat.eq_zero_or_pos n with rfl | positive
  · cases rest with
    | nil => rfl
    | cons byte rest =>
        have dot := ends byte rfl
        subst dot
        have digitsEq : decimal 0 = [48] := rfl
        simp [strtoul, digitsEq, radixValue, hexDigit?, isDigit]
  · have leading : (decimal n ++ rest).head? ≠ some 48 := by
      rw [List.head?_append_of_ne_nil _ (decimal_ne_nil n)]
      exact head?_decimal_ne_zero positive
    rw [strtoul, if_neg leading, takeWhile_isDigit_decimal n rest notDigit,
      dropWhile_append_of_run (fun _ member => isDigit_of_mem_decimal member) notDigit,
      numValue_decimal]

theorem head?_any_isDigit_decimal (n : Nat) (rest : Bytes) :
    (decimal n ++ rest).head?.any isDigit = true := by
  rw [List.head?_append_of_ne_nil _ (decimal_ne_nil n)]
  cases digits : decimal n with
  | nil => exact absurd digits (decimal_ne_nil n)
  | cons first others =>
      exact isDigit_of_mem_decimal (n := n) (by simp [digits])

/-- One number of a dotted quad, with its dot. -/
theorem inetParts_dot (left : Nat) (stored : List Nat) (byte : UInt8) (rest : Bytes) :
    inetParts (left + 1) stored (decimal byte.toNat ++ ascii "." ++ rest) =
      inetParts left (stored ++ [byte.toNat]) rest := by
  have small := byte.toNat_lt
  have read : strtoul (decimal byte.toNat ++ (ascii "." ++ rest)) =
      (byte.toNat, ascii "." ++ rest) :=
    strtoul_decimal _ _ (by simp [ascii])
  have dotHead : (ascii "." ++ rest).head? = some 46 := rfl
  have dotTail : (ascii "." ++ rest).tail = rest := rfl
  have inWord : ¬ 0xffffffff < byte.toNat := by omega
  have inByte : ¬ 255 < byte.toNat := by omega
  rw [List.append_assoc, inetParts, if_pos (head?_any_isDigit_decimal _ _), read]
  simp only [inWord, dotHead, dotTail, inByte, if_false, if_true]

/-- The last number of a dotted quad. -/
theorem inetParts_last (a b c d : UInt8) :
    inetParts 0 [a.toNat, b.toNat, c.toNat] (decimal d.toNat) =
      some (littleEndian [a.toNat, b.toNat, c.toNat, d.toNat]) := by
  have small := d.toNat_lt
  have read : strtoul (decimal d.toNat) = (d.toNat, []) := by
    simpa using strtoul_decimal d.toNat [] (by simp)
  have digit : (decimal d.toNat).head?.any isDigit = true := by
    simpa using head?_any_isDigit_decimal d.toNat []
  have inWord : ¬ 0xffffffff < d.toNat := by omega
  have inByte : ¬ 256 ≤ d.toNat := by omega
  have reduced : d.toNat % 256 = d.toNat := Nat.mod_eq_of_lt small
  rw [inetParts, if_pos digit, read]
  simp [inWord, inByte, bigEndian, reduced]

theorem cString_dottedQuad (a b c d : UInt8) :
    cString (dottedQuad a b c d) = dottedQuad a b c d := by
  have noNul : ∀ n, ∀ byte ∈ decimal n, (byte != 0) = true := by
    intro n byte member
    have digit := (isDigit_eq_true_iff byte).mp (isDigit_of_mem_decimal member)
    rw [bne_iff_ne]
    rintro rfl
    simp at digit
  have isDot : ∀ byte ∈ ascii ".", (byte != 0) = true := List.all_eq_true.mp rfl
  have whole : ∀ byte ∈ dottedQuad a b c d, (byte != 0) = true := by
    intro byte member
    simp only [dottedQuad, List.mem_append] at member
    rcases member with (first | dot) | (second | dot) | (third | dot) | fourth
    · exact noNul _ byte first
    · exact isDot byte dot
    · exact noNul _ byte second
    · exact isDot byte dot
    · exact noNul _ byte third
    · exact isDot byte dot
    · exact noNul _ byte fourth
  have run := @takeWhile_append_of_run _ _ [] whole (by simp)
  rwa [List.append_nil] at run

/-- `inet_addr` of a canonical dotted quad is the word with these bytes. -/
theorem inetAddr_dottedQuad (a b c d : UInt8) :
    inetAddr (dottedQuad a b c d) =
      UInt32.ofNat (littleEndian [a.toNat, b.toNat, c.toNat, d.toNat]) := by
  rw [inetAddr, cString_dottedQuad, dottedQuad, inetParts_dot, inetParts_dot, inetParts_dot]
  simp only [List.nil_append, List.cons_append]
  rw [inetParts_last]

/-- `inet_ntoa` undoes `inet_addr` on canonical dotted quads. -/
theorem inetNtoa_inetAddr (a b c d : UInt8) :
    inetNtoa (inetAddr (dottedQuad a b c d)) = dottedQuad a b c d := by
  have aSmall := a.toNat_lt
  have bSmall := b.toNat_lt
  have cSmall := c.toNat_lt
  have dSmall := d.toNat_lt
  have bytes : ∀ position byte, position < 4 →
      [a, b, c, d][position]? = some byte →
        addressByte (inetAddr (dottedQuad a b c d)) position = byte := by
    intro position byte inside at_position
    rw [addressByte, inetAddr_dottedQuad, UInt32.toNat_ofNat']
    apply UInt8.toNat_inj.mp
    rw [UInt8.toNat_ofNat']
    interval_cases position <;> simp at at_position <;> subst at_position <;>
      simp [littleEndian] <;> omega
  rw [inetNtoa, bytes 0 a (by omega) rfl, bytes 1 b (by omega) rfl, bytes 2 c (by omega) rfl,
    bytes 3 d (by omega) rfl]

end DescargaP2P.Cpp
