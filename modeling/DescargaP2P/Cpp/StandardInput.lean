import DescargaP2P.Cpp.Streams

/-!
# Extractions from a stream that is not checked

A program that does not look at its input stream goes on after a failed extraction.
The error state is sticky: every later extraction fails at once and leaves its variable
as it was.  A failed conversion stores 0, and a number out of range the nearest `int`.
-/

namespace DescargaP2P.Cpp

open DescargaP2P.Text

/-- The bytes left in a stream, and whether an extraction has failed. -/
structure Istream where
  remaining : Bytes
  failed : Bool
  deriving DecidableEq, Repr

/-- A stream before its first extraction. -/
def Istream.ofText (text : Bytes) : Istream := ⟨text, false⟩

/-- The value of a run of digits with a sign. -/
def signedValue (negative : Bool) (digits : Bytes) : Int :=
  if negative then -(numValue digits) else numValue digits

/-- The value stored for a field after its sign, and the stream after it. -/
def convertInt (negative : Bool) (magnitude : Bytes) : Int × Istream :=
  let digits := magnitude.takeWhile isDigit
  let rest := magnitude.dropWhile isDigit
  let value := signedValue negative digits
  if digits = [] then (0, ⟨rest, true⟩)
  else if value < -2 ^ 31 then (-2 ^ 31, ⟨rest, true⟩)
  else if 2 ^ 31 ≤ value then (2 ^ 31 - 1, ⟨rest, true⟩)
  else (value, ⟨rest, false⟩)

/-- `stream >> variable` for an `int` that holds `old`: the value it holds after. -/
def readInt (stream : Istream) (old : Int) : Int × Istream :=
  if stream.failed then (old, stream)
  else
    let field := stream.remaining.dropWhile isSpace
    if field = [] then (old, ⟨[], true⟩)
    else convertInt (takeSign field).1 (takeSign field).2

/-- `stream >> variable` for a string that holds `old`. -/
def readWord (stream : Istream) (old : Bytes) : Bytes × Istream :=
  if stream.failed then (old, stream)
  else
    match extractWord stream.remaining with
    | none => (old, ⟨[], true⟩)
    | some (word, rest) => (word, ⟨rest, false⟩)

theorem readInt_of_failed {stream : Istream} (failed : stream.failed = true) (old : Int) :
    readInt stream old = (old, stream) := by
  rw [readInt, if_pos failed]

/-- A conversion fails, with one of three values, or consumes its digits. -/
theorem convertInt_cases (negative : Bool) (magnitude : Bytes) :
    ((convertInt negative magnitude).2.failed = true ∧
        ((convertInt negative magnitude).1 = 0 ∨ (convertInt negative magnitude).1 = -2 ^ 31 ∨
          (convertInt negative magnitude).1 = 2 ^ 31 - 1)) ∨
      ((convertInt negative magnitude).2.failed = false ∧
        (convertInt negative magnitude).2.remaining.length < magnitude.length) := by
  have cut := congrArg List.length
    (List.takeWhile_append_dropWhile (p := isDigit) (l := magnitude))
  rw [List.length_append] at cut
  simp only [convertInt]
  split_ifs with noDigits
  · exact Or.inl ⟨rfl, Or.inl rfl⟩
  · exact Or.inl ⟨rfl, Or.inr (Or.inl rfl)⟩
  · exact Or.inl ⟨rfl, Or.inr (Or.inr rfl)⟩
  · have someDigit := List.length_pos_iff.mpr noDigits
    refine Or.inr ⟨rfl, ?_⟩
    simp only
    omega

theorem length_takeSign_le (field : Bytes) : (takeSign field).2.length ≤ field.length := by
  cases field with
  | nil => exact Nat.le_refl _
  | cons first rest =>
      simp only [takeSign]
      split_ifs
      · exact Nat.le_succ _
      · exact Nat.le_succ _
      · exact Nat.le_refl _

/-- An extraction of a number fails, with one of four values, or consumes its digits. -/
theorem readInt_cases (stream : Istream) (old : Int) :
    ((readInt stream old).2.failed = true ∧
        ((readInt stream old).1 = old ∨ (readInt stream old).1 = 0 ∨
          (readInt stream old).1 = -2 ^ 31 ∨ (readInt stream old).1 = 2 ^ 31 - 1)) ∨
      ((readInt stream old).2.failed = false ∧
        (readInt stream old).2.remaining.length < stream.remaining.length) := by
  simp only [readInt]
  split_ifs with failed
  · exact Or.inl ⟨failed, Or.inl rfl⟩
  · exact Or.inl ⟨rfl, Or.inl rfl⟩
  · rcases convertInt_cases (takeSign (stream.remaining.dropWhile isSpace)).1
      (takeSign (stream.remaining.dropWhile isSpace)).2 with ⟨fails, value⟩ | ⟨works, shorter⟩
    · exact Or.inl ⟨fails, Or.inr value⟩
    · have signed := length_takeSign_le (stream.remaining.dropWhile isSpace)
      have skipped := (List.dropWhile_suffix (l := stream.remaining) isSpace).length_le
      exact Or.inr ⟨works, shorter.trans_le (signed.trans skipped)⟩

/-- The later stream has failed, or neither has and it is no longer. -/
def Istream.Within (later earlier : Istream) : Prop :=
  later.failed = true ∨
    (later.failed = false ∧ earlier.failed = false ∧
      later.remaining.length ≤ earlier.remaining.length)

theorem Istream.Within.trans {first second third : Istream} (later : third.Within second)
    (earlier : second.Within first) : third.Within first := by
  rcases later with failed | ⟨works, secondWorks, shorter⟩
  · exact Or.inl failed
  · rcases earlier with failed | ⟨_, firstWorks, secondShorter⟩
    · rw [secondWorks] at failed
      contradiction
    · exact Or.inr ⟨works, firstWorks, shorter.trans secondShorter⟩

/-- An extraction of a string fails or does not lengthen the stream. -/
theorem readWord_within (stream : Istream) (old : Bytes) :
    (readWord stream old).2.Within stream := by
  rw [readWord]
  split
  · rename_i failed
    exact Or.inl failed
  · rename_i works
    cases extracted : extractWord stream.remaining with
    | none => exact Or.inl rfl
    | some read =>
        obtain ⟨word, rest⟩ := read
        simp only [extractWord] at extracted
        split_ifs at extracted with empty
        simp only [Option.some.injEq, Prod.mk.injEq] at extracted
        obtain ⟨_, rfl⟩ := extracted
        have kept := (List.dropWhile_suffix
          (l := stream.remaining.dropWhile isSpace) (!isSpace ·)).length_le
        have skipped := (List.dropWhile_suffix (l := stream.remaining) isSpace).length_le
        exact Or.inr ⟨rfl, Bool.not_eq_true _ ▸ works, kept.trans skipped⟩

end DescargaP2P.Cpp
