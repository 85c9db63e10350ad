import DescargaP2P.Text.Bytes

/-!
# Buffered output to a file

`std::ofstream` collects what is inserted in a buffer and hands it to the file
when the buffer is full, at a flush and at the close.  The file may take only a
limited number of bytes.  The first write that does not fit makes the stream fail,
and a failed stream ignores whatever is inserted later, without a word.

However the insertions and flushes are arranged, and whatever the capacity of the
buffer, the closed file holds what it took of the whole text.
-/

namespace DescargaP2P.Cpp

open DescargaP2P.Text

/-- What a file takes of a text, `none` for a file without a limit. -/
def taken : Option Nat → Bytes → Bytes
  | none, text => text
  | some limit, text => text.take limit

/-- An output stream: what the file holds, what is in the buffer, how many more
bytes the file takes, and whether a write has failed. -/
structure OutStream where
  held : Bytes
  pending : Bytes
  room : Option Nat
  failed : Bool

namespace OutStream

/-- A stream on a file that has just been truncated. -/
def opened (room : Option Nat) : OutStream where
  held := []
  pending := []
  room := room
  failed := false

/-- Hand the buffer to the file. -/
def flush (stream : OutStream) : OutStream :=
  if stream.failed then stream
  else
    { held := stream.held ++ taken stream.room stream.pending
      pending := []
      room := stream.room.map (· - stream.pending.length)
      failed := stream.room.any (· < stream.pending.length) }

/-- `operator<<`: the buffer is handed over when it exceeds its capacity. -/
def insert (capacity : Nat) (stream : OutStream) (text : Bytes) : OutStream :=
  if stream.failed then stream
  else
    let filled := { stream with pending := stream.pending ++ text }
    if capacity < filled.pending.length then filled.flush else filled

/-- The file after `close`. -/
def close (stream : OutStream) : Bytes := stream.flush.held

/-! ## What the file holds -/

/-- The stream has been given a text on a file with a limit. -/
structure Given (limit : Option Nat) (text : Bytes) (stream : OutStream) : Prop where
  whole : stream.failed = false → stream.held ++ stream.pending = text
  left : stream.failed = false → stream.room = limit.map (· - stream.held.length)
  inside : stream.failed = false → ∀ bound ∈ limit, stream.held.length ≤ bound
  cut : stream.failed = true → stream.held = taken limit text
  tooLong : stream.failed = true → ∃ bound ∈ limit, bound < text.length

theorem given_opened (limit : Option Nat) : Given limit [] (opened limit) where
  whole _ := rfl
  left _ := by cases limit <;> rfl
  inside _ _ _ := Nat.zero_le _
  cut failed := Bool.noConfusion failed
  tooLong failed := Bool.noConfusion failed

/-- A text that was cut stays cut. -/
theorem Given.append_of_failed {limit : Option Nat} {text : Bytes} {stream : OutStream}
    (given : Given limit text stream) (failed : stream.failed = true) (more : Bytes) :
    Given limit (text ++ more) stream := by
  obtain ⟨bound, limited, short⟩ := given.tooLong failed
  refine ⟨?_, ?_, ?_, ?_, ?_⟩
  · simp [failed]
  · simp [failed]
  · simp [failed]
  · intro _
    rw [given.cut failed, Option.mem_def.mp limited, taken, taken,
      List.take_append_of_le_length (Nat.le_of_lt short)]
  · intro _
    rw [List.length_append]
    exact ⟨bound, limited, by omega⟩

/-- Flushing gives the file nothing but the buffer. -/
theorem Given.flush {limit : Option Nat} {text : Bytes} {stream : OutStream}
    (given : Given limit text stream) : Given limit text stream.flush := by
  cases failed : stream.failed with
  | true => simpa [OutStream.flush, failed] using given
  | false =>
      have whole := given.whole failed
      have left := given.left failed
      have inside := given.inside failed
      cases limit with
      | none =>
          rw [Option.map_none] at left
          constructor <;> simp [OutStream.flush, failed, left, taken, whole]
      | some bound =>
          have fits := inside bound rfl
          have length := congrArg List.length whole
          rw [List.length_append] at length
          rw [Option.map_some] at left
          have handed : stream.held ++ stream.pending.take (bound - stream.held.length) =
              text.take bound := by
            rw [← whole, List.take_append, List.take_of_length_le fits]
          constructor
          · simp only [OutStream.flush, failed, left, Option.any_some, taken, handed,
              decide_eq_false_iff_not, Bool.false_eq_true, if_false, List.append_nil]
            intro enough
            exact List.take_of_length_le (by omega)
          · simp only [OutStream.flush, failed, left, Option.any_some, taken,
              decide_eq_false_iff_not, Bool.false_eq_true, if_false, Option.map_some,
              List.length_append, List.length_take, Option.some.injEq]
            omega
          · simp only [OutStream.flush, failed, left, taken, handed, Bool.false_eq_true,
              if_false, Option.mem_def, Option.some.injEq, List.length_take]
            rintro _ _ rfl
            exact Nat.min_le_left _ _
          · intro _
            simp only [OutStream.flush, failed, left, taken, handed, Bool.false_eq_true, if_false]
          · simp only [OutStream.flush, failed, left, Option.any_some, Bool.false_eq_true,
              if_false, decide_eq_true_eq, Option.mem_def, Option.some.injEq, exists_eq_left']
            omega

/-- An insertion adds its text. -/
theorem Given.insert {limit : Option Nat} {text : Bytes} {stream : OutStream} (capacity : Nat)
    (given : Given limit text stream) (more : Bytes) :
    Given limit (text ++ more) (stream.insert capacity more) := by
  cases failed : stream.failed with
  | true => simpa [OutStream.insert, failed] using given.append_of_failed failed more
  | false =>
      have filled : Given limit (text ++ more)
          { stream with pending := stream.pending ++ more } := by
        constructor
        · intro _
          rw [← given.whole failed, List.append_assoc]
        · exact given.left
        · exact given.inside
        · simp [failed]
        · simp [failed]
      have works : ¬ stream.failed = true := by simp [failed]
      rw [OutStream.insert, if_neg works]
      by_cases full : capacity < (stream.pending ++ more).length
      · simp only [full, if_true]
        exact filled.flush
      · simp only [full, if_false]
        exact filled

/-- A stream whose buffer has been handed over holds what the file took. -/
theorem Given.close_eq {limit : Option Nat} {text : Bytes} {stream : OutStream}
    (given : Given limit text stream) : stream.close = taken limit text := by
  have flushed := given.flush
  rw [close]
  cases failed : stream.flush.failed with
  | true => exact flushed.cut failed
  | false =>
      have empty : stream.flush.pending = [] := by
        cases before : stream.failed with
        | true => simp [OutStream.flush, before] at failed
        | false => simp [OutStream.flush, before]
      have whole := flushed.whole failed
      rw [empty, List.append_nil] at whole
      cases limit with
      | none => exact whole
      | some bound =>
          have fits := flushed.inside failed bound rfl
          rw [whole] at fits
          rw [whole, taken, List.take_of_length_le fits]

end OutStream

end DescargaP2P.Cpp
