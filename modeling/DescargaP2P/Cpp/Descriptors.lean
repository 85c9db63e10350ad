import DescargaP2P.Text.Bytes

/-!
# Arrays and files

What a program with a descriptor and a reused array rests on: an array of a fixed
size of which a read replaces the beginning, and a file that is written at an offset,
where the bytes after the written ones stay and a gap is filled with zeros.
-/

namespace DescargaP2P.Cpp

open DescargaP2P.Text

/-- `std::array<char, size>`. -/
structure Buffer (size : Nat) where
  bytes : Bytes
  full : bytes.length = size

namespace Buffer

variable {size : Nat}

/-- Read some bytes into an array. -/
def fill (buffer : Buffer size) (input : Bytes) (fits : input.length ≤ size) : Buffer size where
  bytes := input ++ buffer.bytes.drop input.length
  full := by
    rw [List.length_append, List.length_drop, buffer.full]
    omega

/-- `boost::asio::buffer(data, count)`: the first bytes of an array. -/
def first (buffer : Buffer size) (count : Nat) : Bytes :=
  buffer.bytes.take count

theorem length_first (buffer : Buffer size) {count : Nat} (inside : count ≤ size) :
    (buffer.first count).length = count := by
  rw [first, List.length_take, buffer.full, Nat.min_eq_left inside]

/-- Of what was in the array nothing is left among the bytes that were read. -/
theorem first_fill (buffer : Buffer size) {input : Bytes} (fits : input.length ≤ size) :
    (buffer.fill input fits).first input.length = input :=
  List.take_left' rfl

end Buffer

/-- The contents of a file after a write at an offset. -/
def overwrite (contents : Bytes) (offset : Nat) (input : Bytes) : Bytes :=
  contents.take offset ++ List.replicate (offset - contents.length) 0 ++ input ++
    contents.drop (offset + input.length)

/-- A write at the end appends. -/
theorem overwrite_at_end (contents input : Bytes) :
    overwrite contents contents.length input = contents ++ input := by
  rw [overwrite, List.take_length, Nat.sub_self, List.replicate_zero, List.append_nil,
    List.drop_eq_nil_of_le (Nat.le_add_right _ _), List.append_nil]

end DescargaP2P.Cpp
