import DescargaP2P.Text.Bytes
import DescargaP2P.Text.Search

/-!
# Reading a page

Two readers of the text of a page.  `cells` gives the texts between each `<td>` and
the following `</td>`.  `tags` gives the markup: what stands between a `<` that opens
a tag, a comment or a declaration and the next `>`.  A page that is joined from pieces
is read piece by piece if each piece closes what it opens.
-/

namespace DescargaP2P.Text

/-! ## Cells -/

def cellOpening : Bytes := ascii "<td>"

def cellClosing : Bytes := ascii "</td>"

/-- The text after the first `<td>` of a text. -/
def cell (part : Bytes) : Option Bytes :=
  (findSub cellOpening part).map fun pos => part.drop (pos + cellOpening.length)

/-- The texts between each `<td>` and the following `</td>`. -/
def cells (page : Bytes) : List Bytes := (split cellClosing page).1.filterMap cell

theorem cellClosing_ne_nil : cellClosing ≠ [] := List.cons_ne_nil _ _

theorem cellClosing_unbordered : Unbordered cellClosing := by decide

/-- A text apart from both marks is not read. -/
theorem cells_append {text : Bytes} (noOpening : Apart cellOpening text)
    (noClosing : Apart cellClosing text) (rest : Bytes) : cells (text ++ rest) = cells rest := by
  rw [cells, cells, noClosing.split_append cellClosing_ne_nil]
  cases (split cellClosing rest).1 with
  | nil => rfl
  | cons part parts =>
      have same : cell (text ++ part) = cell part := by
        rw [cell, cell, noOpening.findSub_append]
        cases findSub cellOpening part with
        | none => rfl
        | some pos => simp [Nat.add_assoc, List.drop_length_add_append]
      rw [List.modifyHead_cons, List.filterMap_cons, List.filterMap_cons, same]

/-- A cell is read up to its end. -/
theorem cells_cell {content : Bytes} (clean : ¬ cellClosing <:+: content) (rest : Bytes) :
    cells (cellOpening ++ content ++ cellClosing ++ rest) = content :: cells rest := by
  have apart : Apart cellClosing cellOpening := by decide
  have absent : ¬ cellClosing <:+: cellOpening ++ content :=
    mt (apart.infix_append_iff content).mp clean
  have notBefore : ¬ cellOpening <:+: ([] : Bytes) := by decide
  have found := findSub_append (by decide : Unbordered cellOpening) notBefore content
  rw [List.nil_append, List.length_nil] at found
  have read : cell (cellOpening ++ content) = some content := by
    rw [cell, found, Option.map_some, Nat.zero_add, List.drop_left]
  rw [cells, split_append cellClosing_ne_nil cellClosing_unbordered absent,
    List.filterMap_cons_some read]
  rfl

/-! ## Tags -/

/-- The bytes that make markup of a `<` before them: the letters, `/`, `!` and `?`. -/
def startsTag (byte : UInt8) : Bool :=
  (65 ≤ byte && byte ≤ 90) || (97 ≤ byte && byte ≤ 122) || byte == 47 || byte == 33 || byte == 63

/-- The text opens a tag somewhere. -/
def OpensTag (text : Bytes) : Prop :=
  ∃ before byte after, text = before ++ 60 :: byte :: after ∧ startsTag byte = true

/-- The texts between each `<` that opens a tag and the next `>`. -/
def tags : Bytes → List Bytes
  | [] => []
  | byte :: rest =>
      if byte = 60 ∧ rest.head?.any startsTag = true then
        rest.takeWhile (· != 62) :: tags rest
      else tags rest

theorem tags_cons (byte : UInt8) (rest : Bytes) :
    tags (byte :: rest) =
      if byte = 60 ∧ rest.head?.any startsTag = true then
        rest.takeWhile (· != 62) :: tags rest
      else tags rest :=
  rfl

theorem tags_cons_of_ne {byte : UInt8} (other : byte ≠ 60) (rest : Bytes) :
    tags (byte :: rest) = tags rest := by
  rw [tags_cons, if_neg fun opens => other opens.1]

/-- A text opens a tag exactly when one is read. -/
theorem tags_eq_nil_iff (text : Bytes) : tags text = [] ↔ ¬ OpensTag text := by
  induction text with
  | nil =>
      apply iff_of_true rfl
      rintro ⟨before, byte, after, cut, _⟩
      cases before <;> cases cut
  | cons first rest ih =>
      rw [tags_cons]
      split
      · rename_i opens
        obtain ⟨rfl, starts⟩ := opens
        apply iff_of_false (List.cons_ne_nil _ _)
        intro never
        cases rest with
        | nil => cases starts
        | cons byte after => exact never ⟨[], byte, after, rfl, starts⟩
      · rename_i notHere
        rw [ih, not_iff_not]
        constructor
        · rintro ⟨before, byte, after, rfl, starts⟩
          exact ⟨first :: before, byte, after, rfl, starts⟩
        · rintro ⟨before, byte, after, cut, starts⟩
          cases before with
          | nil =>
              obtain ⟨rfl, rfl⟩ := List.cons_eq_cons.mp cut
              exact absurd ⟨rfl, starts⟩ notHere
          | cons other before =>
              obtain ⟨_, rfl⟩ := List.cons_eq_cons.mp cut
              exact ⟨before, byte, after, rfl, starts⟩

/-- A text closes what it opens: what follows is read on its own. -/
def Closed (text : Bytes) : Prop := ∀ rest, tags (text ++ rest) = tags text ++ tags rest

theorem closed_nil : Closed [] := fun _ => rfl

theorem Closed.append {first second : Bytes} (firstClosed : Closed first)
    (secondClosed : Closed second) : Closed (first ++ second) := by
  intro rest
  rw [List.append_assoc, firstClosed, secondClosed, firstClosed, List.append_assoc]

/-- Pieces that are closed are read one by one. -/
theorem tags_flatMap {β : Type*} {piece : β → Bytes} (closed : ∀ item, Closed (piece item))
    (items : List β) : tags (items.flatMap piece) = items.flatMap fun item => tags (piece item) := by
  induction items with
  | nil => rfl
  | cons item items ih => rw [List.flatMap_cons, closed item, ih, List.flatMap_cons]

theorem Closed.flatMap {β : Type*} {piece : β → Bytes} (closed : ∀ item, Closed (piece item))
    (items : List β) : Closed (items.flatMap piece) := by
  induction items with
  | nil => exact closed_nil
  | cons item items ih => exact (closed item).append ih

/-- A text that ends in `>` is closed, whatever stands before it. -/
theorem closed_concat (before : Bytes) : Closed (before ++ [62]) := by
  intro rest
  induction before with
  | nil => exact tags_cons_of_ne (by decide) rest
  | cons byte before ih =>
      have sameHead : (before ++ [62] ++ rest).head? = (before ++ [62]).head? := by
        cases before <;> rfl
      have sameTag : (before ++ [62] ++ rest).takeWhile (· != 62) =
          (before ++ [62]).takeWhile (· != 62) := by
        simp [List.takeWhile_append]
      simp only [List.cons_append, tags_cons byte, sameHead, sameTag, ih]
      split <;> rfl

/-- White space and other texts without `<` are closed. -/
theorem closed_of_not_mem {text : Bytes} (noOpening : (60 : UInt8) ∉ text) : Closed text := by
  intro rest
  induction text with
  | nil => rfl
  | cons byte text ih =>
      have other : byte ≠ 60 := (List.ne_of_not_mem_cons noOpening).symm
      have others := List.not_mem_of_not_mem_cons noOpening
      rw [List.cons_append, tags_cons_of_ne other, tags_cons_of_ne other, ih others]

/-- Before a `<`, every tag of a text counts. -/
theorem length_tags_append_opening (text rest : Bytes) :
    (tags (text ++ 60 :: rest)).length = (tags text).length + (tags (60 :: rest)).length := by
  induction text with
  | nil => exact (Nat.zero_add _).symm
  | cons byte text ih =>
      have sameHead : (text ++ 60 :: rest).head?.any startsTag = text.head?.any startsTag := by
        cases text <;> rfl
      rw [List.cons_append, tags_cons byte, tags_cons byte, sameHead]
      split
      · rw [List.length_cons, List.length_cons, ih, Nat.add_right_comm]
      · exact ih

theorem tags_append_opening {text : Bytes} (none : tags text = []) (rest : Bytes) :
    tags (text ++ 60 :: rest) = tags (60 :: rest) := by
  induction text with
  | nil => rfl
  | cons byte text ih =>
      have sameHead : (text ++ 60 :: rest).head?.any startsTag = text.head?.any startsTag := by
        cases text <;> rfl
      rw [tags_cons] at none
      split at none
      · contradiction
      · rename_i notHere
        rw [List.cons_append, tags_cons byte, sameHead, if_neg notHere, ih none]

end DescargaP2P.Text
