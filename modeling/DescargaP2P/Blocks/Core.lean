import Mathlib.Data.List.Basic

/-!
# Nested blocks as code with jumps

A one-pass assembler appends cells to a code and remembers the positions of the blocks
that are open.  Closing a block aims its opening at the closing and the closing at the
opening.  A code without an open block is the layout of a script, the tree of its blocks.
-/

namespace DescargaP2P.Blocks

universe u

variable {α : Type u}

theorem modify_append_of_lt {front : List α} {i : Nat} (inside : i < front.length)
    (back : List α) (change : α → α) :
    (front ++ back).modify i change = front.modify i change ++ back := by
  induction front generalizing i with
  | nil => cases inside
  | cons first front ih =>
      cases i with
      | zero => rfl
      | succ i =>
          rw [List.cons_append, List.modify_succ_cons, List.modify_succ_cons,
            ih (Nat.lt_of_succ_lt_succ inside), List.cons_append]

theorem modify_length_add (front back : List α) (i : Nat) (change : α → α) :
    (front ++ back).modify (front.length + i) change = front ++ back.modify i change := by
  induction front with
  | nil => rw [List.length_nil, Nat.zero_add, List.nil_append, List.nil_append]
  | cons first front ih =>
      rw [List.length_cons, Nat.add_right_comm, List.cons_append, List.modify_succ_cons, ih,
        List.cons_append]

/-! ## Scripts -/

/-- A sequence of cells and blocks. -/
inductive Script (α : Type u)
  | done
  | plain (cell : α) (rest : Script α)
  | block (opening : α) (body : Script α) (closing : α) (rest : Script α)
  deriving DecidableEq, Repr

namespace Script

/-- Number of cells. -/
def size : Script α → Nat
  | done => 0
  | plain _ rest => rest.size + 1
  | block _ body _ rest => body.size + rest.size + 2

/-- One script after the other. -/
def append : Script α → Script α → Script α
  | done, later => later
  | plain cell rest, later => plain cell (rest.append later)
  | block opening body closing rest, later => block opening body closing (rest.append later)

/-- Each plain cell and each pair of opening and closing satisfies a property. -/
def All (plainly : α → Prop) (paired : α → α → Prop) : Script α → Prop
  | done => True
  | plain cell rest => plainly cell ∧ rest.All plainly paired
  | block opening body closing rest =>
      paired opening closing ∧ body.All plainly paired ∧ rest.All plainly paired

/-- The cells of a script that begins at a position, each block aimed at its other end. -/
def layout (aim : Nat → α → α) : Nat → Script α → List α
  | _, done => []
  | start, plain cell rest => cell :: rest.layout aim (start + 1)
  | start, block opening body closing rest =>
      aim (start + body.size + 1) opening :: body.layout aim (start + 1) ++
        aim start closing :: rest.layout aim (start + body.size + 2)

variable {aim : Nat → α → α} {plainly : α → Prop} {paired : α → α → Prop}

@[simp]
theorem length_layout (script : Script α) (start : Nat) :
    (script.layout aim start).length = script.size := by
  induction script generalizing start with
  | done => rfl
  | plain cell rest ih => rw [layout, List.length_cons, ih, size]
  | block opening body closing rest body_ih rest_ih =>
      rw [layout, List.length_append, List.length_cons, List.length_cons, body_ih, rest_ih, size]
      omega

theorem layout_append (script later : Script α) (start : Nat) :
    (script.append later).layout aim start =
      script.layout aim start ++ later.layout aim (start + script.size) := by
  induction script generalizing start with
  | done => rfl
  | plain cell rest ih =>
      rw [append, layout, layout, ih, size, List.cons_append, Nat.add_right_comm, Nat.add_assoc]
  | block opening body closing rest _ ih =>
      have same : start + body.size + 2 + rest.size = start + (body.size + rest.size + 2) := by
        omega
      rw [append, layout, layout, ih, size, same, List.append_assoc]
      simp only [List.cons_append]

theorem All.append {script later : Script α} (first : script.All plainly paired)
    (second : later.All plainly paired) : (script.append later).All plainly paired := by
  induction script with
  | done => exact second
  | plain cell rest ih => exact ⟨first.1, ih first.2⟩
  | block opening body closing rest _ ih => exact ⟨first.1, first.2.1, ih first.2.2⟩

/-- A change of the plain cells alone gives a script again. -/
theorem exists_layout_modify (aim : Nat → α → α) {change : α → α}
    (kept : ∀ cell, plainly cell → plainly (change cell))
    (fixed : ∀ opening closing, paired opening closing → ∀ pos,
      change (aim pos opening) = aim pos opening ∧ change (aim pos closing) = aim pos closing)
    {script : Script α} (inner : script.All plainly paired) (start i : Nat) :
    ∃ changed : Script α, changed.All plainly paired ∧ changed.size = script.size ∧
      changed.layout aim start = (script.layout aim start).modify i change := by
  induction script generalizing start i with
  | done => exact ⟨done, trivial, rfl, by rw [layout, List.modify_nil]⟩
  | plain cell rest ih =>
      cases i with
      | zero => exact ⟨plain (change cell) rest, ⟨kept cell inner.1, inner.2⟩, rfl, rfl⟩
      | succ i =>
          obtain ⟨changed, all, size, laid⟩ := ih inner.2 (start + 1) i
          refine ⟨plain cell changed, ⟨inner.1, all⟩, congrArg (· + 1) size, ?_⟩
          rw [layout, layout, laid, List.modify_succ_cons]
  | block opening body closing rest body_ih rest_ih =>
      obtain ⟨pair, bodyAll, restAll⟩ := inner
      cases i with
      | zero =>
          refine ⟨block opening body closing rest, ⟨pair, bodyAll, restAll⟩, rfl, ?_⟩
          rw [layout, List.cons_append, List.modify_zero_cons, (fixed _ _ pair _).1]
      | succ i =>
          by_cases inBody : i < body.size
          · obtain ⟨changed, all, same, laid⟩ := body_ih bodyAll (start + 1) i
            refine ⟨block opening changed closing rest, ⟨pair, all, restAll⟩, ?_, ?_⟩
            · rw [size, size, same]
            · have shorter : i < (body.layout aim (start + 1)).length := by rwa [length_layout]
              rw [layout, layout, laid, same, List.cons_append, List.cons_append,
                List.modify_succ_cons, modify_append_of_lt shorter]
          · obtain ⟨more, rfl⟩ := Nat.exists_eq_add_of_le (Nat.le_of_not_lt inBody)
            cases more with
            | zero =>
                refine ⟨block opening body closing rest, ⟨pair, bodyAll, restAll⟩, rfl, ?_⟩
                have here := modify_length_add (body.layout aim (start + 1))
                  (aim start closing :: rest.layout aim (start + body.size + 2)) 0 change
                rw [length_layout, List.modify_zero_cons, (fixed _ _ pair _).2] at here
                rw [layout, List.cons_append, List.modify_succ_cons]
                exact congrArg _ here.symm
            | succ more =>
                obtain ⟨changed, all, same, laid⟩ := rest_ih restAll (start + body.size + 2) more
                refine ⟨block opening body closing changed, ⟨pair, bodyAll, all⟩, ?_, ?_⟩
                · rw [size, size, same]
                · have later := modify_length_add (body.layout aim (start + 1))
                    (aim start closing :: rest.layout aim (start + body.size + 2)) (more + 1) change
                  rw [length_layout, List.modify_succ_cons] at later
                  rw [layout, layout, laid, List.cons_append, List.cons_append,
                    List.modify_succ_cons, later]

end Script

/-! ## The assembler -/

/-- The cells so far and the positions of the open blocks, the innermost one first. -/
structure Assembly (α : Type u) where
  code : List α := []
  pending : List Nat := []
  deriving DecidableEq, Repr

namespace Assembly

def emit (cell : α) (assembly : Assembly α) : Assembly α :=
  { assembly with code := assembly.code ++ [cell] }

def openBlock (opening : α) (assembly : Assembly α) : Assembly α where
  code := assembly.code ++ [opening]
  pending := assembly.code.length :: assembly.pending

/-- Without an open block there is nothing to close. -/
def closeBlock (aim : Nat → α → α) (closing : α) (assembly : Assembly α) :
    Option (Assembly α) :=
  match assembly.pending with
  | [] => none
  | matched :: pending =>
      some
        { code :=
            assembly.code.modify matched (aim assembly.code.length) ++ [aim matched closing]
          pending := pending }

theorem length_emit (cell : α) (assembly : Assembly α) :
    (assembly.emit cell).code.length = assembly.code.length + 1 := List.length_append

theorem length_openBlock (opening : α) (assembly : Assembly α) :
    (assembly.openBlock opening).code.length = assembly.code.length + 1 := List.length_append

theorem length_closeBlock {aim : Nat → α → α} {closing : α} {assembly next : Assembly α}
    (closed : assembly.closeBlock aim closing = some next) :
    next.code.length = assembly.code.length + 1 := by
  unfold closeBlock at closed
  split at closed
  · cases closed
  · obtain rfl := Option.some.inj closed
    rw [List.length_append, List.length_modify, List.length_singleton]

/-- Closing a block lays it out behind what stands before it. -/
theorem closeBlock_layout (aim : Nat → α → α) (code : List α) (pending : List Nat) (opening : α)
    (body : Script α) (closing : α) :
    closeBlock aim closing
        ⟨code ++ opening :: body.layout aim (code.length + 1), code.length :: pending⟩ =
      some ⟨code ++ (Script.block opening body closing .done).layout aim code.length, pending⟩ := by
  simp [closeBlock, Script.layout, List.modify_eq_take_drop, Nat.add_assoc]

end Assembly

/-! ## What is assembled -/

/-- The open blocks with what stands before, between and after them. -/
inductive Frames (α : Type u)
  | outermost (script : Script α)
  | inside (outer : Frames α) (opening : α) (script : Script α)

namespace Frames

variable {aim : Nat → α → α} {plainly : α → Prop} {paired : α → α → Prop}

def code (aim : Nat → α → α) : Frames α → List α
  | outermost script => script.layout aim 0
  | inside outer opening script =>
      outer.code aim ++ opening :: script.layout aim ((outer.code aim).length + 1)

def pending (aim : Nat → α → α) : Frames α → List Nat
  | outermost _ => []
  | inside outer _ _ => (outer.code aim).length :: outer.pending aim

/-- A script goes on after what stands in the innermost block. -/
def extend (later : Script α) : Frames α → Frames α
  | outermost script => outermost (script.append later)
  | inside outer opening script => inside outer opening (script.append later)

/-- Every cell satisfies its property; an opening, whatever the closing will be. -/
def All (plainly : α → Prop) (paired : α → α → Prop) (closes : α → Prop) : Frames α → Prop
  | outermost script => script.All plainly paired
  | inside outer opening script =>
      outer.All plainly paired closes ∧ (∀ closing, closes closing → paired opening closing) ∧
        script.All plainly paired

theorem code_extend (aim : Nat → α → α) (frames : Frames α) (later : Script α) :
    (frames.extend later).code aim =
      frames.code aim ++ later.layout aim (frames.code aim).length := by
  cases frames with
  | outermost script => simp [extend, code, Script.layout_append]
  | inside outer opening script =>
      have same : (outer.code aim).length + 1 + script.size =
          (outer.code aim).length + (script.size + 1) := by omega
      simp [extend, code, Script.layout_append, same]

@[simp]
theorem pending_extend (frames : Frames α) (later : Script α) :
    (frames.extend later).pending aim = frames.pending aim := by
  cases frames <;> rfl

theorem All.extend {closes : α → Prop} {frames : Frames α} {later : Script α}
    (inner : frames.All plainly paired closes) (added : later.All plainly paired) :
    (frames.extend later).All plainly paired closes := by
  cases frames with
  | outermost script => exact Script.All.append inner added
  | inside outer opening script => exact ⟨inner.1, inner.2.1, inner.2.2.append added⟩

end Frames

/-- The assembly is the layout of frames. -/
def Assembled (aim : Nat → α → α) (plainly : α → Prop) (paired : α → α → Prop)
    (closes : α → Prop) (assembly : Assembly α) : Prop :=
  ∃ frames : Frames α, frames.All plainly paired closes ∧
    assembly = ⟨frames.code aim, frames.pending aim⟩

section Steps

variable {aim : Nat → α → α} {plainly : α → Prop} {paired : α → α → Prop} {closes : α → Prop}
  {assembly : Assembly α}

theorem assembled_empty : Assembled aim plainly paired closes {} :=
  ⟨.outermost .done, trivial, rfl⟩

theorem Assembled.emit (assembled : Assembled aim plainly paired closes assembly) {cell : α}
    (fits : plainly cell) : Assembled aim plainly paired closes (assembly.emit cell) := by
  obtain ⟨frames, inner, rfl⟩ := assembled
  have extended := frames.code_extend aim (.plain cell .done)
  refine ⟨frames.extend (.plain cell .done), inner.extend ⟨fits, trivial⟩, ?_⟩
  rw [extended, Frames.pending_extend]
  rfl

theorem Assembled.openBlock (assembled : Assembled aim plainly paired closes assembly)
    {opening : α} (fits : ∀ closing, closes closing → paired opening closing) :
    Assembled aim plainly paired closes (assembly.openBlock opening) := by
  obtain ⟨frames, inner, rfl⟩ := assembled
  exact ⟨.inside frames opening .done, ⟨inner, fits, trivial⟩, rfl⟩

/-- Closing the innermost block makes a block of it. -/
theorem Assembled.closeBlock (assembled : Assembled aim plainly paired closes assembly)
    {closing : α} (fits : closes closing) {next : Assembly α}
    (closed : assembly.closeBlock aim closing = some next) :
    Assembled aim plainly paired closes next := by
  obtain ⟨frames, inner, rfl⟩ := assembled
  cases frames with
  | outermost script => cases closed
  | inside outer opening script =>
      have laid :=
        Assembly.closeBlock_layout aim (outer.code aim) (outer.pending aim) opening script closing
      obtain rfl := Option.some.inj (laid.symm.trans closed)
      have extended := outer.code_extend aim (.block opening script closing .done)
      refine ⟨outer.extend (.block opening script closing .done),
        inner.1.extend ⟨inner.2.1 closing fits, inner.2.2, trivial⟩, ?_⟩
      rw [extended, Frames.pending_extend]

/-- With no block left open the code is the layout of a script. -/
theorem Assembled.exists_script (assembled : Assembled aim plainly paired closes assembly)
    (closed : assembly.pending = []) :
    ∃ script : Script α, script.All plainly paired ∧ assembly.code = script.layout aim 0 := by
  obtain ⟨frames, inner, rfl⟩ := assembled
  cases frames with
  | outermost script => exact ⟨script, inner, rfl⟩
  | inside outer opening script => cases closed

/-- A block that is left open stands in the code as it was opened. -/
theorem Assembled.exists_open (assembled : Assembled aim plainly paired closes assembly)
    (left : assembly.pending ≠ []) :
    ∃ opening ∈ assembly.code, ∀ closing, closes closing → paired opening closing := by
  obtain ⟨frames, inner, rfl⟩ := assembled
  cases frames with
  | outermost script => exact absurd rfl left
  | inside outer opening script =>
      exact ⟨opening, List.mem_append_right _ List.mem_cons_self, inner.2.1⟩

end Steps

end DescargaP2P.Blocks
