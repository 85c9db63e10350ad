import DescargaP2P.Crow.Meaning

/-!
# Written templates

A template is written as a tree of texts, tags and sections.  The parser gives the tree
back: a fragment for each text, and the actions of the tags in the layout of its sections.
Of the names it is only asked that they can be told from what stands around them.
-/

namespace DescargaP2P.Crow.Mustache

open DescargaP2P.Blocks
open DescargaP2P.Text
open DescargaP2P.Transition

/-! ## Trees -/

def opening : Bytes := ascii "\x7b\x7b"

def closing : Bytes := ascii "\x7d\x7d"

/-- The kinds of a tag that is no section. -/
inductive Mark
  | escaped
  | triple
  | unescaped
  | comment
  | inclusion
  deriving DecidableEq, Repr

namespace Mark

/-- What stands before the name. -/
def sigil : Mark → Bytes
  | escaped => []
  | triple => [123]
  | unescaped => [38]
  | comment => [33]
  | inclusion => [62]

/-- What stands after the closing delimiter. -/
def trailing : Mark → Bytes
  | triple => [125]
  | _ => []

def t : Mark → ActionType
  | escaped => .Tag
  | triple => .UnescapeTag
  | unescaped => .UnescapeTag
  | comment => .Ignore
  | inclusion => .Partial

end Mark

/-- The template, ended by the text after its last tag. -/
inductive Tree
  | last (text : Bytes)
  | tag (text : Bytes) (mark : Mark) (name : Bytes) (rest : Tree)
  | block (text : Bytes) (inverts : Bool) (name : Bytes) (body rest : Tree)
  deriving DecidableEq, Repr

def sectionSigil (inverts : Bool) : UInt8 := if inverts then 94 else 35

def sectionType (inverts : Bool) : ActionType := if inverts then .ElseBlock else .OpenBlock

/-- A tag with its delimiters. -/
def delimited (content : Bytes) : Bytes := opening ++ content ++ closing

namespace Tree

def print : Tree → Bytes
  | last text => text
  | tag text mark name rest =>
      text ++ delimited (mark.sigil ++ name) ++ mark.trailing ++ rest.print
  | block text inverts name body rest =>
      text ++ delimited (sectionSigil inverts :: name) ++ body.print ++ delimited (47 :: name) ++
        rest.print

/-- Number of tags. -/
def tags : Tree → Nat
  | last _ => 0
  | tag _ _ _ rest => rest.tags + 1
  | block _ _ _ body rest => rest.tags + 1 + body.tags + 1

/-- The text after the last tag. -/
def lastText : Tree → Bytes
  | last text => text
  | tag _ _ _ rest => rest.lastText
  | block _ _ _ _ rest => rest.lastText

end Tree

/-- Where a tag ends whose delimiter opens at a position. -/
def afterTag (pos : Nat) (content : Bytes) : Nat := pos + 2 + content.length + 2

def Mark.action (mark : Mark) (name : Bytes) (pos : Nat) : Action :=
  ⟨mark.t, pos + 2 + mark.sigil.length, pos + 2 + mark.sigil.length + name.length, 0⟩

/-- An action with one symbol before its name. -/
def sectionAction (t : ActionType) (name : Bytes) (pos : Nat) : Action :=
  ⟨t, pos + 2 + 1, pos + 2 + 1 + name.length, 0⟩

namespace Tree

/-- Where the last text begins, in a tree that begins at a position. -/
def lastStart : Nat → Tree → Nat
  | pos, last _ => pos
  | pos, tag text mark name rest =>
      rest.lastStart (afterTag (pos + text.length) (mark.sigil ++ name) + mark.trailing.length)
  | pos, block text inverts name body rest =>
      let inner := afterTag (pos + text.length) (sectionSigil inverts :: name)
      rest.lastStart (afterTag (body.lastStart inner + body.lastText.length) (47 :: name))

/-- The fragments before the tags. -/
def cuts : Nat → Tree → List (Nat × Nat)
  | _, last _ => []
  | pos, tag text mark name rest =>
      (pos, pos + text.length) ::
        rest.cuts (afterTag (pos + text.length) (mark.sigil ++ name) + mark.trailing.length)
  | pos, block text inverts name body rest =>
      let inner := afterTag (pos + text.length) (sectionSigil inverts :: name)
      let stop := body.lastStart inner + body.lastText.length
      (pos, pos + text.length) :: (body.cuts inner ++
        (body.lastStart inner, stop) :: rest.cuts (afterTag stop (47 :: name)))

/-- The actions of the tags. -/
def script : Nat → Tree → Script Action
  | _, last _ => .done
  | pos, tag text mark name rest =>
      .plain (mark.action name (pos + text.length))
        (rest.script (afterTag (pos + text.length) (mark.sigil ++ name) + mark.trailing.length))
  | pos, block text inverts name body rest =>
      let inner := afterTag (pos + text.length) (sectionSigil inverts :: name)
      let stop := body.lastStart inner + body.lastText.length
      .block (sectionAction (sectionType inverts) name (pos + text.length)) (body.script inner)
        (sectionAction .CloseBlock name stop) (rest.script (afterTag stop (47 :: name)))

/-- What the parser makes of the printed tree before it looks for standalone tags. -/
def template (tree : Tree) : Template where
  body := tree.print
  fragments := tree.cuts 0 ++ [(tree.lastStart 0, tree.print.length)]
  actions := (tree.script 0).layout Action.aim 0 ++ [⟨.Ignore, 0, 0, 0⟩]

end Tree

/-- A name that is read as it is written. -/
structure Legible (name : Bytes) : Prop where
  nonempty : name ≠ []
  apart : Text.Apart closing name
  head : name.head? ≠ some 32
  last : name.getLast? ≠ some 32

/-- The symbols that make another tag of a name. -/
def sigils : Bytes := ascii "#/^!>\x7b&="

def Mark.Fits (name : Bytes) : Mark → Prop
  | escaped => Legible name ∧ ∀ byte ∈ name.head?, byte ∉ sigils
  | comment => Text.Apart closing name
  | _ => Legible name

namespace Tree

/-- No text is taken for a tag, and no name for another. -/
def Valid : Tree → Prop
  | last text => Text.Apart opening text
  | tag text mark name rest => Text.Apart opening text ∧ mark.Fits name ∧ rest.Valid
  | block text _ name body rest =>
      Text.Apart opening text ∧ Legible name ∧ body.Valid ∧ rest.Valid

theorem Valid.lastText {tree : Tree} (valid : tree.Valid) : Text.Apart opening tree.lastText := by
  induction tree with
  | last text => exact valid
  | tag text mark name rest ih => exact ih valid.2.2
  | block text inverts name body rest _ ih => exact ih valid.2.2.2

end Tree

/-! ## Reading at a position -/

section Reading

variable {body rest name : Bytes} {pos : Nat} {byte : UInt8}

theorem drop_of_append (at_ : body.drop pos = name ++ rest) :
    body.drop (pos + name.length) = rest := by
  rw [← List.drop_drop, at_, List.drop_left]

theorem drop_succ (at_ : body.drop pos = byte :: rest) : body.drop (pos + 1) = rest := by
  rw [← List.drop_drop, at_, List.drop_succ_cons, List.drop_zero]

theorem byteAt_of_drop (at_ : body.drop pos = byte :: rest) : byteAt body pos = byte := by
  have here := congrArg (fun text => text[0]?) at_
  rw [List.getElem?_drop, Nat.add_zero, List.getElem?_cons_zero] at here
  rw [byteAt, List.getD_eq_getElem?_getD, here]
  rfl

theorem skipSpaces_of_drop (at_ : body.drop pos = name ++ rest) (nonempty : name ≠ [])
    (other : name.head? ≠ some 32) : skipSpaces body pos = pos := by
  cases name with
  | nil => exact absurd rfl nonempty
  | cons first name =>
      have differs : (first == 32) = false := by simpa using other
      rw [skipSpaces, at_, List.cons_append, List.takeWhile_cons, differs]
      rfl

theorem trimSpaces_of_drop (at_ : body.drop pos = name ++ rest) (nonempty : name ≠ [])
    (other : name.getLast? ≠ some 32) :
    trimSpaces body (pos + name.length) = pos + name.length := by
  have taken : body.take (pos + name.length) = body.take pos ++ name := by
    rw [List.take_add, at_, List.take_left]
  rw [trimSpaces, taken, List.reverse_append]
  cases turned : name.reverse with
  | nil => exact absurd (List.reverse_eq_nil_iff.mp turned) nonempty
  | cons final front =>
      have ends : name.getLast? = some final := by
        rw [← List.head?_reverse, turned, List.head?_cons]
      have differs : (final == 32) = false := by
        rw [ends] at other
        simpa using other
      rw [List.cons_append, List.takeWhile_cons, differs]
      rfl

theorem textBetween_of_drop (at_ : body.drop pos = name ++ rest) :
    textBetween body pos (pos + name.length) = name := by
  rw [textBetween, if_neg (by omega), at_, Nat.add_sub_cancel_left, List.take_left]

/-- The name after one symbol. -/
theorem named_of_drop (legible : Legible name) (at_ : body.drop pos = byte :: (name ++ rest)) :
    byteAt body pos = byte ∧ skipSpaces body (pos + 1) = pos + 1 ∧
      trimSpaces body (pos + (byte :: name).length) = pos + 1 + name.length := by
  have after : body.drop (pos + 1) = name ++ rest := drop_succ at_
  have same : pos + (byte :: name).length = pos + 1 + name.length := by
    rw [List.length_cons]
    omega
  rw [same]
  exact ⟨byteAt_of_drop at_, skipSpaces_of_drop after legible.nonempty legible.head,
    trimSpaces_of_drop after legible.nonempty legible.last⟩

end Reading

/-! ## One tag -/

section Tags

variable {body rest name : Bytes} {parsing : Parsing} {pos : Nat}

theorem parseTag_section (inverts : Bool) (defaults : parsing.tagClose = closing)
    (legible : Legible name)
    (at_ : body.drop (pos + 2) = sectionSigil inverts :: (name ++ rest)) :
    parseTag body parsing (pos + 2) (pos + 2 + (sectionSigil inverts :: name).length) =
      .ok { parsing with
        current := afterTag pos (sectionSigil inverts :: name)
        blocks := parsing.blocks.openBlock (sectionAction (sectionType inverts) name pos) } := by
  obtain ⟨mark, start, stop⟩ := named_of_drop legible at_
  unfold parseTag
  simp only [mark, start, stop, defaults]
  cases inverts with
  | false => rfl
  | true => rfl

theorem parseTag_mark {mark : Mark} (fits : mark.Fits name) (opens : parsing.tagOpen = opening)
    (closes : parsing.tagClose = closing)
    (at_ : body.drop (pos + 2) =
      (mark.sigil ++ name) ++ (closing ++ (mark.trailing ++ rest))) :
    parseTag body parsing (pos + 2) (pos + 2 + (mark.sigil ++ name).length) =
      .ok { parsing with
        current := afterTag pos (mark.sigil ++ name) + mark.trailing.length
        blocks := parsing.blocks.emit (mark.action name pos) } := by
  cases mark with
  | escaped =>
      obtain ⟨legible, foreign⟩ := fits
      have start := skipSpaces_of_drop at_ legible.nonempty legible.head
      have stop := trimSpaces_of_drop at_ legible.nonempty legible.last
      cases name with
      | nil => exact absurd rfl legible.nonempty
      | cons first name =>
          have mark := byteAt_of_drop at_
          have other : first ∉ sigils := foreign first rfl
          have differs : first ≠ 35 ∧ first ≠ 47 ∧ first ≠ 94 ∧ first ≠ 33 ∧ first ≠ 62 ∧
              first ≠ 123 ∧ first ≠ 38 ∧ first ≠ 61 := by
            simpa [sigils, ascii] using other
          obtain ⟨hash, slash, caret, bang, greater, brace, ampersand, equals⟩ := differs
          unfold parseTag
          simp only [Mark.sigil, List.nil_append] at start stop ⊢
          simp only [mark, start, stop, closes, hash, slash, caret, bang, greater, brace,
            ampersand, equals, if_false]
          rfl
  | triple =>
      obtain ⟨mark, start, stop⟩ := named_of_drop fits at_
      have after : byteAt body (pos + 2 + (123 :: name).length + 2) = 125 := by
        have behind := drop_of_append (drop_of_append at_)
        exact byteAt_of_drop behind
      unfold parseTag
      simp only [Mark.sigil, List.singleton_append, mark, start, stop, closes, opens, after]
      rfl
  | unescaped =>
      obtain ⟨mark, start, stop⟩ := named_of_drop fits at_
      unfold parseTag
      simp only [Mark.sigil, List.singleton_append, mark, start, stop, closes]
      rfl
  | comment =>
      have mark := byteAt_of_drop (show body.drop (pos + 2) = 33 :: _ from at_)
      unfold parseTag
      have same : pos + 2 + (name.length + 1) = pos + 2 + 1 + name.length := by omega
      simp only [mark, closes]
      simp [Mark.sigil, Mark.action, Mark.t, Mark.trailing, afterTag, same, closing, ascii]
  | inclusion =>
      obtain ⟨mark, start, stop⟩ := named_of_drop fits at_
      unfold parseTag
      simp only [Mark.sigil, List.singleton_append, mark, start, stop, closes]
      rfl

/-- The tag that closes the section of the same name. -/
theorem parseTag_close (defaults : parsing.tagClose = closing) (legible : Legible name)
    (at_ : body.drop (pos + 2) = 47 :: (name ++ rest)) {matched : Nat} {pending : List Nat}
    {opened : Action} {next : Assembly Action}
    (innermost : parsing.blocks.pending = matched :: pending)
    (found : parsing.blocks.code[matched]? = some opened)
    (same : textBetween body opened.start opened.stop = name)
    (closed : parsing.blocks.closeBlock Action.aim (sectionAction .CloseBlock name pos) =
      some next) :
    parseTag body parsing (pos + 2) (pos + 2 + (47 :: name).length) =
      .ok { parsing with current := afterTag pos (47 :: name), blocks := next } := by
  obtain ⟨mark, start, stop⟩ := named_of_drop legible at_
  have after : body.drop (pos + 2 + 1) = name ++ rest := drop_succ at_
  have section_ : closeSection body parsing.blocks (pos + 2 + 1) (pos + 2 + 1 + name.length) =
      .ok next := by
    have first : (parsing.blocks.pending.head?.bind fun matched => parsing.blocks.code[matched]?) =
        some opened := by
      rw [innermost]
      exact found
    rw [closeSection, first]
    simp only [textBetween_of_drop after, same, ne_eq, not_true_eq_false, if_false]
    rw [show parsing.blocks.closeBlock Action.aim ⟨.CloseBlock, pos + 2 + 1,
      pos + 2 + 1 + name.length, 0⟩ = some next from closed]
  unfold parseTag
  simp only [mark, start, stop, defaults, section_]
  rfl

/-- The next tag after a text. -/
theorem parseLoop_tag {text content : Bytes} (opens : parsing.tagOpen = opening)
    (closes : parsing.tagClose = closing)
    (at_ : body.drop parsing.current = text ++ (delimited content ++ rest))
    (clear : Text.Apart opening text) (apart : Text.Apart closing content) (nonempty : content ≠ [])
    {next : Parsing}
    (parsed : parseTag body { parsing with
        fragments := parsing.fragments ++ [(parsing.current, parsing.current + text.length)] }
      (parsing.current + text.length + 2) (parsing.current + text.length + 2 + content.length) =
        .ok next) (fuel : Nat) :
    parseLoop body (fuel + 1) parsing = parseLoop body fuel next := by
  have shape : delimited content ++ rest = opening ++ (content ++ (closing ++ rest)) := by
    simp only [delimited, List.append_assoc]
  have first : findFrom body parsing.tagOpen parsing.current =
      some (parsing.current + text.length) := by
    rw [findFrom, opens, at_, shape, clear.findSub_append, findSub_self_append]
    rfl
  have inner : body.drop (parsing.current + text.length + 2) = content ++ (closing ++ rest) := by
    have behind := drop_of_append at_
    rw [shape] at behind
    exact drop_of_append behind
  have second : findFrom body parsing.tagClose (parsing.current + text.length + 2) =
      some (parsing.current + text.length + 2 + content.length) := by
    rw [findFrom, closes, inner, apart.findSub_append, findSub_self_append]
    rfl
  have length : parsing.tagOpen.length = 2 := by
    rw [opens]
    rfl
  have longer : parsing.current + text.length + 2 + content.length ≠
      parsing.current + text.length + 2 := by
    have positive := List.length_pos_iff.mpr nonempty
    omega
  simp only [parseLoop, first, length, second, longer, if_false, parsed]

end Tags

/-! ## Trees -/

theorem drop_afterTag {body rest content : Bytes} {pos : Nat}
    (at_ : body.drop pos = delimited content ++ rest) :
    body.drop (afterTag pos content) = rest := by
  have same : afterTag pos content = pos + (delimited content).length := by
    have two : opening.length = 2 ∧ closing.length = 2 := ⟨rfl, rfl⟩
    rw [afterTag, delimited, List.length_append, List.length_append, two.1, two.2]
    omega
  rw [same]
  exact drop_of_append at_

theorem drop_content {body rest content : Bytes} {pos : Nat}
    (at_ : body.drop pos = delimited content ++ rest) :
    body.drop (pos + 2) = content ++ (closing ++ rest) := by
  rw [delimited, List.append_assoc, List.append_assoc] at at_
  exact drop_of_append at_

theorem foreign_of_ne {symbol : UInt8} (other : symbol ≠ 125) : symbol ∉ closing := by
  simpa [closing, ascii] using other

theorem Mark.Fits.apart {mark : Mark} {name : Bytes} (fits : mark.Fits name) :
    Text.Apart closing (mark.sigil ++ name) := by
  cases mark with
  | escaped => exact fits.1.apart
  | triple => exact (Legible.apart fits).cons (foreign_of_ne (by decide))
  | unescaped => exact (Legible.apart fits).cons (foreign_of_ne (by decide))
  | comment => exact Text.Apart.cons fits (foreign_of_ne (by decide))
  | inclusion => exact (Legible.apart fits).cons (foreign_of_ne (by decide))

theorem Mark.Fits.nonempty {mark : Mark} {name : Bytes} (fits : mark.Fits name) :
    mark.sigil ++ name ≠ [] := by
  cases mark with
  | escaped => exact fits.1.nonempty
  | triple => exact List.cons_ne_nil _ _
  | unescaped => exact List.cons_ne_nil _ _
  | comment => exact List.cons_ne_nil _ _
  | inclusion => exact List.cons_ne_nil _ _

theorem apart_section (inverts : Bool) {name : Bytes} (legible : Legible name) :
    Text.Apart closing (sectionSigil inverts :: name) := by
  cases inverts with
  | false => exact legible.apart.cons (foreign_of_ne (by decide))
  | true => exact legible.apart.cons (foreign_of_ne (by decide))

namespace Tree

theorem drop_lastStart {tree : Tree} {body rest : Bytes} {pos : Nat}
    (at_ : body.drop pos = tree.print ++ rest) :
    body.drop (tree.lastStart pos) = tree.lastText ++ rest := by
  induction tree generalizing pos rest with
  | last text => exact at_
  | tag text mark name more ih =>
      simp only [print, List.append_assoc] at at_
      exact ih (drop_of_append (drop_afterTag (drop_of_append at_)))
  | block text inverts name body more body_ih ih =>
      simp only [print, List.append_assoc] at at_
      have inside := body_ih (drop_afterTag (drop_of_append at_))
      exact ih (drop_afterTag (drop_of_append inside))

end Tree

/-- The parser after the tags of a tree, before its last text. -/
def Parsing.after (parsing : Parsing) (tree : Tree) : Parsing :=
  { parsing with
    current := tree.lastStart parsing.current
    fragments := parsing.fragments ++ tree.cuts parsing.current
    blocks :=
      { code := parsing.blocks.code ++
          (tree.script parsing.current).layout Action.aim parsing.blocks.code.length
        pending := parsing.blocks.pending } }

/-- The parser after the opening tag of a section. -/
def Parsing.enter (parsing : Parsing) (text : Bytes) (inverts : Bool) (name : Bytes) : Parsing :=
  let pos := parsing.current + text.length
  { parsing with
    current := afterTag pos (sectionSigil inverts :: name)
    fragments := parsing.fragments ++ [(parsing.current, pos)]
    blocks := parsing.blocks.openBlock (sectionAction (sectionType inverts) name pos) }

/-- The parser after the closing tag of a section. -/
def Parsing.leave (parsing : Parsing) (text : Bytes) (inverts : Bool) (name : Bytes)
    (inside : Tree) : Parsing :=
  let entered := parsing.enter text inverts name
  let passed := entered.after inside
  let stop := passed.current + inside.lastText.length
  let opening := sectionAction (sectionType inverts) name (parsing.current + text.length)
  let script := Script.block opening (inside.script entered.current)
    (sectionAction .CloseBlock name stop) .done
  { passed with
    current := afterTag stop (47 :: name)
    fragments := passed.fragments ++ [(passed.current, stop)]
    blocks :=
      { code := parsing.blocks.code ++ script.layout Action.aim parsing.blocks.code.length
        pending := parsing.blocks.pending } }

section Sections

variable {body rest text name : Bytes} {parsing : Parsing} {inverts : Bool} {inside : Tree}

theorem parseLoop_enter (opens : parsing.tagOpen = opening) (closes : parsing.tagClose = closing)
    (at_ : body.drop parsing.current =
      text ++ (delimited (sectionSigil inverts :: name) ++ rest))
    (clear : Text.Apart opening text) (legible : Legible name) (fuel : Nat) :
    parseLoop body (fuel + 1) parsing =
      parseLoop body fuel (parsing.enter text inverts name) := by
  have content := drop_content (drop_of_append at_)
  exact parseLoop_tag opens closes at_ clear (apart_section inverts legible)
    (List.cons_ne_nil _ _) (parseTag_section inverts closes legible content) fuel

theorem closeBlock_enter (closing : Action) :
    ((parsing.enter text inverts name).after inside).blocks.closeBlock Action.aim closing =
      some
        { code := parsing.blocks.code ++
            (Script.block
              (sectionAction (sectionType inverts) name (parsing.current + text.length))
              (inside.script (parsing.enter text inverts name).current) closing .done).layout
                Action.aim parsing.blocks.code.length
          pending := parsing.blocks.pending } := by
  rw [← Assembly.closeBlock_layout]
  simp [Parsing.enter, Parsing.after, Assembly.openBlock]

/-- The closing tag finds the section of its name innermost. -/
theorem parseLoop_leave (opens : parsing.tagOpen = opening) (closes : parsing.tagClose = closing)
    (at_ : body.drop parsing.current = text ++ (delimited (sectionSigil inverts :: name) ++
      (inside.print ++ (delimited (47 :: name) ++ rest))))
    (valid : inside.Valid) (legible : Legible name) (fuel : Nat) :
    parseLoop body (fuel + 1) ((parsing.enter text inverts name).after inside) =
      parseLoop body fuel (parsing.leave text inverts name inside) := by
  have inner := drop_of_append at_
  let action := sectionAction (sectionType inverts) name (parsing.current + text.length)
  have named : textBetween body action.start action.stop = name := by
    have content := drop_content inner
    rw [List.cons_append] at content
    exact textBetween_of_drop (drop_succ content)
  let passed := (parsing.enter text inverts name).after inside
  have opensPassed : passed.tagOpen = opening := opens
  have ending : body.drop passed.current = _ := Tree.drop_lastStart (drop_afterTag inner)
  have found : passed.blocks.code[parsing.blocks.code.length]? = some action := by
    simp [passed, action, Parsing.enter, Parsing.after, Assembly.openBlock]
  have apart : Text.Apart closing (47 :: name) :=
    legible.apart.cons (foreign_of_ne (by decide))
  let stop := passed.current + inside.lastText.length
  let ready : Parsing := { passed with
    fragments := passed.fragments ++ [(passed.current, stop)] }
  have closesReady : ready.tagClose = closing := closes
  have shut : parseTag body ready (stop + 2) (stop + 2 + (47 :: name).length) =
      .ok (parsing.leave text inverts name inside) :=
    parseTag_close closesReady legible (drop_content (drop_of_append ending)) rfl found named
      (closeBlock_enter _)
  exact parseLoop_tag opensPassed closes ending valid.lastText apart (List.cons_ne_nil _ _) shut
    fuel

theorem leave_after (more : Tree) : (parsing.leave text inverts name inside).after more =
    parsing.after (.block text inverts name inside more) := by
  simp [Parsing.leave, Parsing.enter, Parsing.after, Tree.lastStart, Tree.cuts, Tree.script,
    Script.layout, Nat.add_assoc]

end Sections

/-- One tag of the tree costs one unit of fuel. -/
theorem parseLoop_tree {tree : Tree} (valid : tree.Valid) {body rest : Bytes} {parsing : Parsing}
    (opens : parsing.tagOpen = opening) (closes : parsing.tagClose = closing)
    (at_ : body.drop parsing.current = tree.print ++ rest) (fuel : Nat) :
    parseLoop body (fuel + tree.tags) parsing = parseLoop body fuel (parsing.after tree) := by
  induction tree generalizing parsing rest fuel with
  | last text =>
      simp [Tree.tags, Parsing.after, Tree.lastStart, Tree.cuts, Tree.script, Script.layout]
  | tag text mark name more ih =>
      obtain ⟨clear, fits, others⟩ := valid
      simp only [Tree.print, List.append_assoc] at at_
      have inner := drop_of_append at_
      have later := drop_of_append (drop_afterTag inner)
      let next : Parsing := { parsing with
        current := afterTag (parsing.current + text.length) (mark.sigil ++ name) +
          mark.trailing.length
        fragments := parsing.fragments ++ [(parsing.current, parsing.current + text.length)]
        blocks := parsing.blocks.emit (mark.action name (parsing.current + text.length)) }
      have read : parseTag body { parsing with
          fragments := parsing.fragments ++ [(parsing.current, parsing.current + text.length)] }
          (parsing.current + text.length + 2)
          (parsing.current + text.length + 2 + (mark.sigil ++ name).length) = .ok next :=
        parseTag_mark fits opens closes (drop_content inner)
      have reached : next.after more = parsing.after (.tag text mark name more) := by
        simp [next, Parsing.after, Tree.lastStart, Tree.cuts, Tree.script, Script.layout,
          Assembly.emit]
      have opensNext : next.tagOpen = opening := opens
      have goes := ih others opensNext closes later fuel
      rw [Tree.tags, ← Nat.add_assoc,
        parseLoop_tag opens closes at_ clear fits.apart fits.nonempty read, goes, reached]
  | block text inverts name inside more inside_ih ih =>
      obtain ⟨clear, legible, insideValid, others⟩ := valid
      simp only [Tree.print, List.append_assoc] at at_
      have within := drop_afterTag (drop_of_append at_)
      have later := drop_afterTag (drop_of_append (Tree.drop_lastStart within))
      have enters := parseLoop_enter opens closes at_ clear legible
        (fuel + more.tags + 1 + inside.tags)
      have opensEntered : (parsing.enter text inverts name).tagOpen = opening := opens
      have passes := inside_ih insideValid opensEntered closes within (fuel + more.tags + 1)
      have leaves := parseLoop_leave opens closes at_ insideValid legible (fuel + more.tags)
      have opensLeft : (parsing.leave text inverts name inside).tagOpen = opening := opens
      have goes := ih others opensLeft closes later fuel
      rw [← leave_after, ← goes, ← leaves, ← passes, ← enters, Tree.tags]
      congr 1
      omega

/-- Each tag has its delimiters. -/
theorem Tree.tags_le (tree : Tree) : tree.tags ≤ tree.print.length := by
  have two : opening.length = 2 ∧ closing.length = 2 := ⟨rfl, rfl⟩
  induction tree with
  | last text => exact Nat.zero_le _
  | tag text mark name rest ih =>
      simp only [tags, print, delimited, List.length_append, two]
      omega
  | block text inverts name body rest body_ih ih =>
      simp only [tags, print, delimited, List.length_append, two]
      omega

/-- The parser reads the printed tree, and then looks for the tags that stand alone. -/
theorem parse_print {tree : Tree} (valid : tree.Valid) :
    parse tree.print = .ok (removeStandalones (tree.script 0).size tree.template) := by
  have start : tree.print.drop ({} : Parsing).current = tree.print ++ [] :=
    (List.append_nil _).symm
  let parsing := ({} : Parsing).after tree
  have absent : findFrom tree.print parsing.tagOpen parsing.current = none := by
    have ending : tree.print.drop parsing.current = tree.lastText ++ [] :=
      Tree.drop_lastStart start
    have nowhere : findSub parsing.tagOpen tree.lastText = none :=
      findSub_eq_none_iff.mpr valid.lastText.1
    rw [findFrom, ending, List.append_nil, nowhere, Option.map_none]
  obtain ⟨fuel, enough⟩ := Nat.exists_eq_add_of_le (Nat.succ_le_succ tree.tags_le)
  have same : tree.print.length + 1 = fuel + 1 + tree.tags := by omega
  have read : parseLoop tree.print (fuel + 1 + tree.tags) {} =
      some (.ok (parsing.finish tree.print)) := by
    rw [parseLoop_tree valid rfl rfl start, parseLoop, absent]
    rfl
  have code : parsing.blocks.code = (tree.script 0).layout Action.aim 0 := List.nil_append _
  rw [parse, same, read]
  simp [Parsing.finish, Assembly.emit, code, Tree.template]
  simp [parsing, Parsing.after]

end DescargaP2P.Crow.Mustache
