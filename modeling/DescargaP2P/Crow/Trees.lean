import DescargaP2P.Crow.Printing

/-!
# The text of a written template

The text of a template by the tree it was written from, without positions.  It is what the
renderer appends for the printed tree, when no tag stands alone on its line.
-/

namespace DescargaP2P.Crow.Mustache

open DescargaP2P.Blocks
open DescargaP2P.Text
open DescargaP2P.Transition

/-! ## The text of a tree -/

/-- The text of a tag that is no section. -/
def Mark.shows (sub : Bytes → Nat → Stack → Except Failure Bytes) (name : Bytes)
    (inside : Bool) (stack : Stack) : Mark → Except Failure Bytes
  | comment => .ok []
  | inclusion => sub name 0 stack
  | mark => do
      let ctx ← findContext name stack (stack.head?.any Value.isObject && inside)
      tagText (mark == escaped) (ctx.getD (.string []))

/-- What the search for an enclosing section answers inside a section. -/
def enclosed (inverts : Bool) (inside : Nat → Bool) (openedBlock : Nat) : Bool :=
  if inverts then inside openedBlock else openedBlock == 0 || inside (openedBlock - 1)

namespace Tree

/-- Number of inverted sections. -/
def inverted : Tree → Nat
  | last _ => 0
  | tag _ _ _ rest => rest.inverted
  | block _ inverts _ body rest => body.inverted + rest.inverted + inverts.toNat

/-- The text of a template that is shown without indentation. -/
def shows (sub : Bytes → Nat → Stack → Except Failure Bytes) :
    Tree → (inside : Nat → Bool) → Stack → Except Failure Bytes
  | last text, _, _ => .ok text
  | tag text mark name rest, inside, stack => do
      let here ← mark.shows sub name (inside 0) stack
      let later ← rest.shows sub inside stack
      .ok (text ++ here ++ later)
  | block text inverts name body rest, inside, stack => do
      let ctx ← findContext name stack false
      let here ← sectionText (fun view => body.shows sub (enclosed inverts inside) (view :: stack))
        0 (sectionShown (sectionType inverts) ctx)
      let later ← rest.shows sub
        (fun openedBlock => inside (openedBlock + (body.inverted + inverts.toNat))) stack
      .ok (text ++ here ++ later)

end Tree

/-! ## Positions of a printed tree -/

namespace Tree

theorem length_cuts (tree : Tree) (pos : Nat) :
    (tree.cuts pos).length = (tree.script pos).size := by
  induction tree generalizing pos with
  | last text => rfl
  | tag text mark name rest ih => rw [cuts, script, List.length_cons, ih, Script.size]
  | block text inverts name body rest body_ih ih =>
      rw [cuts, script, List.length_cons, List.length_append, List.length_cons, body_ih, ih,
        Script.size]
      omega

theorem lastStart_add (tree : Tree) (pos : Nat) :
    tree.lastStart pos + tree.lastText.length = pos + tree.print.length := by
  have two : opening.length = 2 ∧ closing.length = 2 := ⟨rfl, rfl⟩
  induction tree generalizing pos with
  | last text => rfl
  | tag text mark name rest ih =>
      simp only [lastStart, lastText, print, ih, afterTag, delimited, List.length_append, two]
      omega
  | block text inverts name body rest body_ih ih =>
      simp only [lastStart, lastText, print, ih, body_ih, afterTag, delimited,
        List.length_append, two]
      omega

theorem inverted_script (tree : Tree) (pos : Nat) :
    Mustache.inverted (tree.script pos) = tree.inverted := by
  induction tree generalizing pos with
  | last text => rfl
  | tag text mark name rest ih => exact ih _
  | block text inverts name body rest body_ih ih =>
      rw [script, Mustache.inverted, body_ih, ih, inverted]
      cases inverts with
      | false => rfl
      | true => rfl

theorem all_script (tree : Tree) (pos : Nat) : (tree.script pos).All Plain Paired := by
  induction tree generalizing pos with
  | last text => trivial
  | tag text mark name rest ih =>
      refine ⟨?_, ih _⟩
      cases mark with
      | escaped => exact ⟨nofun, nofun, nofun⟩
      | triple => exact ⟨nofun, nofun, nofun⟩
      | unescaped => exact ⟨nofun, nofun, nofun⟩
      | comment => exact ⟨nofun, nofun, nofun⟩
      | inclusion => exact ⟨nofun, nofun, nofun⟩
  | block text inverts name body rest body_ih ih =>
      refine ⟨⟨?_, rfl, rfl⟩, body_ih _, ih _⟩
      cases inverts with
      | false => exact .inl rfl
      | true => exact .inr rfl

theorem laid_template (tree : Tree) : Laid tree.template (tree.script 0) where
  all := tree.all_script 0
  actions := rfl
  fragments := by
    rw [template, List.length_append, List.length_append, length_cuts, Script.length_layout]
    rfl

end Tree

theorem within_section (inverts : Bool) (name : Bytes) (pos : Nat) (inside : Nat → Bool) :
    within (sectionAction (sectionType inverts) name pos) inside = enclosed inverts inside := by
  cases inverts with
  | false => rfl
  | true => rfl

/-! ## What a template shows of its tree -/

section Shown

variable {template : Template} {sub : Bytes → Nat → Stack → Except Failure Bytes}
  {text name rest : Bytes} {pos : Nat}

theorem fragment_of_drop {front back : List (Nat × Nat)}
    (cut : template.fragments = front ++ (pos, pos + text.length) :: back)
    (at_ : template.body.drop pos = text ++ rest) : template.fragment front.length 0 = text := by
  have here : template.fragments.getD front.length (0, 0) = (pos, pos + text.length) := by
    rw [cut, List.getD_eq_getElem?_getD, List.getElem?_append_right (Nat.le_refl _), Nat.sub_self]
    rfl
  rw [Template.fragment, here]
  exact textBetween_of_drop at_

theorem plainText_mark (mark : Mark)
    (at_ : template.body.drop (pos + 2 + mark.sigil.length) = name ++ rest) (inside : Bool)
    (stack : Stack) :
    plainText sub template 0 (mark.action name pos) inside stack =
      mark.shows sub name inside stack := by
  have named : template.tagName (mark.action name pos) = name := textBetween_of_drop at_
  unfold plainText
  rw [named]
  cases mark with
  | escaped => rfl
  | triple => rfl
  | unescaped => rfl
  | comment => rfl
  | inclusion => rfl

theorem map_append_last (here later : Except Failure Bytes) (last : Bytes) :
    (do let here ← here
        let later ← later
        .ok (text ++ here ++ later) : Except Failure Bytes).map (· ++ last) =
      (do let here ← here
          let later ← later.map (· ++ last)
          .ok (text ++ here ++ later)) := by
  cases here with
  | error failure => rfl
  | ok here =>
      cases later with
      | error failure => rfl
      | ok later => exact congrArg Except.ok (List.append_assoc _ later last)

/-- The text of a script with the fragment behind it. -/
def shownScript (sub : Bytes → Nat → Stack → Except Failure Bytes) (template : Template)
    (script : Script Action) (start : Nat) (inside : Nat → Bool) (stack : Stack) :
    Except Failure Bytes :=
  (evaluate sub template 0 script start inside stack).map
    (· ++ template.fragment (start + script.size) 0)

theorem shownScript_plain (action : Action) (script : Script Action) (start : Nat)
    (inside : Nat → Bool) (stack : Stack) :
    shownScript sub template (.plain action script) start inside stack = (do
      let here ← plainText sub template 0 action (inside 0) stack
      let later ← shownScript sub template script (start + 1) inside stack
      .ok (template.fragment start 0 ++ here ++ later)) := by
  have size : start + (script.size + 1) = start + 1 + script.size := by omega
  rw [shownScript, evaluate, map_append_last, Script.size, size]
  rfl

theorem shownScript_block (opening : Action) (body : Script Action) (closing : Action)
    (script : Script Action) (start : Nat) (inside : Nat → Bool) (stack : Stack) :
    shownScript sub template (.block opening body closing script) start inside stack = (do
      let ctx ← findContext (template.tagName opening) stack false
      let here ← sectionText (fun view =>
          shownScript sub template body (start + 1) (within opening inside) (view :: stack)) 0
        (sectionShown opening.t ctx)
      let later ← shownScript sub template script (start + body.size + 2)
        (fun openedBlock => inside (openedBlock + inverted (.block opening body closing .done)))
        stack
      .ok (template.fragment start 0 ++ here ++ later)) := by
  have size : start + (body.size + script.size + 2) = start + body.size + 2 + script.size := by
    omega
  have inner : start + body.size + 1 = start + 1 + body.size := by omega
  cases searched : findContext (template.tagName opening) stack false with
  | error failure =>
      rw [shownScript, evaluate, searched]
      rfl
  | ok ctx =>
      rw [shownScript, evaluate, bind_of_ok searched, bind_of_ok rfl, map_append_last, Script.size,
        size, inner]
      rfl

/-- The script of a tree shows what the tree does. -/
theorem shownScript_tree {tree : Tree} {front back : List (Nat × Nat)}
    (at_ : template.body.drop pos = tree.print ++ rest)
    (cut : template.fragments = front ++ (tree.cuts pos ++
      (tree.lastStart pos, tree.lastStart pos + tree.lastText.length) :: back))
    (inside : Nat → Bool) (stack : Stack) :
    shownScript sub template (tree.script pos) front.length inside stack =
      tree.shows sub inside stack := by
  induction tree generalizing pos rest front back inside stack with
  | last text => exact congrArg Except.ok (fragment_of_drop cut at_)
  | tag text mark name more ih =>
      simp only [Tree.print, List.append_assoc] at at_
      have inner := drop_of_append at_
      have content := drop_content inner
      rw [List.append_assoc] at content
      let next := afterTag (pos + text.length) (mark.sigil ++ name) + mark.trailing.length
      have cutNext : template.fragments = (front ++ [(pos, pos + text.length)]) ++
          (more.cuts next ++ (more.lastStart next, more.lastStart next + more.lastText.length) ::
            back) := by
        rw [cut, List.append_assoc]
        rfl
      have others := ih (drop_of_append (drop_afterTag inner)) cutNext inside stack
      rw [List.length_append, List.length_singleton] at others
      rw [Tree.shows, Tree.script, shownScript_plain, plainText_mark mark (drop_of_append content),
        fragment_of_drop cut at_, others]
  | block text inverts name body more body_ih ih =>
      simp only [Tree.print, List.append_assoc] at at_
      have inner := drop_of_append at_
      have content := drop_content inner
      rw [List.cons_append] at content
      have named : template.tagName (sectionAction (sectionType inverts) name (pos + text.length)) =
          name := textBetween_of_drop (drop_succ content)
      let start := afterTag (pos + text.length) (sectionSigil inverts :: name)
      have bodyAt : template.body.drop start = _ := drop_afterTag inner
      have ending := Tree.drop_lastStart bodyAt
      let stop := body.lastStart start + body.lastText.length
      let next := afterTag stop (47 :: name)
      let after := (more.cuts next ++
        (more.lastStart next, more.lastStart next + more.lastText.length) :: back)
      have cutBody : template.fragments = (front ++ [(pos, pos + text.length)]) ++
          (body.cuts start ++ (body.lastStart start, stop) :: after) := by
        rw [cut, Tree.cuts, List.append_assoc, List.cons_append, List.append_assoc]
        rfl
      have cutNext : template.fragments = (front ++ [(pos, pos + text.length)] ++ body.cuts start ++
          [(body.lastStart start, stop)]) ++ after := by
        rw [cutBody]
        simp only [List.append_assoc, List.cons_append, List.nil_append]
      have inSection := body_ih bodyAt cutBody
      have nextAt : template.body.drop next = _ := drop_afterTag (drop_of_append ending)
      have others := ih nextAt cutNext
      simp only [List.length_append, List.length_singleton, Tree.length_cuts] at inSection others
      have positions : front.length + 1 + (body.script start).size + 1 =
          front.length + (body.script start).size + 2 := by omega
      rw [positions] at others
      let opening := sectionAction (sectionType inverts) name (pos + text.length)
      let closing := sectionAction .CloseBlock name stop
      have scripts : (Tree.block text inverts name body more).script pos =
          .block opening (body.script start) closing (more.script next) := rfl
      have hides : Mustache.inverted (.block opening (body.script start) closing .done) =
          body.inverted + inverts.toNat :=
        Tree.inverted_script (.block text inverts name body (.last [])) pos
      have inside_ : within opening inside = enclosed inverts inside := within_section _ _ _ _
      rw [Tree.shows, scripts, shownScript_block, named, fragment_of_drop cut at_]
      simp only [inside_, inSection, hides, others]
      rfl

theorem meaning_template (tree : Tree) (stack : Stack) :
    meaning sub tree.template (tree.script 0) 0 stack = tree.shows sub (fun _ => false) stack := by
  have at_ : tree.template.body.drop 0 = tree.print ++ [] := (List.append_nil _).symm
  have stop : tree.print.length = tree.lastStart 0 + tree.lastText.length := by
    rw [tree.lastStart_add, Nat.zero_add]
  have cut : tree.template.fragments = [] ++ (tree.cuts 0 ++
      (tree.lastStart 0, tree.lastStart 0 + tree.lastText.length) :: []) := by
    rw [← stop]
    rfl
  have count : tree.template.fragments.length - 1 = 0 + (tree.script 0).size := by
    rw [Tree.template, List.length_append, Tree.length_cuts, Nat.zero_add]
    rfl
  rw [← shownScript_tree at_ cut, meaning, count]
  rfl

end Shown

/-! ## Rendering -/

/-- A template none of whose tags stands alone is not changed. -/
theorem removeStandalones_eq_self {template : Template} {n : Nat}
    (inline : ∀ i < n, standalone i template = none) : removeStandalones n template = template := by
  induction n with
  | zero => rfl
  | succ n ih =>
      have here : removeStandalone n template = template := by
        rw [removeStandalone, inline n (Nat.lt_succ_self n)]
      rw [removeStandalones, here]
      exact ih fun i before => inline i (Nat.lt_succ_of_lt before)

/-- The printed tree is parsed, and renders to the text of the tree, when no tag stands
alone.  A partial shows the meaning of its template. -/
theorem render_print {loader : Bytes → Bytes} {rank : Bytes → Nat}
    (closed : ∀ name included, load loader name = .ok included → included.Closed)
    (acyclic : Acyclic (load loader) rank) :
    ∃ sub : Bytes → Nat → Stack → Except Failure Bytes,
      (∀ name failure, load loader name = .error failure →
        ∀ indent stack, sub name indent stack = .error failure) ∧
      (∀ name included, load loader name = .ok included → ∀ indent stack,
        sub name indent stack = meaning sub included (scriptOf included) indent stack) ∧
      ∀ tree : Tree, tree.Valid →
        (∀ i < (tree.script 0).size, standalone i tree.template = none) →
        parse tree.print = .ok tree.template ∧ ∀ ctx,
          Ends (fun fuel => render (load loader) fuel tree.template ctx)
            (tree.shows sub (fun _ => false) [ctx]) := by
  obtain ⟨sub, fails, means, includes⟩ := exists_includes closed acyclic
  refine ⟨sub, fails, means, ?_⟩
  intro tree valid inline
  have parsed : parse tree.print = .ok tree.template := by
    rw [parse_print valid, removeStandalones_eq_self inline]
  refine ⟨parsed, fun ctx => ?_⟩
  rw [← meaning_template]
  exact ends_render (fun action _ _ => includes _) tree.laid_template ctx

/-- A list in a section, and a partial after it. -/
def listTree : Tree :=
  .block [] false (ascii "l") (.tag (ascii "[") .escaped (ascii ".") (.last (ascii "]")))
    (.tag [] .inclusion (ascii "pie") (.last []))

theorem render_print_list : ∃ sub,
    parse listTree.print = .ok listTree.template ∧
    (∀ ctx, Ends (fun fuel => render (load footerLoader) fuel listTree.template ctx)
      (listTree.shows sub (fun _ => false) [ctx])) ∧
    listTree.shows sub (fun _ => false) [numbers] = .ok (ascii "[1][2]<hr>&lt;") := by
  obtain ⟨sub, _, _, renders⟩ :=
    render_print (fun _ _ given => (loaded_footer given).1) acyclic_footer
  have dot : Legible (ascii ".") := ⟨by decide, by decide, by decide, by decide⟩
  have list : Legible (ascii "l") := ⟨by decide, by decide, by decide, by decide⟩
  have pie : Legible (ascii "pie") := ⟨by decide, by decide, by decide, by decide⟩
  have foreign : ∀ byte ∈ (ascii ".").head?, byte ∉ sigils := by
    rintro byte ⟨⟩
    decide
  have bracket : Text.Apart opening (ascii "]") := by decide
  have empty : Text.Apart opening [] := by decide
  have valid : listTree.Valid :=
    ⟨empty, list, ⟨by decide, ⟨dot, foreign⟩, bracket⟩, empty, pie, empty⟩
  obtain ⟨parsed, ends⟩ := renders listTree valid (by decide)
  have shown : render (load footerLoader) 9 listTree.template numbers =
      some (.ok (ascii "[1][2]<hr>&lt;")) := by rfl
  exact ⟨sub, parsed, ends, (ends numbers).unique (ends_of_render shown)⟩

end DescargaP2P.Crow.Mustache
