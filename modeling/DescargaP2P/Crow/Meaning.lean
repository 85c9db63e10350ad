import DescargaP2P.Crow.Filenames
import DescargaP2P.Crow.Sections

/-!
# The meaning of templates

A template whose sections are closed means the text of its script.  Partials are templates
of their own: where none includes itself, not even by others, their texts are defined by
the depth of the inclusions.
-/

namespace DescargaP2P.Crow.Mustache

open DescargaP2P.Blocks
open DescargaP2P.Text
open DescargaP2P.Transition

/-- The text of a template that is laid out by a script. -/
def meaning (sub : Bytes → Nat → Stack → Except Failure Bytes) (template : Template)
    (script : Script Action) (indent : Nat) (stack : Stack) : Except Failure Bytes := do
  let text ← evaluate sub template indent script 0 (fun _ => false) stack
  .ok (spaces indent ++ text ++ template.fragment (template.fragments.length - 1) indent)

section Template

variable {load : Bytes → Except Failure Template}
  {sub : Bytes → Nat → Stack → Except Failure Bytes} {template : Template}
  {indent : Nat} {action : Action} {inside : Nat → Bool}

/-- A template follows its script and leaves the stack as it was. -/
theorem ends_template (partials : ∀ action ∈ template.actions, action.t = .Partial →
      Includes load sub (template.tagName action))
    {script : Script Action} (laid : Laid template script) (top : Value) (below : Stack)
    (out : Bytes) :
    Ends (fun fuel => renderLoop load fuel template 0 (template.fragments.length - 1) indent
        (top :: below) (out ++ spaces indent))
      ((meaning sub template script indent (top :: below)).map fun text =>
        (top :: below, out ++ text)) := by
  have last : template.fragments.length - 1 = script.size := by
    rw [laid.fragments, laid.actions, List.length_append, Script.length_layout]
    rfl
  have size : ([] : List Action).length + script.size = script.size := Nat.zero_add _
  have gives : Gives load template indent script.size (top :: below) 0 _ _ :=
    gives_script partials laid.all laid.actions describes_nil (Nat.le_of_eq size) top below
  rw [size] at gives
  rw [meaning, last]
  apply gives
  · intro failure wrong
    have fails : evaluate sub template indent script 0 (fun _ => false) (top :: below) =
        .error failure := wrong
    rw [fails]
    rfl
  · intro text right
    have shows : evaluate sub template indent script 0 (fun _ => false) (top :: below) =
        .ok text := right
    have ended : Ends (fun fuel => renderLoop load fuel template script.size script.size indent
        (top :: below) (out ++ spaces indent ++ text)) _ := ends_at_end
    rw [bind_of_ok shows]
    simpa [Except.map] using ended

theorem ends_of_render {fuel : Nat} {ctx : Value} {result : Except Failure Bytes}
    (given : render load fuel template ctx = some result) :
    Ends (fun fuel => render load fuel template ctx) result :=
  @Ends.of_some _ (fun fuel => render load fuel template ctx) render_mono fuel result given

theorem ends_render (partials : ∀ action ∈ template.actions, action.t = .Partial →
      Includes load sub (template.tagName action))
    {script : Script Action} (laid : Laid template script) (ctx : Value) :
    Ends (fun fuel => render load fuel template ctx) (meaning sub template script 0 [ctx]) := by
  have ends : Ends (fun fuel => renderLoop load fuel template 0 (template.fragments.length - 1) 0
      [ctx] ([] ++ spaces 0)) _ := ends_template partials laid ctx [] []
  have shown := ends.map fun result => result.map Prod.snd
  cases text : meaning sub template script 0 [ctx] with
  | error failure =>
      rw [text] at shown
      exact shown
  | ok bytes =>
      rw [text] at shown
      exact shown

/-- The text depends on the partials that the script names. -/
theorem evaluate_congr {sub' : Bytes → Nat → Stack → Except Failure Bytes} {script : Script Action}
    {first : Nat} (same : ∀ action ∈ script.layout Action.aim first, action.t = .Partial →
      sub (template.tagName action) = sub' (template.tagName action))
    (start : Nat) (inside : Nat → Bool) (stack : Stack) :
    evaluate sub template indent script start inside stack =
      evaluate sub' template indent script start inside stack := by
  induction script generalizing first start inside stack with
  | done => rfl
  | plain action rest ih =>
      have others := ih fun action member => same action (List.mem_cons_of_mem _ member)
      have here : plainText sub template indent action (inside 0) stack =
          plainText sub' template indent action (inside 0) stack := by
        unfold plainText
        split
        · rfl
        · rfl
        · rename_i kind
          exact congrFun (congrFun (same action List.mem_cons_self kind) _) _
        · rfl
      rw [evaluate_plain, evaluate_plain, here, others]
  | block opening body closing rest body_ih rest_ih =>
      have inner := body_ih fun action member => same action
        (List.mem_append_left _ (List.mem_cons_of_mem _ member))
      have others := rest_ih fun action member => same action
        (List.mem_append_right _ (List.mem_cons_of_mem _ member))
      rw [evaluate, evaluate]
      simp only [inner, others]

end Template

/-! ## Partials -/

/-- The text of a partial whose inclusions are at most as deep as a bound. -/
def partialText (load : Bytes → Except Failure Template) (scripts : Template → Script Action) :
    Nat → Bytes → Nat → Stack → Except Failure Bytes
  | 0, _, _, _ => .error .undefined
  | depth + 1, name, indent, stack =>
      match load name with
      | .error failure => .error failure
      | .ok included =>
          meaning (partialText load scripts depth) included (scripts included) indent stack

/-- The text of a partial by its rank. -/
def partialMeaning (load : Bytes → Except Failure Template) (scripts : Template → Script Action)
    (rank : Bytes → Nat) (name : Bytes) : Nat → Stack → Except Failure Bytes :=
  partialText load scripts (rank name + 1) name

/-- The partials that a partial names have a lower rank. -/
def Acyclic (load : Bytes → Except Failure Template) (rank : Bytes → Nat) : Prop :=
  ∀ name included, load name = .ok included → ∀ action ∈ included.actions, action.t = .Partial →
    rank (included.tagName action) < rank name

section Partials

variable {load : Bytes → Except Failure Template} {rank : Bytes → Nat}
  {scripts : Template → Script Action}

theorem partialText_of_error {name : Bytes} {failure : Failure}
    (failed : load name = .error failure) (depth indent : Nat) (stack : Stack) :
    partialText load scripts (depth + 1) name indent stack = .error failure := by
  rw [partialText, failed]

theorem partialText_of_ok {name : Bytes} {included : Template} (loaded : load name = .ok included)
    (depth indent : Nat) (stack : Stack) :
    partialText load scripts (depth + 1) name indent stack =
      meaning (partialText load scripts depth) included (scripts included) indent stack := by
  rw [partialText, loaded]

theorem meaning_congr {sub sub' : Bytes → Nat → Stack → Except Failure Bytes}
    {template : Template} {script : Script Action} (laid : Laid template script)
    (same : ∀ action ∈ template.actions, action.t = .Partial →
      sub (template.tagName action) = sub' (template.tagName action)) (indent : Nat)
    (stack : Stack) : meaning sub template script indent stack =
      meaning sub' template script indent stack := by
  have inside : ∀ action ∈ script.layout Action.aim 0, action ∈ template.actions := by
    rw [laid.actions]
    exact fun action member => List.mem_append_left _ member
  rw [meaning, meaning, evaluate_congr fun action member => same action (inside action member)]

/-- From its rank on the bound does not matter. -/
theorem partialText_stable (acyclic : Acyclic load rank)
    (laid : ∀ name included, load name = .ok included → Laid included (scripts included))
    {name : Bytes} {depth : Nat} (deep : rank name < depth) :
    partialText load scripts depth name = partialMeaning load scripts rank name := by
  induction bound : rank name using Nat.strongRecOn generalizing name depth with
  | ind order ih =>
      obtain ⟨depth, rfl⟩ := Nat.exists_eq_add_one_of_ne_zero (Nat.ne_zero_of_lt deep)
      funext indent stack
      cases loaded : load name with
      | error failure =>
          rw [partialMeaning, partialText_of_error loaded, partialText_of_error loaded]
      | ok included =>
          rw [partialMeaning, partialText_of_ok loaded, partialText_of_ok loaded]
          apply meaning_congr (laid name included loaded)
          intro action member kind
          have lower := acyclic name included loaded action member kind
          have small : rank (included.tagName action) < order := bound ▸ lower
          exact (ih _ small (by omega) rfl).trans (ih _ small lower rfl).symm

/-- A partial means what its template does. -/
theorem partialMeaning_eq (acyclic : Acyclic load rank)
    (laid : ∀ name included, load name = .ok included → Laid included (scripts included))
    {name : Bytes} {included : Template} (loaded : load name = .ok included) (indent : Nat)
    (stack : Stack) : partialMeaning load scripts rank name indent stack =
      meaning (partialMeaning load scripts rank) included (scripts included) indent stack := by
  rw [partialMeaning, partialText_of_ok loaded]
  apply meaning_congr (laid name included loaded)
  intro action member kind
  exact partialText_stable acyclic laid (acyclic name included loaded action member kind)

/-- A partial shows its text, whatever is rendered around it. -/
theorem includes_partialMeaning (acyclic : Acyclic load rank)
    (laid : ∀ name included, load name = .ok included → Laid included (scripts included))
    (name : Bytes) : Includes load (partialMeaning load scripts rank) name := by
  induction bound : rank name using Nat.strongRecOn generalizing name with
  | ind order ih =>
      refine ⟨fun failure failed => partialText_of_error failed _, ?_⟩
      intro included loaded indent top below out
      rw [partialMeaning_eq acyclic laid loaded]
      apply ends_template _ (laid name included loaded)
      intro action member kind
      exact ih _ (bound ▸ acyclic name included loaded action member kind) _ rfl

end Partials

/-! ## Loaded templates -/

/-- `load`. -/
def load (loader : Bytes → Bytes) (name : Bytes) : Except Failure Template :=
  parse (loader (sanitizeFilename name))

open Classical in
/-- The script of a template. -/
noncomputable def scriptOf (template : Template) : Script Action :=
  if laid : ∃ script, Laid template script then laid.choose else .done

theorem laid_scriptOf {body : Bytes} {template : Template} (parsed : parse body = .ok template)
    (closed : template.Closed) : Laid template (scriptOf template) := by
  have found := (exists_laid parsed closed).2
  rw [scriptOf, dif_pos found]
  exact found.choose_spec

/-- Closed partials that do not include themselves have a meaning. -/
theorem exists_includes {loader : Bytes → Bytes} {rank : Bytes → Nat}
    (closed : ∀ name included, load loader name = .ok included → included.Closed)
    (acyclic : Acyclic (load loader) rank) :
    ∃ sub : Bytes → Nat → Stack → Except Failure Bytes,
      (∀ name failure, load loader name = .error failure →
        ∀ indent stack, sub name indent stack = .error failure) ∧
      (∀ name included, load loader name = .ok included → ∀ indent stack,
        sub name indent stack = meaning sub included (scriptOf included) indent stack) ∧
      ∀ name, Includes (load loader) sub name := by
  have laid : ∀ name included, load loader name = .ok included →
      Laid included (scriptOf included) :=
    fun name included loaded => laid_scriptOf loaded (closed name included loaded)
  exact ⟨partialMeaning (load loader) scriptOf rank,
    fun name failure failed => partialText_of_error failed _,
    fun name included loaded => partialMeaning_eq acyclic laid loaded,
    includes_partialMeaning acyclic laid⟩

/-- With closed partials that do not include themselves, every closed template renders to
its meaning: the loop always ends, and a partial shows its own meaning wherever it is
included. -/
theorem render_meaning {loader : Bytes → Bytes} {rank : Bytes → Nat}
    (closed : ∀ name included, load loader name = .ok included → included.Closed)
    (acyclic : Acyclic (load loader) rank) :
    ∃ sub : Bytes → Nat → Stack → Except Failure Bytes,
      (∀ name failure, load loader name = .error failure →
        ∀ indent stack, sub name indent stack = .error failure) ∧
      (∀ name included, load loader name = .ok included → ∀ indent stack,
        sub name indent stack = meaning sub included (scriptOf included) indent stack) ∧
      ∀ body template, parse body = .ok template → template.Closed →
        Laid template (scriptOf template) ∧ ∀ ctx,
          Ends (fun fuel => render (load loader) fuel template ctx)
            (meaning sub template (scriptOf template) 0 [ctx]) := by
  obtain ⟨sub, fails, means, includes⟩ := exists_includes closed acyclic
  refine ⟨sub, fails, means, ?_⟩
  intro body template parsed whole
  have laid := laid_scriptOf parsed whole
  exact ⟨laid, ends_render (fun action _ _ => includes _) laid⟩

/-- A template that shows a value, and empty ones. -/
def footerLoader (name : Bytes) : Bytes :=
  if name = ascii "pie" then ascii "<hr>\x7b\x7ba\x7d\x7d" else []

theorem loaded_footer {name : Bytes} {included : Template}
    (given : load footerLoader name = .ok included) :
    included.Closed ∧ ∀ action ∈ included.actions, action.t = .Tag ∨ action.t = .Ignore := by
  have footer : parse (ascii "<hr>\x7b\x7ba\x7d\x7d") = .ok ⟨ascii "<hr>\x7b\x7ba\x7d\x7d",
      [(0, 4), (9, 9)], [⟨.Tag, 6, 7, 0⟩, ⟨.Ignore, 0, 0, 0⟩]⟩ := by rfl
  have empty : parse [] = .ok ⟨[], [(0, 0)], [⟨.Ignore, 0, 0, 0⟩]⟩ := by rfl
  unfold load footerLoader at given
  split at given
  · rw [footer] at given
    obtain rfl := Except.ok.inj given
    decide
  · rw [empty] at given
    obtain rfl := Except.ok.inj given
    decide

theorem acyclic_footer : Acyclic (load footerLoader) fun _ => 0 := by
  intro name included given action member kind
  have plain := (loaded_footer given).2 action member
  rw [kind] at plain
  exact absurd plain (by decide)

/-- A list in a section, and a partial after it. -/
def listTemplate : Template where
  body := ascii "\x7b\x7b#l\x7d\x7d[\x7b\x7b.\x7d\x7d]\x7b\x7b/l\x7d\x7d\x7b\x7b>pie\x7d\x7d"
  fragments := [(0, 0), (6, 7), (12, 13), (19, 19), (27, 27)]
  actions := [⟨.OpenBlock, 3, 4, 2⟩, ⟨.Tag, 9, 10, 0⟩, ⟨.CloseBlock, 16, 17, 0⟩,
    ⟨.Partial, 22, 25, 0⟩, ⟨.Ignore, 0, 0, 0⟩]

def numbers : Value :=
  .object [(ascii "l", .list [.number 1, .number 2]), (ascii "a", .string (ascii "<"))]

theorem render_meaning_list : ∃ sub,
    (∀ ctx, Ends (fun fuel => render (load footerLoader) fuel listTemplate ctx)
      (meaning sub listTemplate (scriptOf listTemplate) 0 [ctx])) ∧
    meaning sub listTemplate (scriptOf listTemplate) 0 [numbers] =
      .ok (ascii "[1][2]<hr>&lt;") := by
  obtain ⟨sub, _, _, renders⟩ :=
    render_meaning (fun _ _ given => (loaded_footer given).1) acyclic_footer
  have parsed : parse listTemplate.body = .ok listTemplate := by rfl
  have ends := (renders _ _ parsed (by decide)).2
  have shown : render (load footerLoader) 9 listTemplate numbers =
      some (.ok (ascii "[1][2]<hr>&lt;")) := by rfl
  exact ⟨sub, ends, (ends numbers).unique (ends_of_render shown)⟩

end DescargaP2P.Crow.Mustache
