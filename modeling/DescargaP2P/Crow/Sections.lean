import DescargaP2P.Crow.Rendering
import DescargaP2P.Transition.Fuel

/-!
# The meaning of a template

A template whose sections are closed is the layout of a script, and rendering it follows
the script: a section is shown for none, one or several contexts, and what comes after it
finds the stack as it was before.  No jump goes back.
-/

namespace DescargaP2P.Crow.Mustache

open DescargaP2P.Blocks
open DescargaP2P.Text
open DescargaP2P.Transition

/-! ## Evaluation of scripts -/

/-- Number of inverted sections. -/
def inverted : Script Action → Nat
  | .done => 0
  | .plain _ rest => inverted rest
  | .block opening body _ rest =>
      inverted body + inverted rest + if opening.t = .OpenBlock then 0 else 1

/-- What the search for an enclosing section answers inside a section.  Each inverted
section that has been closed before hides one section that is open. -/
def within (opening : Action) (inside : Nat → Bool) (openedBlock : Nat) : Bool :=
  if opening.t = .OpenBlock then openedBlock == 0 || inside (openedBlock - 1)
  else inside openedBlock

/-- A text for each element, joined. -/
def showEach (body : Value → Except Failure Bytes) : List Value → Except Failure Bytes
  | [] => .ok []
  | item :: items => do
      let here ← body item
      let later ← showEach body items
      .ok (here ++ later)

/-- The text of a section, by the text it shows for a context. -/
def sectionText (shows : Value → Except Failure Bytes) (indent : Nat) :
    Shown → Except Failure Bytes
  | .never => .ok []
  | .once view => shows view
  | .each items => showEach (fun view => (shows view).map (spaces indent ++ ·)) items

/-- The text of an action that is no section.  A partial has the text that `sub` gives it
by its name. -/
def plainText (sub : Bytes → Nat → Stack → Except Failure Bytes) (template : Template)
    (indent : Nat) (action : Action) (inside : Bool) (stack : Stack) : Except Failure Bytes :=
  let name := template.tagName action
  match action.t with
  | .Tag | .UnescapeTag => do
      let ctx ← findContext name stack (stack.head?.any Value.isObject && inside)
      tagText (action.t == .Tag) (ctx.getD (.string []))
  | .Partial => sub name (innerIndent indent action) stack
  | _ => .ok []

/-- The text of a script that begins at a position of a template. -/
def evaluate (sub : Bytes → Nat → Stack → Except Failure Bytes) (template : Template)
    (indent : Nat) : Script Action → (start : Nat) → (inside : Nat → Bool) → Stack →
      Except Failure Bytes
  | .done, _, _, _ => .ok []
  | .plain action rest, start, inside, stack => do
      let here ← plainText sub template indent action (inside 0) stack
      let later ← evaluate sub template indent rest (start + 1) inside stack
      .ok (template.fragment start indent ++ here ++ later)
  | .block opening body closing rest, start, inside, stack => do
      let last := template.fragment (start + body.size + 1) indent
      let shows (view : Value) : Except Failure Bytes :=
        (evaluate sub template indent body (start + 1) (within opening inside)
          (view :: stack)).map (· ++ last)
      let ctx ← findContext (template.tagName opening) stack false
      let here ← sectionText shows indent (sectionShown opening.t ctx)
      let later ← evaluate sub template indent rest (start + body.size + 2)
        (fun openedBlock => inside (openedBlock + inverted (.block opening body closing .done)))
        stack
      .ok (template.fragment start indent ++ here ++ later)

/-! ## The search for an enclosing section -/

/-- With an innermost context that is no object nothing is found. -/
theorem insideLoop_of_not_isObject {top : Value} (other : top.isObject = false) (below : Stack)
    (before : List Action) (openedBlock : Int) :
    insideLoop (top :: below) before openedBlock = .ok false := by
  induction before generalizing openedBlock with
  | nil => rfl
  | cons action before ih =>
      unfold insideLoop
      split
      · split
        · simp only [other, Bool.false_eq_true, if_false]
          exact ih _
        · exact ih _
      · exact ih _
      · exact ih _

/-- What the search finds before a position, with sections closed since. -/
def Describes (before : List Action) (inside : Nat → Bool) : Prop :=
  ∀ (top : Value) (below : Stack) (openedBlock : Nat),
    insideLoop (top :: below) before.reverse openedBlock =
      .ok (top.isObject && inside openedBlock)

theorem describes_nil : Describes [] fun _ => false := by
  intro top below openedBlock
  rw [Bool.and_false]
  rfl

theorem describes_of_isObject {before : List Action} {inside : Nat → Bool}
    (found : ∀ top below (openedBlock : Nat), Value.isObject top = true →
      insideLoop (top :: below) before.reverse openedBlock = .ok (inside openedBlock)) :
    Describes before inside := by
  intro top below openedBlock
  cases object : top.isObject with
  | false => exact insideLoop_of_not_isObject object _ _ _
  | true => exact found top below openedBlock object

theorem Describes.plain {before : List Action} {inside : Nat → Bool}
    (describes : Describes before inside) {action : Action} (plain : Plain action) :
    Describes (before ++ [action]) inside := by
  intro top below openedBlock
  rw [List.reverse_append, List.reverse_singleton, List.singleton_append, insideLoop]
  split
  · rename_i kind
    exact absurd kind plain.1
  · rename_i kind
    exact absurd kind plain.2.2
  · exact describes top below openedBlock

/-- Inside a section. -/
theorem Describes.opening {before : List Action} {inside : Nat → Bool}
    (describes : Describes before inside) {opening : Action}
    (kind : opening.t = .OpenBlock ∨ opening.t = .ElseBlock) :
    Describes (before ++ [opening]) (within opening inside) := by
  apply describes_of_isObject
  intro top below openedBlock object
  rw [List.reverse_append, List.reverse_singleton, List.singleton_append, insideLoop, within]
  rcases kind with kind | kind
  · simp only [kind, if_true]
    cases openedBlock with
    | zero => simp [object]
    | succ openedBlock =>
        have outer := describes top below openedBlock
        have positive : (openedBlock : Int) + 1 ≠ 0 := by omega
        rw [object, Bool.true_and] at outer
        simpa [positive] using outer
  · have outer := describes top below openedBlock
    rw [object, Bool.true_and] at outer
    simpa [kind] using outer

theorem Describes.closing {before : List Action} {inside : Nat → Bool}
    (describes : Describes before inside) {closing : Action} (kind : closing.t = .CloseBlock) :
    Describes (before ++ [closing]) fun openedBlock => inside (openedBlock + 1) := by
  intro top below openedBlock
  rw [List.reverse_append, List.reverse_singleton, List.singleton_append, insideLoop]
  simp only [kind]
  exact_mod_cast describes top below (openedBlock + 1)

/-- A closed section leaves what was there before, less its inverted sections. -/
theorem within_closed (opening : Action) (inside : Nat → Bool) (body : Script Action)
    (closing : Action) (openedBlock : Nat) :
    within opening inside (openedBlock + 1 + inverted body) =
      inside (openedBlock + inverted (.block opening body closing .done)) := by
  unfold within
  by_cases kind : opening.t = .OpenBlock
  · have same : openedBlock + 1 + inverted body - 1 = openedBlock + inverted body := by omega
    simp [kind, inverted, same]
  · have same : openedBlock + 1 + inverted body = openedBlock + (inverted body + 1) := by omega
    simp [kind, inverted, same]

theorem inverted_block (opening : Action) (body : Script Action) (closing : Action)
    (rest : Script Action) :
    inverted (.block opening body closing rest) =
      inverted (.block opening body closing .done) + inverted rest := by
  simp only [inverted]
  omega

theorem Describes.script {before : List Action} {inside : Nat → Bool}
    (describes : Describes before inside) {script : Script Action}
    (all : script.All Plain Paired) (start : Nat) :
    Describes (before ++ script.layout Action.aim start)
      fun openedBlock => inside (openedBlock + inverted script) := by
  induction script generalizing before inside start with
  | done => simpa [Script.layout, inverted] using describes
  | plain action rest ih =>
      have later := ih (describes.plain all.1) all.2 (start + 1)
      rwa [List.append_assoc] at later
  | block opening body closing rest body_ih rest_ih =>
      obtain ⟨⟨kind, -, closes⟩, bodyAll, restAll⟩ := all
      have opened : Describes (before ++ [opening.aim (start + body.size + 1)])
          (within opening inside) := describes.opening kind
      have after : Describes _ _ := (body_ih opened bodyAll (start + 1)).closing
        (show (closing.aim start).t = .CloseBlock from closes)
      have same : (fun openedBlock =>
          within opening inside (openedBlock + 1 + inverted body)) =
          fun openedBlock => inside (openedBlock + inverted (.block opening body closing .done)) :=
        funext fun openedBlock => within_closed opening inside body closing openedBlock
      rw [same] at after
      have later := rest_ih after restAll (start + body.size + 2)
      simp only [List.append_assoc, List.singleton_append] at later
      simpa [Script.layout, inverted_block opening body closing rest, Nat.add_assoc,
        Nat.add_comm, Nat.add_left_comm] using later

/-! ## One iteration of the loop -/

section Loop

variable {load : Bytes → Except Failure Template} {template : Template}
  {current actionEnd indent : Nat} {stack : Stack} {out : Bytes} {action : Action}
  {result : Except Failure (Stack × Bytes)}

theorem ends_at_end : Ends (fun fuel => renderLoop load fuel template actionEnd actionEnd indent
    stack out) (.ok (stack, out ++ template.fragment actionEnd indent)) := by
  refine Ends.of_succ (fun fuel => ?_) (Ends.of_const _)
  rw [renderLoop, if_pos (Nat.le_refl _)]

theorem ends_failure (before : current < actionEnd)
    (here : template.actions[current]? = some action)
    {failure : Failure} (moves : move load template action current indent stack = .error failure) :
    Ends (fun fuel => renderLoop load fuel template current actionEnd indent stack out)
      (.error failure) := by
  refine Ends.of_succ (fun fuel => ?_) (Ends.of_const _)
  simp only [renderLoop, Nat.not_le.mpr before, if_false, here, moves]

theorem ends_advance (before : current < actionEnd)
    (here : template.actions[current]? = some action)
    {next : Stack} {text : Bytes}
    (moves : move load template action current indent stack = .ok (.advance next text))
    (later : Ends (fun fuel => renderLoop load fuel template (current + 1) actionEnd indent next
      (out ++ (template.fragment current indent ++ text))) result) :
    Ends (fun fuel => renderLoop load fuel template current actionEnd indent stack out) result := by
  refine Ends.of_succ (fun fuel => ?_) later
  simp only [renderLoop, Nat.not_le.mpr before, if_false, here, moves, List.append_assoc]

theorem ends_jump (before : current < actionEnd) (here : template.actions[current]? = some action)
    (moves : move load template action current indent stack = .ok .jump)
    {pos : Nat} (aimed : action.pos = pos)
    (later : Ends (fun fuel => renderLoop load fuel template (pos + 1) actionEnd indent
      stack (out ++ template.fragment current indent)) result) :
    Ends (fun fuel => renderLoop load fuel template current actionEnd indent stack out) result := by
  refine Ends.of_succ (fun fuel => ?_) later
  simp only [renderLoop, Nat.not_le.mpr before, if_false, here, moves, aimed]

theorem ends_andThen {run : Nat → Outcome} {next : Nat → Stack → Bytes → Outcome}
    {middle : Except Failure (Stack × Bytes)} (first : Ends run middle)
    (failed : ∀ failure, middle = .error failure → result = .error failure)
    (goes : ∀ stack out, middle = .ok (stack, out) →
      Ends (fun fuel => next fuel stack out) result) :
    Ends (fun fuel => (run fuel).andThen (next fuel)) result := by
  cases middle with
  | error failure =>
      rw [failed failure rfl]
      exact first.bind (Ends.of_const _)
  | ok after => exact first.bind (goes after.1 after.2 rfl)

/-- Every element finds the stack as it was. -/
theorem ends_eachItem {body : Nat → Stack → Bytes → Outcome} {shows : Value → Except Failure Bytes}
    (shown : ∀ item out, Ends (fun fuel => body fuel (item :: stack) out)
      ((shows item).map fun text => (item :: stack, out ++ text)))
    (items : List Value) (out : Bytes) :
    Ends (fun fuel => eachItem (body fuel) items stack out)
      ((showEach shows items).map fun text => (stack, out ++ text)) := by
  induction items generalizing out with
  | nil => simpa [showEach, eachItem, Except.map] using Ends.of_const (Except.ok (stack, out))
  | cons item items ih =>
      simp only [eachItem]
      refine ends_andThen (shown item out) ?_ ?_
      · intro failure failed
        cases first : shows item with
        | error other =>
            rw [first] at failed
            cases failed
            simp [showEach, first, bind, Except.bind, Except.map]
        | ok text => rw [first] at failed; cases failed
      · intro stack' out' shownHere
        cases first : shows item with
        | error other => rw [first] at shownHere; cases shownHere
        | ok text =>
            rw [first] at shownHere
            cases shownHere
            have later := ih (out ++ text)
            cases others : showEach shows items with
            | error failure =>
                rw [others] at later
                simpa [showEach, first, others, bind, Except.bind, Except.map] using later
            | ok texts =>
                rw [others] at later
                simpa [showEach, first, others, bind, Except.bind, Except.map] using later

/-- From a position to a later one the loop appends a text or fails. -/
def Gives (load : Bytes → Except Failure Template) (template : Template) (indent actionEnd : Nat)
    (stack : Stack) (start stop : Nat) (value : Except Failure Bytes) : Prop :=
  ∀ out result,
    (∀ failure, value = .error failure → result = .error failure) →
    (∀ text, value = .ok text → Ends (fun fuel =>
      renderLoop load fuel template stop actionEnd indent stack (out ++ text)) result) →
    Ends (fun fuel => renderLoop load fuel template start actionEnd indent stack out) result

theorem gives_nil (start : Nat) :
    Gives load template indent actionEnd stack start start (.ok []) := by
  intro out result _ goes
  simpa using goes [] rfl

theorem Gives.append {start middle stop : Nat} {first second : Except Failure Bytes}
    (before : Gives load template indent actionEnd stack start middle first)
    (after : Gives load template indent actionEnd stack middle stop second) :
    Gives load template indent actionEnd stack start stop
      (do let here ← first
          let later ← second
          .ok (here ++ later)) := by
  intro out result failed goes
  apply before out result
  · rintro failure rfl
    exact failed failure rfl
  · rintro here rfl
    apply after
    · rintro failure rfl
      exact failed failure rfl
    · rintro later rfl
      rw [List.append_assoc]
      exact goes (here ++ later) rfl

/-- With the fragment before it, a text that an action appends. -/
theorem gives_text (before : current < actionEnd) (here : template.actions[current]? = some action)
    {value : Except Failure Bytes}
    (moves : move load template action current indent stack = value.map (.advance stack)) :
    Gives load template indent actionEnd stack current (current + 1)
      (value.map (template.fragment current indent ++ ·)) := by
  intro out result failed goes
  cases value with
  | error failure =>
      rw [failed failure rfl]
      exact ends_failure before here moves
  | ok text => exact ends_advance before here moves (goes _ rfl)

end Loop

/-! ## Actions and sections -/

/-- `sub` gives the text of a partial, whatever is rendered around it. -/
def Includes (load : Bytes → Except Failure Template)
    (sub : Bytes → Nat → Stack → Except Failure Bytes) (name : Bytes) : Prop :=
  (∀ failure, load name = .error failure → ∀ indent stack, sub name indent stack = .error failure) ∧
  ∀ included, load name = .ok included → ∀ indent top below out,
    Ends (fun fuel => renderLoop load fuel included 0 (included.fragments.length - 1) indent
        (top :: below) (out ++ spaces indent))
      ((sub name indent (top :: below)).map fun text => (top :: below, out ++ text))

theorem findContext_cons (name : Bytes) (top : Value) (below : Stack) (onlyFirst : Bool) :
    ∃ ctx, findContext name (top :: below) onlyFirst = .ok ctx := by
  unfold findContext
  split
  · exact ⟨_, rfl⟩
  · split
    · exact ⟨_, rfl⟩
    · exact ⟨_, rfl⟩

section Script

variable {load : Bytes → Except Failure Template}
  {sub : Bytes → Nat → Stack → Except Failure Bytes} {template : Template}
  {actionEnd indent : Nat} {action : Action} {front back : List Action} {inside : Nat → Bool}

theorem getElem?_front (laid : template.actions = front ++ action :: back) :
    template.actions[front.length]? = some action := by
  rw [laid, List.getElem?_append_right (Nat.le_refl _), Nat.sub_self, List.getElem?_cons_zero]

theorem isTagInsideObjectBlock_eq (laid : template.actions = front ++ action :: back)
    (describes : Describes front inside) (top : Value) (below : Stack) :
    isTagInsideObjectBlock template front.length (top :: below) =
      .ok (top.isObject && inside 0) := by
  rw [isTagInsideObjectBlock, laid, List.take_left]
  exact describes top below 0

theorem plainText_tag {flag : Bool} {stack : Stack} {ctx : Option Value}
    (kind : action.t = .Tag ∨ action.t = .UnescapeTag)
    (searched : findContext (template.tagName action) stack
      (stack.head?.any Value.isObject && flag) = .ok ctx) :
    plainText sub template indent action flag stack =
      tagText (action.t == .Tag) (ctx.getD (.string [])) := by
  unfold plainText
  rcases kind with kind | kind
  · rw [kind]
    exact bind_of_ok searched _
  · rw [kind]
    exact bind_of_ok searched _

/-- A partial is rendered with the stack of the template around it. -/
theorem ends_inserts {current : Nat} {stack : Stack} {out : Bytes}
    {result : Except Failure (Stack × Bytes)} {middle : Except Failure (Stack × Bytes)}
    {included : Template} {inner : Nat} (before : current < actionEnd)
    (here : template.actions[current]? = some action)
    (moves : move load template action current indent stack = .ok (.inserts included inner))
    (first : Ends (fun fuel => renderLoop load fuel included 0 (included.fragments.length - 1)
      inner stack (out ++ template.fragment current indent ++ spaces inner)) middle)
    (failed : ∀ failure, middle = .error failure → result = .error failure)
    (goes : ∀ stack out, middle = .ok (stack, out) → Ends (fun fuel =>
      renderLoop load fuel template (current + 1) actionEnd indent stack out) result) :
    Ends (fun fuel => renderLoop load fuel template current actionEnd indent stack out) result := by
  refine Ends.of_succ (fun fuel => ?_) (ends_andThen first failed goes)
  simp only [renderLoop, Nat.not_le.mpr before, if_false, here, moves]

/-- A tag, a comment or a partial. -/
theorem gives_plain (laid : template.actions = front ++ action :: back)
    (before : front.length < actionEnd) (describes : Describes front inside)
    (plain : Plain action)
    (includes : action.t = .Partial → Includes load sub (template.tagName action))
    (top : Value) (below : Stack) :
    Gives load template indent actionEnd (top :: below) front.length (front.length + 1)
      ((plainText sub template indent action (inside 0) (top :: below)).map
        (template.fragment front.length indent ++ ·)) := by
  have here := getElem?_front laid
  have shows : action.t = .Tag ∨ action.t = .UnescapeTag →
      move load template action front.length indent (top :: below) =
        (plainText sub template indent action (inside 0) (top :: below)).map
          (.advance (top :: below)) := by
    intro kind
    obtain ⟨ctx, searched⟩ :=
      findContext_cons (template.tagName action) top below (top.isObject && inside 0)
    rw [move_tag kind (isTagInsideObjectBlock_eq laid describes top below) searched,
      plainText_tag kind searched]
  cases kind : action.t with
  | Ignore =>
      have nothing : plainText sub template indent action (inside 0) (top :: below) = .ok [] := by
        unfold plainText
        rw [kind]
      rw [nothing]
      exact gives_text before here (move_ignore kind)
  | Tag => exact gives_text before here (shows (.inl kind))
  | UnescapeTag => exact gives_text before here (shows (.inr kind))
  | OpenBlock => exact absurd kind plain.1
  | CloseBlock => exact absurd kind plain.2.2
  | ElseBlock => exact absurd kind plain.2.1
  | Partial =>
      have given : plainText sub template indent action (inside 0) (top :: below) =
          sub (template.tagName action) (innerIndent indent action) (top :: below) := by
        unfold plainText
        rw [kind]
      obtain ⟨fails, loads⟩ := includes kind
      rw [given]
      intro out result failed goes
      cases loaded : load (template.tagName action) with
      | error failure =>
          rw [fails failure loaded] at failed
          rw [failed failure rfl]
          exact ends_failure before here (by rw [move_inclusion kind, loaded]; rfl)
      | ok included =>
          have rendered := loads included loaded (innerIndent indent action) top below
            (out ++ template.fragment front.length indent)
          refine ends_inserts before here (by rw [move_inclusion kind, loaded]; rfl) rendered ?_ ?_
          · intro failure wrong
            cases text : sub (template.tagName action) (innerIndent indent action) (top :: below)
            with
            | error other =>
                rw [text] at wrong failed
                cases wrong
                exact failed _ rfl
            | ok text' => rw [text] at wrong; cases wrong
          · intro stack' out' right
            cases text : sub (template.tagName action) (innerIndent indent action) (top :: below)
            with
            | error other => rw [text] at right; cases right
            | ok text' =>
                rw [text] at right goes
                cases right
                rw [List.append_assoc]
                exact goes _ rfl

theorem ends_each {current pos : Nat} {stack : Stack} {out : Bytes} {items : List Value}
    {result middle : Except Failure (Stack × Bytes)} (before : current < actionEnd)
    (here : template.actions[current]? = some action)
    (moves : move load template action current indent stack = .ok (.each items))
    (aimed : action.pos = pos)
    (first : Ends (fun fuel => eachItem (fun stack out => renderLoop load fuel template
      (current + 1) pos indent stack (out ++ spaces indent)) items stack
        (out ++ template.fragment current indent)) middle)
    (failed : ∀ failure, middle = .error failure → result = .error failure)
    (goes : ∀ stack out, middle = .ok (stack, out) → Ends (fun fuel =>
      renderLoop load fuel template (pos + 1) actionEnd indent stack out) result) :
    Ends (fun fuel => renderLoop load fuel template current actionEnd indent stack out) result := by
  refine Ends.of_succ (fun fuel => ?_) (ends_andThen first failed goes)
  simp only [renderLoop, Nat.not_le.mpr before, if_false, here, moves, aimed]

/-- The body of a section for an element of a list. -/
theorem ends_item {stop : Nat} {stack : Stack} {view : Value} {current : Nat}
    {value : Except Failure Bytes}
    (shows : Gives load template indent stop (view :: stack) current stop value) (out : Bytes) :
    Ends (fun fuel => renderLoop load fuel template current stop indent (view :: stack)
        (out ++ spaces indent))
      (((value.map (· ++ template.fragment stop indent)).map (spaces indent ++ ·)).map fun text =>
        (view :: stack, out ++ text)) := by
  apply shows
  · rintro failure rfl
    rfl
  · rintro text rfl
    have last : Ends (fun fuel => renderLoop load fuel template stop stop indent (view :: stack)
        (out ++ spaces indent ++ text)) _ := ends_at_end
    simpa [Except.map] using last

/-- A section is shown for its contexts and leaves the stack as it was. -/
theorem gives_section {opening closing : Action} {body : Script Action}
    (laid : template.actions = front ++ opening.aim (front.length + body.size + 1) ::
      (body.layout Action.aim (front.length + 1) ++ closing.aim front.length :: back))
    (before : front.length + body.size + 1 < actionEnd) (paired : Paired opening closing)
    {top : Value} {below : Stack} {ctx : Option Value}
    (searched : findContext (template.tagName opening) (top :: below) false = .ok ctx)
    {text : Value → Except Failure Bytes}
    (shows : ∀ view stop, front.length + body.size + 1 ≤ stop →
      Gives load template indent stop (view :: top :: below) (front.length + 1)
        (front.length + body.size + 1) (text view)) :
    Gives load template indent actionEnd (top :: below) front.length (front.length + body.size + 2)
      ((sectionText (fun view => (text view).map
          (· ++ template.fragment (front.length + body.size + 1) indent)) indent
          (sectionShown opening.t ctx)).map (template.fragment front.length indent ++ ·)) := by
  have here := getElem?_front laid
  have first : front.length < actionEnd := by omega
  have regrouped : template.actions = (front ++ opening.aim (front.length + body.size + 1) ::
      body.layout Action.aim (front.length + 1)) ++ closing.aim front.length :: back := by
    rw [laid, List.append_assoc, List.cons_append]
  have closes := getElem?_front regrouped
  rw [List.length_append, List.length_cons, Script.length_layout, ← Nat.add_assoc] at closes
  have aimed : (opening.aim (front.length + body.size + 1)).pos = front.length + body.size + 1 :=
    rfl
  have kind : (opening.aim (front.length + body.size + 1)).t = .OpenBlock ∨
      (opening.aim (front.length + body.size + 1)).t = .ElseBlock := paired.1
  have moves : move load template (opening.aim (front.length + body.size + 1)) front.length indent
      (top :: below) = match sectionShown opening.t ctx with
        | .never => .ok .jump
        | .once view => .ok (.advance (view :: top :: below) [])
        | .each items => .ok (.each items) := move_section kind searched
  have closed : (closing.aim front.length).t = .CloseBlock := paired.2.2
  intro out result failed goes
  cases shown : sectionShown opening.t ctx with
  | never =>
      rw [shown] at moves goes
      apply ends_jump first here moves aimed
      simpa [sectionText, Except.map] using goes _ rfl
  | once view =>
      rw [shown] at moves failed goes
      apply ends_advance first here moves
      apply shows view actionEnd (Nat.le_of_lt before)
      · intro failure wrong
        apply failed
        rw [sectionText, wrong]
        rfl
      · intro inner right
        apply ends_advance before closes (move_close closed view)
        have text := goes (template.fragment front.length indent ++ (inner ++
          template.fragment (front.length + body.size + 1) indent))
          (by rw [sectionText, right]; rfl)
        simpa using text
  | each items =>
      rw [shown] at moves failed goes
      have each : Ends (fun fuel => eachItem (fun stack out => renderLoop load fuel template
          (front.length + 1) (front.length + body.size + 1) indent stack (out ++ spaces indent))
          items (top :: below) (out ++ template.fragment front.length indent)) _ :=
        ends_eachItem (fun view => ends_item (shows view _ (Nat.le_refl _))) items _
      apply ends_each first here moves aimed each
      · intro failure wrong
        apply failed
        rw [sectionText]
        revert wrong
        cases showEach _ items with
        | error other => exact fun wrong => by cases wrong; rfl
        | ok text => exact fun wrong => by cases wrong
      · intro stack' out' right
        rw [sectionText] at goes
        revert right goes
        cases showEach _ items with
        | error other => exact fun _ right => by cases right
        | ok text =>
            intro goes right
            cases right
            rw [List.append_assoc]
            exact goes _ rfl

theorem evaluate_plain (rest : Script Action) (start : Nat) (stack : Stack) :
    evaluate sub template indent (.plain action rest) start inside stack = (do
      let here ← (plainText sub template indent action (inside 0) stack).map
        (template.fragment start indent ++ ·)
      let later ← evaluate sub template indent rest (start + 1) inside stack
      .ok (here ++ later)) := by
  rw [evaluate]
  cases plainText sub template indent action (inside 0) stack with
  | error failure => rfl
  | ok text => rfl

theorem evaluate_block {opening closing : Action} {body rest : Script Action} {start : Nat}
    {stack : Stack} {ctx : Option Value}
    (searched : findContext (template.tagName opening) stack false = .ok ctx) :
    evaluate sub template indent (.block opening body closing rest) start inside stack = (do
      let here ← (sectionText (fun view =>
          (evaluate sub template indent body (start + 1) (within opening inside)
            (view :: stack)).map (· ++ template.fragment (start + body.size + 1) indent)) indent
          (sectionShown opening.t ctx)).map (template.fragment start indent ++ ·)
      let later ← evaluate sub template indent rest (start + body.size + 2)
        (fun openedBlock => inside (openedBlock + inverted (.block opening body closing .done)))
        stack
      .ok (here ++ later)) := by
  rw [evaluate, bind_of_ok searched]
  cases sectionText _ indent (sectionShown opening.t ctx) with
  | error failure => rfl
  | ok text => rfl

/-- The loop follows the script. -/
theorem gives_script (partials : ∀ action ∈ template.actions, action.t = .Partial →
      Includes load sub (template.tagName action))
    {script : Script Action} (all : script.All Plain Paired)
    (laid : template.actions = front ++ (script.layout Action.aim front.length ++ back))
    (describes : Describes front inside) (before : front.length + script.size ≤ actionEnd)
    (top : Value) (below : Stack) :
    Gives load template indent actionEnd (top :: below) front.length (front.length + script.size)
      (evaluate sub template indent script front.length inside (top :: below)) := by
  induction script generalizing front back inside actionEnd top below with
  | done => exact gives_nil front.length
  | plain action rest ih =>
      have member : action ∈ template.actions := by
        rw [laid]
        simp [Script.layout]
      have size : (front ++ [action]).length = front.length + 1 := List.length_append
      have regrouped : template.actions = (front ++ [action]) ++
          (rest.layout Action.aim (front ++ [action]).length ++ back) := by
        rw [laid, size]
        simp [Script.layout]
      rw [Script.size] at before
      have first : front.length < actionEnd := by omega
      have others : (front ++ [action]).length + rest.size ≤ actionEnd := by omega
      have later := ih all.2 regrouped (describes.plain all.1) others top below
      rw [size] at later
      rw [evaluate_plain, Script.size, Nat.add_comm rest.size, ← Nat.add_assoc]
      exact (gives_plain laid first describes all.1 (partials action member) top below).append later
  | block opening body closing rest body_ih rest_ih =>
      obtain ⟨paired, bodyAll, restAll⟩ := all
      rw [Script.size] at before
      obtain ⟨ctx, searched⟩ := findContext_cons (template.tagName opening) top below false
      have opened : template.actions = front ++ opening.aim (front.length + body.size + 1) ::
          (body.layout Action.aim (front.length + 1) ++ closing.aim front.length ::
            (rest.layout Action.aim (front.length + body.size + 2) ++ back)) := by
        rw [laid]
        simp [Script.layout]
      have entered : (front ++ [opening.aim (front.length + body.size + 1)]).length =
          front.length + 1 := List.length_append
      have regrouped : template.actions = (front ++ [opening.aim (front.length + body.size + 1)]) ++
          (body.layout Action.aim (front ++ [opening.aim (front.length + body.size + 1)]).length ++
            (closing.aim front.length ::
              (rest.layout Action.aim (front.length + body.size + 2) ++ back))) := by
        rw [opened, entered]
        simp
      have inner : Describes (front ++ [opening.aim (front.length + body.size + 1)])
          (within opening inside) := describes.opening paired.1
      have shows : ∀ view stop, front.length + body.size + 1 ≤ stop →
          Gives load template indent stop (view :: top :: below) (front.length + 1)
            (front.length + body.size + 1) (evaluate sub template indent body (front.length + 1)
              (within opening inside) (view :: top :: below)) := by
        intro view stop more
        have fits : (front ++ [opening.aim (front.length + body.size + 1)]).length + body.size ≤
            stop := by omega
        have given := body_ih bodyAll regrouped inner fits view (top :: below)
        rwa [entered, Nat.add_right_comm] at given
      have first : front.length + body.size + 1 < actionEnd := by omega
      let front' :=
        front ++ (Script.block opening body closing .done).layout Action.aim front.length
      have passed : front'.length = front.length + body.size + 2 := by
        rw [List.length_append, Script.length_layout]
        rfl
      have closed : template.actions =
          front' ++ (rest.layout Action.aim front'.length ++ back) := by
        rw [passed, opened]
        simp [front', Script.layout]
      have single : (Script.block opening body closing .done).All Plain Paired :=
        ⟨paired, bodyAll, trivial⟩
      have others : front'.length + rest.size ≤ actionEnd := by omega
      have later := rest_ih restAll closed (describes.script single front.length) others top below
      rw [passed] at later
      have stop : front.length + (body.size + rest.size + 2) =
          front.length + body.size + 2 + rest.size := by omega
      rw [evaluate_block searched, Script.size, stop]
      exact (gives_section opened first paired searched shows).append later

end Script

end DescargaP2P.Crow.Mustache
