import DescargaP2P.Crow.Templates

/-!
# Rendering

`template_t::render_internal` goes over the actions of a template with a stack of
contexts, the innermost one first.  A section jumps to its closing tag, is entered with a
context on the stack or is rendered once for each element of a list.  A loop can also jump
back, to a section that was never closed: its iterations are bounded by fuel.
-/

namespace DescargaP2P.Crow.Mustache

open DescargaP2P.Text

/-! ## Contexts -/

/-- `json::wvalue`, with integers for its numbers.  The keys of an object are distinct. -/
inductive Value
  | null
  | boolean (value : Bool)
  | number (value : Int)
  | string (s : Bytes)
  | list (l : List Value)
  | object (o : List (Bytes × Value))

namespace Value

/-- The number of `t()`. -/
def t : Value → Nat
  | null => 0
  | boolean false => 1
  | boolean true => 2
  | number _ => 3
  | string _ => 4
  | list _ => 5
  | object _ => 6

def isObject : Value → Bool
  | object _ => true
  | _ => false

/-- `(*view)[name]`, if `view->count(name)`. -/
def field (name : Bytes) : Value → Option Value
  | object o => (o.find? fun entry => entry.1 == name).map Prod.snd
  | _ => none

/-- The names of a path, one inside the other. -/
def follow (names : List Bytes) (view : Value) : Option Value :=
  names.foldlM (fun view name => view.field name) view

end Value

/-- The contexts, the innermost one first. -/
abbrev Stack := List Value

/-- `find_context`.  What is not found is the empty string. -/
def findContext (name : Bytes) (stack : Stack) (shouldUseOnlyFirstStackValue : Bool) :
    Except Failure (Option Value) :=
  if name = ascii "." then
    match stack with
    | [] => .error .undefined
    | top :: _ => .ok (some top)
  else if 46 ∈ name then
    let names := name.splitOn 46
    .ok (if shouldUseOnlyFirstStackValue then stack.head?.bind (Value.follow names)
      else stack.findSome? (Value.follow names))
  else .ok (stack.findSome? (Value.field name))

/-! ## Texts -/

/-- `std::to_string`. -/
def integerText (value : Int) : Bytes :=
  if value < 0 then 45 :: decimal value.natAbs else decimal value.natAbs

def escapeByte (byte : UInt8) : Bytes :=
  if byte = 38 then ascii "&amp;"
  else if byte = 60 then ascii "&lt;"
  else if byte = 62 then ascii "&gt;"
  else if byte = 34 then ascii "&quot;"
  else if byte = 39 then ascii "&#39;"
  else if byte = 47 then ascii "&#x2F;"
  else if byte = 96 then ascii "&#x60;"
  else if byte = 61 then ascii "&#x3D;"
  else [byte]

def escape (text : Bytes) : Bytes := text.flatMap escapeByte

/-- What a tag shows of its value. -/
def tagText (escapes : Bool) : Value → Except Failure Bytes
  | .boolean value => .ok (if value then ascii "true" else ascii "false")
  | .number value => .ok (integerText value)
  | .string s => .ok (if escapes then escape s else s)
  | value => .error (.runtimeError (ascii "not implemented tag type" ++ decimal value.t))

def spaces (indent : Nat) : Bytes := List.replicate indent 32

namespace Template

def tagName (template : Template) (action : Action) : Bytes :=
  textBetween template.body action.start action.stop

/-- `render_fragment`.  Indented, each line but an empty last one is. -/
def fragment (template : Template) (i indent : Nat) : Bytes :=
  let (first, second) := template.fragments.getD i (0, 0)
  if indent = 0 then textBetween template.body first second
  else
    (List.range' first (second - first)).flatMap fun i =>
      let byte := byteAt template.body i
      byte :: if byte == 10 && i + 1 != template.body.length then spaces indent else []

end Template

/-! ## Actions -/

/-- `isTagInsideObjectBlock` over the actions before the tag, the last one first. -/
def insideLoop (stack : Stack) : List Action → Int → Except Failure Bool
  | [], _ => .ok false
  | action :: before, openedBlock =>
      match action.t with
      | .OpenBlock =>
          if openedBlock = 0 then
            match stack with
            | [] => .error .undefined
            | top :: _ =>
                if top.isObject then .ok true else insideLoop stack before (openedBlock - 1)
          else insideLoop stack before (openedBlock - 1)
      | .CloseBlock => insideLoop stack before (openedBlock + 1)
      | _ => insideLoop stack before openedBlock

def isTagInsideObjectBlock (template : Template) (current : Nat) (stack : Stack) :
    Except Failure Bool :=
  insideLoop stack (template.actions.take current).reverse 0

/-- How often a section is shown, and with which contexts. -/
inductive Shown
  | never
  | once (top : Value)
  | each (items : List Value)

/-- A section. -/
def shown : Option Value → Shown
  | none | some .null | some (.boolean false) => .never
  | some (.list l) => .each l
  | some value => .once value

/-- An inverted section. -/
def shownElse : Option Value → Shown
  | none | some .null | some (.boolean false) | some (.list []) => .once .null
  | some _ => .never

def sectionShown (t : ActionType) (ctx : Option Value) : Shown :=
  if t = .OpenBlock then shown ctx else shownElse ctx

/-- What the loop does after an action. -/
inductive Move
  | advance (stack : Stack) (text : Bytes)
  /-- `current = action.pos`. -/
  | jump
  | each (items : List Value)
  | inserts (included : Template) (indent : Nat)

/-- The indentation of a partial. -/
def innerIndent (indent : Nat) (action : Action) : Nat :=
  if action.pos = 0 then 0 else indent + action.pos

/-- The `switch` of `render_internal`. -/
def move (load : Bytes → Except Failure Template) (template : Template) (action : Action)
    (current indent : Nat) (stack : Stack) : Except Failure Move :=
  let name := template.tagName action
  match action.t with
  | .Ignore => .ok (.advance stack [])
  | .Partial => (load name).map fun included => .inserts included (innerIndent indent action)
  | .Tag | .UnescapeTag => do
      let onlyFirst ← isTagInsideObjectBlock template current stack
      let ctx ← findContext name stack onlyFirst
      let text ← tagText (action.t == .Tag) (ctx.getD (.string []))
      .ok (.advance stack text)
  | .OpenBlock | .ElseBlock => do
      let ctx ← findContext name stack false
      match sectionShown action.t ctx with
      | .never => .ok .jump
      | .once top => .ok (.advance (top :: stack) [])
      | .each items => .ok (.each items)
  | .CloseBlock =>
      match stack with
      | [] => .error .undefined
      | _ :: below => .ok (.advance below [])

section Move

variable {load : Bytes → Except Failure Template} {template : Template} {action : Action}
  {current indent : Nat} {stack : Stack}

theorem move_ignore (kind : action.t = .Ignore) :
    move load template action current indent stack = .ok (.advance stack []) := by
  unfold move
  rw [kind]

theorem move_tag (kind : action.t = .Tag ∨ action.t = .UnescapeTag) {onlyFirst : Bool}
    {ctx : Option Value} (found : isTagInsideObjectBlock template current stack = .ok onlyFirst)
    (searched : findContext (template.tagName action) stack onlyFirst = .ok ctx) :
    move load template action current indent stack =
      (tagText (action.t == .Tag) (ctx.getD (.string []))).map (.advance stack) := by
  have bound : move load template action current indent stack = (do
      let onlyFirst ← isTagInsideObjectBlock template current stack
      let ctx ← findContext (template.tagName action) stack onlyFirst
      (tagText (action.t == .Tag) (ctx.getD (.string []))).map (.advance stack)) := by
    unfold move
    rcases kind with kind | kind
    · rw [kind]
      rfl
    · rw [kind]
      rfl
  rw [bound, bind_of_ok found, bind_of_ok searched]

theorem move_inclusion (kind : action.t = .Partial) :
    move load template action current indent stack =
      (load (template.tagName action)).map fun included =>
        .inserts included (innerIndent indent action) := by
  unfold move
  rw [kind]

theorem move_section (kind : action.t = .OpenBlock ∨ action.t = .ElseBlock) {ctx : Option Value}
    (searched : findContext (template.tagName action) stack false = .ok ctx) :
    move load template action current indent stack =
      match sectionShown action.t ctx with
      | .never => .ok .jump
      | .once top => .ok (.advance (top :: stack) [])
      | .each items => .ok (.each items) := by
  unfold move
  rcases kind with kind | kind
  · rw [kind]
    exact bind_of_ok searched _
  · rw [kind]
    exact bind_of_ok searched _

theorem move_close (kind : action.t = .CloseBlock) (top : Value) :
    move load template action current indent (top :: stack) = .ok (.advance stack []) := by
  unfold move
  rw [kind]

end Move

/-- The stack and the text after rendering; `none` without fuel. -/
abbrev Outcome := Option (Except Failure (Stack × Bytes))

def Outcome.andThen (outcome : Outcome) (next : Stack → Bytes → Outcome) : Outcome :=
  outcome.bind fun
    | .ok (stack, out) => next stack out
    | .error failure => some (.error failure)

/-- The body of a section for each element of a list, which is pushed and popped. -/
def eachItem (body : Stack → Bytes → Outcome) : List Value → Stack → Bytes → Outcome
  | [], stack, out => some (.ok (stack, out))
  | item :: items, stack, out =>
      (body (item :: stack) out).andThen fun stack out =>
        match stack with
        | [] => some (.error .undefined)
        | _ :: below => eachItem body items below out

/-- The loop of `render_internal`. -/
def renderLoop (load : Bytes → Except Failure Template) :
    Nat → Template → (current actionEnd indent : Nat) → Stack → Bytes → Outcome
  | 0, _, _, _, _, _, _ => none
  | fuel + 1, template, current, actionEnd, indent, stack, out =>
      if actionEnd ≤ current then
        some (.ok (stack, out ++ template.fragment actionEnd indent))
      else
        let out := out ++ template.fragment current indent
        match template.actions[current]? with
        | none => some (.error .undefined)
        | some action =>
            match move load template action current indent stack with
            | .error failure => some (.error failure)
            | .ok (.advance stack text) =>
                renderLoop load fuel template (current + 1) actionEnd indent stack (out ++ text)
            | .ok .jump =>
                renderLoop load fuel template (action.pos + 1) actionEnd indent stack out
            | .ok (.each items) =>
                (eachItem (fun stack out =>
                    renderLoop load fuel template (current + 1) action.pos indent stack
                      (out ++ spaces indent)) items stack out).andThen fun stack out =>
                  renderLoop load fuel template (action.pos + 1) actionEnd indent stack out
            | .ok (.inserts included inner) =>
                (renderLoop load fuel included 0 (included.fragments.length - 1) inner stack
                    (out ++ spaces inner)).andThen fun stack out =>
                  renderLoop load fuel template (current + 1) actionEnd indent stack out

/-! ## More fuel -/

theorem Outcome.andThen_mono {first second : Outcome} {next other : Stack → Bytes → Outcome}
    (before : ∀ result, first = some result → second = some result)
    (after : ∀ stack out result, next stack out = some result → other stack out = some result)
    {result : Except Failure (Stack × Bytes)} (given : first.andThen next = some result) :
    second.andThen other = some result := by
  obtain ⟨middle, found, goes⟩ := Option.bind_eq_some_iff.mp given
  rw [before middle found]
  cases middle with
  | error failure => exact goes
  | ok state => exact after state.1 state.2 result goes

theorem eachItem_mono {body other : Stack → Bytes → Outcome}
    (grows : ∀ stack out result, body stack out = some result → other stack out = some result)
    {items : List Value} {stack : Stack} {out : Bytes} {result : Except Failure (Stack × Bytes)}
    (given : eachItem body items stack out = some result) :
    eachItem other items stack out = some result := by
  induction items generalizing stack out result with
  | nil => exact given
  | cons item items ih =>
      apply Outcome.andThen_mono (grows (item :: stack) out) _ given
      intro after text result shown
      cases after with
      | nil => exact shown
      | cons top below => exact ih (show eachItem body items below text = some result from shown)

/-- More fuel gives the same result. -/
theorem renderLoop_mono {load : Bytes → Except Failure Template} {fuel : Nat} {template : Template}
    {current actionEnd indent : Nat} {stack : Stack} {out : Bytes}
    {result : Except Failure (Stack × Bytes)}
    (given : renderLoop load fuel template current actionEnd indent stack out = some result) :
    renderLoop load (fuel + 1) template current actionEnd indent stack out = some result := by
  induction fuel generalizing template current actionEnd indent stack out result with
  | zero => cases given
  | succ fuel ih =>
      rw [renderLoop] at given ⊢
      by_cases ended : actionEnd ≤ current
      · rw [if_pos ended] at given ⊢
        exact given
      · rw [if_neg ended] at given ⊢
        cases here : template.actions[current]? with
        | none =>
            rw [here] at given
            exact given
        | some action =>
            rw [here] at given
            dsimp only at given ⊢
            cases moved : move load template action current indent stack with
            | error failure =>
                rw [moved] at given
                exact given
            | ok next =>
                rw [moved] at given
                cases next with
                | advance stack text => exact ih given
                | jump => exact ih given
                | each items =>
                    apply Outcome.andThen_mono _ (fun _ _ _ later => ih later) given
                    exact fun _ shown => eachItem_mono (fun _ _ _ shown => ih shown) shown
                | inserts included inner =>
                    exact Outcome.andThen_mono (fun _ shown => ih shown)
                      (fun _ _ _ later => ih later) given

/-- `render`. -/
def render (load : Bytes → Except Failure Template) (fuel : Nat) (template : Template)
    (ctx : Value) : Option (Except Failure Bytes) :=
  (renderLoop load fuel template 0 (template.fragments.length - 1) 0 [ctx] []).map
    fun result => result.map Prod.snd

theorem render_mono {load : Bytes → Except Failure Template} {fuel : Nat} {template : Template}
    {ctx : Value} {result : Except Failure Bytes}
    (given : render load fuel template ctx = some result) :
    render load (fuel + 1) template ctx = some result := by
  obtain ⟨last, looped, shown⟩ := Option.map_eq_some_iff.mp given
  rw [render, renderLoop_mono looped, Option.map_some, shown]

end DescargaP2P.Crow.Mustache
