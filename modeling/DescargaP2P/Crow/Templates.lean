import DescargaP2P.Blocks.Core
import DescargaP2P.Text.Bytes
import DescargaP2P.Text.Search

/-!
# Templates

The parser of `mustache::template_t`.  A template is cut into fragments, one before each
tag and one at the end; each tag leaves an action.  The actions of sections refer to each
other by their positions.  Templates are shorter than `2 ^ 31` bytes.
-/

namespace DescargaP2P.Crow.Mustache

open DescargaP2P.Blocks
open DescargaP2P.Text

/-! ## Data -/

/-- How parsing or rendering ends other than by its result. -/
inductive Failure
  /-- `invalid_template_exception`, with its `msg`. -/
  | invalidTemplate (msg : Bytes)
  /-- `std::runtime_error`. -/
  | runtimeError (what : Bytes)
  /-- Undefined behaviour. -/
  | undefined
  deriving DecidableEq, Repr

def invalid (msg : Bytes) : Failure := .invalidTemplate (ascii "crow::mustache error: " ++ msg)

inductive ActionType
  | Ignore
  | Tag
  | UnescapeTag
  | OpenBlock
  | CloseBlock
  | ElseBlock
  | Partial
  deriving DecidableEq, Repr

/-- `Action`.  The name of the tag stands between `start` and `stop`. -/
structure Action where
  t : ActionType
  start : Nat
  stop : Nat
  pos : Nat := 0
  deriving DecidableEq, Repr

def Action.aim (pos : Nat) (action : Action) : Action := { action with pos := pos }

/-- The indentation of a partial is kept in `pos`. -/
def Action.indent (spaces : Nat) (action : Action) : Action :=
  if action.t = .Partial then action.aim spaces else action

/-- `template_t`. -/
structure Template where
  body : Bytes
  fragments : List (Nat × Nat)
  actions : List Action
  deriving DecidableEq, Repr

/-- `body_[i]`; the byte after the last one is null. -/
def byteAt (body : Bytes) (i : Nat) : UInt8 := body.getD i 0

/-- `body_.substr(start, stop - start)`, where a negative count takes all the rest. -/
def textBetween (body : Bytes) (start stop : Nat) : Bytes :=
  (body.drop start).take (if stop < start then body.length else stop - start)

/-- `while (body_[idx] == ' ') idx++`. -/
def skipSpaces (body : Bytes) (idx : Nat) : Nat :=
  idx + ((body.drop idx).takeWhile (· == 32)).length

/-- `while (body_[endIdx - 1] == ' ') endIdx--`. -/
def trimSpaces (body : Bytes) (endIdx : Nat) : Nat :=
  endIdx - ((body.take endIdx).reverse.takeWhile (· == 32)).length

/-! ## Tags -/

/-- `parse` between two tags. -/
structure Parsing where
  current : Nat := 0
  tagOpen : Bytes := ascii "\x7b\x7b"
  tagClose : Bytes := ascii "\x7d\x7d"
  fragments : List (Nat × Nat) := []
  /-- `actions_` and `blockPositions`. -/
  blocks : Assembly Action := {}
  deriving DecidableEq, Repr

/-- The delimiters that a tag `{{=<% %>=}}` names. -/
def delimiters (body : Bytes) (idx endIdx : Nat) : Except Failure (Bytes × Bytes) :=
  if byteAt body (endIdx - 1) ≠ 61 then
    .error (invalid (ascii "\x7b\x7b=: not matching = tag: " ++ textBetween body idx (endIdx - 1)))
  else
    let start := skipSpaces body idx
    let stop := trimSpaces body (endIdx - 1)
    let blank := start + (((body.drop start).take (stop - start)).takeWhile (· != 32)).length
    if stop ≤ blank then
      .error (invalid (ascii "\x7b\x7b=: cannot find space between new open/close tags"))
    else
      let tagOpen := textBetween body start blank
      let tagClose := textBetween body (skipSpaces body blank) stop
      if tagOpen = [] then .error (invalid (ascii "\x7b\x7b=: empty open tag"))
      else if tagClose = [] then .error (invalid (ascii "\x7b\x7b=: empty close tag"))
      else if 32 ∈ tagClose then
        .error (invalid
          (ascii "\x7b\x7b=: invalid open/close tag: " ++ tagOpen ++ ascii " " ++ tagClose))
      else .ok (tagOpen, tagClose)

/-- The tag that closes the innermost section.  With no section open the source reads
the last element of an empty vector. -/
def closeSection (body : Bytes) (blocks : Assembly Action) (start stop : Nat) :
    Except Failure (Assembly Action) :=
  match blocks.pending.head?.bind fun matched => blocks.code[matched]? with
  | none => .error .undefined
  | some matched =>
      let opened := textBetween body matched.start matched.stop
      let closed := textBetween body start stop
      if closed ≠ opened then
        .error (invalid
          (ascii "not matched \x7b\x7b# \x7b\x7b/ pair: " ++ opened ++ ascii ", " ++ closed))
      else
        match blocks.closeBlock Action.aim ⟨.CloseBlock, start, stop, 0⟩ with
        | none => .error .undefined
        | some blocks => .ok blocks

/-- The `switch` of `parse`, for the tag from `idx` to `endIdx`. -/
def parseTag (body : Bytes) (parsing : Parsing) (idx endIdx : Nat) : Except Failure Parsing :=
  let next := { parsing with current := endIdx + parsing.tagClose.length }
  let start := skipSpaces body (idx + 1)
  let stop := trimSpaces body endIdx
  let emit (action : Action) : Parsing := { next with blocks := next.blocks.emit action }
  let opens (action : Action) : Parsing := { next with blocks := next.blocks.openBlock action }
  let mark := byteAt body idx
  if mark = 35 then .ok (opens ⟨.OpenBlock, start, stop, 0⟩)
  else if mark = 47 then
    (closeSection body next.blocks start stop).map fun blocks => { next with blocks := blocks }
  else if mark = 94 then .ok (opens ⟨.ElseBlock, start, stop, 0⟩)
  else if mark = 33 then .ok (emit ⟨.Ignore, idx + 1, endIdx, 0⟩)
  else if mark = 62 then .ok (emit ⟨.Partial, start, stop, 0⟩)
  else if mark = 123 then
    if parsing.tagOpen ≠ ascii "\x7b\x7b" ∨ parsing.tagClose ≠ ascii "\x7d\x7d" then
      .error (invalid (ascii "cannot use triple mustache when delimiter changed"))
    else if byteAt body (endIdx + 2) ≠ 125 then
      .error (invalid (ascii "\x7b\x7b\x7b: \x7d\x7d\x7d not matched"))
    else .ok { emit ⟨.UnescapeTag, start, stop, 0⟩ with current := next.current + 1 }
  else if mark = 38 then .ok (emit ⟨.UnescapeTag, start, stop, 0⟩)
  else if mark = 61 then
    (delimiters body (idx + 1) endIdx).map fun (tagOpen, tagClose) =>
      { emit ⟨.Ignore, idx + 1, endIdx, 0⟩ with tagOpen := tagOpen, tagClose := tagClose }
  else .ok (emit ⟨.Tag, skipSpaces body idx, stop, 0⟩)

/-- `body_.find(pattern, pos)`, where `none` stands for `npos`. -/
def findFrom (body pattern : Bytes) (pos : Nat) : Option Nat :=
  (findSub pattern (body.drop pos)).map (pos + ·)

/-- The loop over the tags.  The fuel bounds their number. -/
def parseLoop (body : Bytes) : Nat → Parsing → Option (Except Failure Parsing)
  | 0, _ => none
  | fuel + 1, parsing =>
      match findFrom body parsing.tagOpen parsing.current with
      | none =>
          some (.ok { parsing with
            fragments := parsing.fragments ++ [(parsing.current, body.length)]
            blocks := parsing.blocks.emit ⟨.Ignore, 0, 0, 0⟩ })
      | some found =>
          let idx := found + parsing.tagOpen.length
          match findFrom body parsing.tagClose idx with
          | none => some (.error (invalid (ascii "not matched opening tag")))
          | some endIdx =>
              if endIdx = idx then some (.error (invalid (ascii "empty tag is not allowed")))
              else
                let fragments := parsing.fragments ++ [(parsing.current, found)]
                match parseTag body { parsing with fragments := fragments } idx endIdx with
                | .error failure => some (.error failure)
                | .ok next => parseLoop body fuel next

/-! ## Standalone tags -/

/-- Of a tag that shows nothing and stands alone on its line, the spaces before it and
the fragments without the line. -/
def standalone (i : Nat) (template : Template) : Option (Nat × List (Nat × Nat)) :=
  let body := template.body
  let isLast := i + 2 == template.actions.length
  let shows := (template.actions[i]?).any fun action =>
    action.t == .Tag || action.t == .UnescapeTag
  let (first, second) := template.fragments.getD i (0, 0)
  let (nextFirst, nextSecond) := template.fragments.getD (i + 1) (0, 0)
  let before := (body.drop first).take (second - first)
  let after := (body.drop nextFirst).take (nextSecond - nextFirst)
  let spaces := (before.reverse.takeWhile (· == 32)).length
  let allSpaceBefore := before.all (· == 32)
  let allSpaceAfter := after.all (· == 32)
  let k := nextFirst + (after.takeWhile (· == 32)).length
  let newline := byteAt body k == 10
  let carriage := byteAt body k == 13 && k + 1 < body.length && byteAt body (k + 1) == 10
  let shortened := template.fragments.modify i fun (first, second) => (first, second - spaces)
  if shows then none
  else if allSpaceBefore && 0 < i then none
  else if !allSpaceBefore && byteAt body (second - spaces - 1) != 10 then none
  else if allSpaceAfter && !isLast then none
  else if !allSpaceAfter && !(newline || carriage) then none
  else if allSpaceAfter then some (spaces, shortened)
  else
    some (spaces, shortened.modify (i + 1) fun (_, second) =>
      (if newline then k + 1 else k + 2, second))

def removeStandalone (i : Nat) (template : Template) : Template :=
  match standalone i template with
  | none => template
  | some (spaces, fragments) =>
      { template with
        actions := template.actions.modify i (Action.indent spaces)
        fragments := fragments }

/-- The actions before the last one, from the last to the first. -/
def removeStandalones : Nat → Template → Template
  | 0, template => template
  | i + 1, template => removeStandalones i (removeStandalone i template)

/-- `template_t(body)`. -/
def parse (body : Bytes) : Except Failure Template :=
  match parseLoop body (body.length + 1) {} with
  | none => .error .undefined
  | some (.error failure) => .error failure
  | some (.ok parsing) =>
      .ok (removeStandalones (parsing.blocks.code.length - 1)
        ⟨body, parsing.fragments, parsing.blocks.code⟩)

/-! ## One tag -/

theorem findFrom_eq_some {body pattern : Bytes} {pos found : Nat}
    (first : findFrom body pattern pos = some found) (nonempty : pattern ≠ []) :
    pos ≤ found ∧ found + pattern.length ≤ body.length := by
  obtain ⟨offset, occurs, rfl⟩ := Option.map_eq_some_iff.mp first
  have cut := congrArg List.length (findSub_eq_some_cut occurs).1
  have positive := List.length_pos_iff.mpr nonempty
  simp only [List.length_append, List.length_take, List.length_drop] at cut
  omega

/-- An action that stands for itself. -/
def Plain (action : Action) : Prop :=
  action.t ≠ .OpenBlock ∧ action.t ≠ .ElseBlock ∧ action.t ≠ .CloseBlock

/-- The actions of a section before it is closed. -/
def Paired (opening closing : Action) : Prop :=
  (opening.t = .OpenBlock ∨ opening.t = .ElseBlock) ∧ opening.pos = 0 ∧ closing.t = .CloseBlock

def Closing (action : Action) : Prop := action.t = .CloseBlock

/-- What a tag does to the actions. -/
inductive Grows (blocks next : Assembly Action) : Prop
  | plain (action : Action) : Plain action → next = blocks.emit action → Grows blocks next
  | opening (action : Action) : (∀ closing, Closing closing → Paired action closing) →
      next = blocks.openBlock action → Grows blocks next
  | closing (action : Action) : Closing action →
      blocks.closeBlock Action.aim action = some next → Grows blocks next

/-- What a tag does. -/
structure Parsed (parsing next : Parsing) (endIdx : Nat) : Prop where
  fragments : next.fragments = parsing.fragments
  current : endIdx ≤ next.current
  tagOpen : parsing.tagOpen ≠ [] → next.tagOpen ≠ []
  blocks : Grows parsing.blocks next.blocks

theorem except_map_eq_ok {β γ : Type} {f : β → γ} {result : Except Failure β} {value : γ}
    (mapped : result.map f = .ok value) : ∃ before, result = .ok before ∧ f before = value := by
  cases result with
  | error failure => cases mapped
  | ok before => exact ⟨before, rfl, Except.ok.inj mapped⟩

theorem bind_of_ok {β γ : Type} {result : Except Failure β} {value : β}
    (given : result = .ok value) (next : β → Except Failure γ) :
    (result >>= next) = next value := by
  rw [given]
  rfl

theorem bind_eq_ok {β γ : Type} {result : Except Failure β} {next : β → Except Failure γ}
    {value : γ} (given : (result >>= next) = .ok value) :
    ∃ middle, result = .ok middle ∧ next middle = .ok value := by
  cases result with
  | error failure => cases given
  | ok middle => exact ⟨middle, rfl, given⟩

theorem closeSection_grows {body : Bytes} {blocks next : Assembly Action} {start stop : Nat}
    (closed : closeSection body blocks start stop = .ok next) : Grows blocks next := by
  unfold closeSection at closed
  split at closed
  · cases closed
  · simp only at closed
    split at closed
    · cases closed
    · split at closed
      · cases closed
      · rename_i closing
        obtain rfl := Except.ok.inj closed
        exact .closing ⟨.CloseBlock, start, stop, 0⟩ rfl closing

theorem delimiters_ne_nil {body : Bytes} {idx endIdx : Nat} {named : Bytes × Bytes}
    (read : delimiters body idx endIdx = .ok named) : named.1 ≠ [] := by
  unfold delimiters at read
  simp only at read
  split_ifs at read with _ _ empty
  obtain rfl := Except.ok.inj read
  exact empty

theorem parseTag_parsed {body : Bytes} {parsing next : Parsing} {idx endIdx : Nat}
    (parsed : parseTag body parsing idx endIdx = .ok next) : Parsed parsing next endIdx := by
  have later := Nat.le_add_right endIdx parsing.tagClose.length
  have plain : ∀ t start stop, t = .Ignore ∨ t = .Tag ∨ t = .UnescapeTag ∨ t = .Partial →
      Grows parsing.blocks (parsing.blocks.emit ⟨t, start, stop, 0⟩) := by
    rintro t start stop kind
    refine .plain _ ?_ rfl
    rcases kind with rfl | rfl | rfl | rfl <;> exact ⟨nofun, nofun, nofun⟩
  have opens : ∀ t start stop, t = .OpenBlock ∨ t = .ElseBlock →
      Grows parsing.blocks (parsing.blocks.openBlock ⟨t, start, stop, 0⟩) :=
    fun t start stop kind => .opening _ (fun _ closes => ⟨kind, rfl, closes⟩) rfl
  unfold parseTag at parsed
  simp only at parsed
  split_ifs at parsed with opening closing inverted comment includes triple changed unmatched
    unescaped changes
  · obtain rfl := Except.ok.inj parsed
    exact ⟨rfl, later, id, opens _ _ _ (.inl rfl)⟩
  · obtain ⟨blocks, closed, rfl⟩ := except_map_eq_ok parsed
    exact ⟨rfl, later, id, closeSection_grows closed⟩
  · obtain rfl := Except.ok.inj parsed
    exact ⟨rfl, later, id, opens _ _ _ (.inr rfl)⟩
  · obtain rfl := Except.ok.inj parsed
    exact ⟨rfl, later, id, plain _ _ _ (.inl rfl)⟩
  · obtain rfl := Except.ok.inj parsed
    exact ⟨rfl, later, id, plain _ _ _ (.inr (.inr (.inr rfl)))⟩
  · obtain rfl := Except.ok.inj parsed
    exact ⟨rfl, Nat.le_succ_of_le later, id, plain _ _ _ (.inr (.inr (.inl rfl)))⟩
  · obtain rfl := Except.ok.inj parsed
    exact ⟨rfl, later, id, plain _ _ _ (.inr (.inr (.inl rfl)))⟩
  · obtain ⟨named, read, rfl⟩ := except_map_eq_ok parsed
    exact ⟨rfl, later, fun _ => delimiters_ne_nil read, plain _ _ _ (.inl rfl)⟩
  · obtain rfl := Except.ok.inj parsed
    exact ⟨rfl, later, id, plain _ _ _ (.inr (.inl rfl))⟩

/-! ## The loop -/

/-- `parse` after the last tag. -/
def Parsing.finish (body : Bytes) (parsing : Parsing) : Parsing :=
  { parsing with
    fragments := parsing.fragments ++ [(parsing.current, body.length)]
    blocks := parsing.blocks.emit ⟨.Ignore, 0, 0, 0⟩ }

/-- What one iteration does. -/
inductive Iteration (body : Bytes) (parsing : Parsing) : Prop
  | fails (failure : Failure) :
      (∀ fuel, parseLoop body (fuel + 1) parsing = some (.error failure)) → Iteration body parsing
  | ends : (∀ fuel, parseLoop body (fuel + 1) parsing = some (.ok (parsing.finish body))) →
      Iteration body parsing
  | goes (found endIdx : Nat) (next : Parsing) :
      parsing.current ≤ found → found + parsing.tagOpen.length ≤ body.length →
      found + parsing.tagOpen.length ≤ endIdx →
      Parsed { parsing with fragments := parsing.fragments ++ [(parsing.current, found)] } next
        endIdx →
      (∀ fuel, parseLoop body (fuel + 1) parsing = parseLoop body fuel next) →
      Iteration body parsing

theorem iteration (body : Bytes) {parsing : Parsing} (nonempty : parsing.tagOpen ≠ []) :
    Iteration body parsing := by
  cases first : findFrom body parsing.tagOpen parsing.current with
  | none => exact .ends fun fuel => by rw [parseLoop, first, Parsing.finish]
  | some found =>
      have inside := findFrom_eq_some first nonempty
      cases second : findFrom body parsing.tagClose (found + parsing.tagOpen.length) with
      | none => exact .fails _ fun fuel => by simp only [parseLoop, first, second]; rfl
      | some endIdx =>
          have later : found + parsing.tagOpen.length ≤ endIdx := by
            obtain ⟨offset, _, rfl⟩ := Option.map_eq_some_iff.mp second
            exact Nat.le_add_right _ offset
          by_cases empty : endIdx = found + parsing.tagOpen.length
          · exact .fails _ fun fuel => by simp only [parseLoop, first, second, empty, if_true]; rfl
          · cases tag : parseTag body
                { parsing with fragments := parsing.fragments ++ [(parsing.current, found)] }
                (found + parsing.tagOpen.length) endIdx with
            | error failure =>
                exact .fails failure fun fuel => by
                  simp only [parseLoop, first, second, empty, if_false, tag]
            | ok next =>
                exact .goes found endIdx next inside.1 inside.2 later (parseTag_parsed tag)
                  fun fuel => by simp only [parseLoop, first, second, empty, if_false, tag]

/-- The fuel of `parse` is enough. -/
theorem exists_parseLoop {body : Bytes} {fuel : Nat} {parsing : Parsing}
    (nonempty : parsing.tagOpen ≠ []) (enough : body.length ≤ fuel + parsing.current) :
    ∃ result, parseLoop body (fuel + 1) parsing = some result := by
  induction fuel generalizing parsing with
  | zero =>
      cases iteration body nonempty with
      | fails failure fails => exact ⟨_, fails 0⟩
      | ends ends => exact ⟨_, ends 0⟩
      | goes found endIdx next after inside =>
          have positive := List.length_pos_iff.mpr nonempty
          omega
  | succ fuel ih =>
      cases iteration body nonempty with
      | fails failure fails => exact ⟨_, fails _⟩
      | ends ends => exact ⟨_, ends _⟩
      | goes found endIdx next after inside later parsed goes =>
          have positive := List.length_pos_iff.mpr nonempty
          have current := parsed.current
          rw [goes]
          exact ih (parsed.tagOpen nonempty) (by omega)

/-- What has been parsed: laid out sections, with a fragment before each tag. -/
structure Sound (parsing : Parsing) : Prop where
  tagOpen : parsing.tagOpen ≠ []
  blocks : Assembled Action.aim Plain Paired Closing parsing.blocks
  fragments : parsing.fragments.length = parsing.blocks.code.length

theorem Grows.assembled {blocks next : Assembly Action} (grows : Grows blocks next)
    (assembled : Assembled Action.aim Plain Paired Closing blocks) :
    Assembled Action.aim Plain Paired Closing next ∧
      next.code.length = blocks.code.length + 1 := by
  cases grows with
  | plain action plain grown =>
      exact ⟨grown ▸ assembled.emit plain, grown ▸ Assembly.length_emit action blocks⟩
  | opening action opens grown =>
      exact ⟨grown ▸ assembled.openBlock opens, grown ▸ Assembly.length_openBlock action blocks⟩
  | closing action closes closed =>
      exact ⟨assembled.closeBlock closes closed, Assembly.length_closeBlock closed⟩

theorem sound_start : Sound {} := ⟨List.cons_ne_nil _ _, assembled_empty, rfl⟩

theorem Sound.parseLoop {body : Bytes} {fuel : Nat} {parsing last : Parsing}
    (sound : Sound parsing) (looped : parseLoop body fuel parsing = some (.ok last)) :
    ∃ before, Sound before ∧ last = before.finish body := by
  induction fuel generalizing parsing with
  | zero => cases looped
  | succ fuel ih =>
      cases iteration body sound.tagOpen with
      | fails failure fails => rw [fails] at looped; cases looped
      | ends ends =>
          rw [ends] at looped
          exact ⟨parsing, sound, (Except.ok.inj (Option.some.inj looped)).symm⟩
      | goes found endIdx next after inside later parsed goes =>
          obtain ⟨assembled, longer⟩ := parsed.blocks.assembled sound.blocks
          rw [goes] at looped
          refine ih ⟨parsed.tagOpen sound.tagOpen, assembled, ?_⟩ looped
          rw [parsed.fragments, List.length_append, sound.fragments, longer]
          rfl

/-! ## The sections of a template -/

/-- Every section is closed: a section that is not refers to no other action. -/
def Template.Closed (template : Template) : Prop :=
  ∀ action ∈ template.actions, action.t = .OpenBlock ∨ action.t = .ElseBlock → action.pos ≠ 0

instance (template : Template) : Decidable template.Closed :=
  inferInstanceAs (Decidable (∀ action ∈ template.actions, _))

/-- The actions are the layout of a script, with an action that does nothing at the end. -/
structure Laid (template : Template) (script : Script Action) : Prop where
  all : script.All Plain Paired
  actions : template.actions = script.layout Action.aim 0 ++ [⟨.Ignore, 0, 0, 0⟩]
  fragments : template.fragments.length = template.actions.length

theorem indent_of_ne {action : Action} (other : action.t ≠ .Partial) (spaces : Nat) :
    action.indent spaces = action := if_neg other

theorem standalone_length {i : Nat} {template : Template} {spaces : Nat}
    {fragments : List (Nat × Nat)} (alone : standalone i template = some (spaces, fragments)) :
    fragments.length = template.fragments.length := by
  unfold standalone at alone
  simp only at alone
  iterate 5 (split at alone; · cases alone)
  split at alone
  · cases alone
    rw [List.length_modify]
  · cases alone
    rw [List.length_modify, List.length_modify]

/-- A standalone tag changes fragments and indents a partial. -/
theorem removeStandalone_cases (i : Nat) (template : Template) :
    removeStandalone i template = template ∨
    ∃ spaces fragments, fragments.length = template.fragments.length ∧
      removeStandalone i template = { template with
        actions := template.actions.modify i (Action.indent spaces)
        fragments := fragments } := by
  cases alone : standalone i template with
  | none => exact .inl (by rw [removeStandalone, alone])
  | some changed =>
      exact .inr ⟨changed.1, changed.2, standalone_length alone, by rw [removeStandalone, alone]⟩

theorem mem_removeStandalone {action : Action} {template : Template} (other : action.t ≠ .Partial)
    (member : action ∈ template.actions) (i : Nat) :
    action ∈ (removeStandalone i template).actions := by
  rcases removeStandalone_cases i template with same | ⟨spaces, fragments, -, changed⟩
  · rwa [same]
  · obtain ⟨j, inside, rfl⟩ := List.mem_iff_getElem.mp member
    rw [changed, List.mem_iff_getElem]
    refine ⟨j, by rwa [List.length_modify], ?_⟩
    rw [List.getElem_modify]
    split
    · exact indent_of_ne other spaces
    · rfl

theorem mem_removeStandalones {action : Action} {template : Template}
    (other : action.t ≠ .Partial) (member : action ∈ template.actions) (i : Nat) :
    action ∈ (removeStandalones i template).actions := by
  induction i generalizing template with
  | zero => exact member
  | succ i ih => exact ih (mem_removeStandalone other member i)

theorem body_removeStandalones (i : Nat) (template : Template) :
    (removeStandalones i template).body = template.body := by
  induction i generalizing template with
  | zero => rfl
  | succ i ih =>
      rw [removeStandalones, ih]
      rcases removeStandalone_cases i template with same | ⟨spaces, fragments, -, changed⟩
      · rw [same]
      · rw [changed]

theorem Plain.indent {action : Action} (plain : Plain action) (spaces : Nat) :
    Plain (action.indent spaces) := by
  unfold Action.indent
  split
  · exact plain
  · exact plain

/-- The pair of a section is not indented. -/
theorem Paired.indent {opening closing : Action} (paired : Paired opening closing)
    (spaces pos : Nat) :
    (opening.aim pos).indent spaces = opening.aim pos ∧
      (closing.aim pos).indent spaces = closing.aim pos := by
  constructor
  · apply indent_of_ne
    rcases paired.1 with kind | kind <;> simp [Action.aim, kind]
  · apply indent_of_ne
    simp [Action.aim, paired.2.2]

theorem Laid.removeStandalone {template : Template} {script : Script Action}
    (laid : Laid template script) {i : Nat} (inside : i < script.size) :
    ∃ changed : Script Action, changed.size = script.size ∧
      Laid (removeStandalone i template) changed := by
  rcases removeStandalone_cases i template with same | ⟨spaces, fragments, length, removed⟩
  · rw [same]
    exact ⟨script, rfl, laid⟩
  · have plain : ∀ action, Plain action → Plain (action.indent spaces) :=
      fun action plain => plain.indent spaces
    have paired : ∀ opening closing, Paired opening closing → ∀ pos,
        (opening.aim pos).indent spaces = opening.aim pos ∧
          (closing.aim pos).indent spaces = closing.aim pos :=
      fun opening closing paired => paired.indent spaces
    obtain ⟨changed, all, size, layout⟩ :=
      Script.exists_layout_modify Action.aim plain paired laid.all 0 i
    have shorter : i < (script.layout Action.aim 0).length := by rwa [Script.length_layout]
    refine ⟨changed, size, all, ?_, ?_⟩
    · rw [removed, layout, laid.actions, modify_append_of_lt shorter]
    · rw [removed, length, List.length_modify, laid.fragments]

theorem Laid.removeStandalones {template : Template} {script : Script Action}
    (laid : Laid template script) {i : Nat} (inside : i ≤ script.size) :
    ∃ changed : Script Action, Laid (removeStandalones i template) changed := by
  induction i generalizing template script with
  | zero => exact ⟨script, laid⟩
  | succ i ih =>
      obtain ⟨changed, size, next⟩ := laid.removeStandalone inside
      exact ih next (size ▸ Nat.le_of_succ_le inside)

/-- What `parse` gives before the standalone tags are removed. -/
theorem parse_cases {body : Bytes} {template : Template} (parsed : parse body = .ok template) :
    ∃ parsing, Sound parsing ∧ template = removeStandalones parsing.blocks.code.length
      ⟨body, parsing.fragments ++ [(parsing.current, body.length)],
        parsing.blocks.code ++ [⟨.Ignore, 0, 0, 0⟩]⟩ := by
  unfold parse at parsed
  split at parsed
  · cases parsed
  · cases parsed
  · rename_i last looped
    obtain ⟨parsing, sound, rfl⟩ := sound_start.parseLoop looped
    refine ⟨parsing, sound, (Except.ok.inj parsed).symm.trans ?_⟩
    simp [Parsing.finish, Assembly.emit]

/-- The actions of a template whose sections are closed are laid out in order. -/
theorem exists_laid {body : Bytes} {template : Template} (parsed : parse body = .ok template)
    (closed : template.Closed) :
    template.body = body ∧ ∃ script : Script Action, Laid template script := by
  obtain ⟨parsing, sound, rfl⟩ := parse_cases parsed
  refine ⟨body_removeStandalones _ _, ?_⟩
  have done : parsing.blocks.pending = [] := by
    by_contra left
    obtain ⟨opening, member, opens⟩ := sound.blocks.exists_open left
    obtain ⟨kind, pos, -⟩ := opens ⟨.CloseBlock, 0, 0, 0⟩ rfl
    have other : opening.t ≠ .Partial := by
      rcases kind with kind | kind <;> simp [kind]
    exact closed opening
      (mem_removeStandalones other (List.mem_append_left _ member) _) kind pos
  obtain ⟨script, all, code⟩ := sound.blocks.exists_script done
  have laid : Laid ⟨body, parsing.fragments ++ [(parsing.current, body.length)],
      parsing.blocks.code ++ [⟨.Ignore, 0, 0, 0⟩]⟩ script := by
    refine ⟨all, ?_, ?_⟩
    · rw [code]
    · rw [List.length_append, List.length_append, sound.fragments]
      rfl
  apply laid.removeStandalones
  rw [code, Script.length_layout]

/-- The fuel of the parser does not run out. -/
theorem exists_parsed (body : Bytes) :
    ∃ result, parseLoop body (body.length + 1) {} = some result :=
  exists_parseLoop (List.cons_ne_nil _ _) (Nat.le_refl _)

end DescargaP2P.Crow.Mustache
