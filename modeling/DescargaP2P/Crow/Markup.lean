import DescargaP2P.Crow.Meaning
import Mathlib.Computability.Language

/-!
# Markup

What a template without unescaped tags shows of its context has no markup.  The rest of a
rendered text are fragments of the template and of its partials.
-/

namespace DescargaP2P.Crow.Mustache

open DescargaP2P.Text
open scoped Computability

/-! ## Inert texts -/

/-- The symbols that `escape` replaces, but `&`, with which its entities begin. -/
def markup : Bytes := [60, 62, 34, 39, 47, 96, 61]

/-- The texts without markup. -/
def inert : Language UInt8 := {text | ∀ byte ∈ text, byte ∉ markup}

instance (text : Bytes) : Decidable (text ∈ inert) :=
  List.decidableBAll (fun byte => byte ∉ markup) text

theorem escapeByte_inert (byte : UInt8) : escapeByte byte ∈ inert := by
  unfold escapeByte
  split_ifs with ampersand less greater quote apostrophe slash grave equals
  · decide
  · decide
  · decide
  · decide
  · decide
  · decide
  · decide
  · decide
  · rintro other member
    rw [List.mem_singleton.mp member]
    simp [markup, less, greater, quote, apostrophe, slash, grave, equals]

/-- No string shows markup. -/
theorem escape_inert (text : Bytes) : escape text ∈ inert := by
  intro byte member
  obtain ⟨shown, _, inside⟩ := List.mem_flatMap.mp member
  exact escapeByte_inert shown byte inside

theorem decimal_inert (n : Nat) : decimal n ∈ inert := by
  intro byte member listed
  have digit := isDigit_of_mem_decimal member
  have others : markup.all (fun symbol => !isDigit symbol) = true := by decide
  have other := List.all_eq_true.mp others byte listed
  rw [digit] at other
  cases other

theorem integerText_inert (value : Int) : integerText value ∈ inert := by
  unfold integerText
  split
  · intro byte member
    rcases List.mem_cons.mp member with rfl | inside
    · decide
    · exact decimal_inert _ byte inside
  · exact decimal_inert _

theorem tagText_inert {value : Value} {text : Bytes} (shown : tagText true value = .ok text) :
    text ∈ inert := by
  cases value with
  | boolean value =>
      obtain rfl := Except.ok.inj shown
      cases value with
      | false => decide
      | true => decide
  | number value =>
      obtain rfl := Except.ok.inj shown
      exact integerText_inert value
  | string s =>
      obtain rfl := Except.ok.inj shown
      exact escape_inert s
  | null => cases shown
  | list l => cases shown
  | object o => cases shown

/-! ## Woven texts -/

/-- The texts of the fragments of a template, with any indentation. -/
def Template.written (template : Template) : Language UInt8 :=
  {text | ∃ i indent, text = template.fragment i indent}

/-- The texts of the fragments of partials. -/
def loadedTexts (load : Bytes → Except Failure Template) : Language UInt8 :=
  {text | ∃ name included, load name = .ok included ∧ text ∈ included.written}

/-- No tag shows a value as it is. -/
def Template.Escapes (template : Template) : Prop :=
  ∀ action ∈ template.actions, action.t ≠ .UnescapeTag

instance (template : Template) : Decidable template.Escapes :=
  inferInstanceAs (Decidable (∀ action ∈ template.actions, _))

section Woven

variable {pieces : Language UInt8} {first second : Bytes}

theorem woven_piece {text : Bytes} (member : text ∈ pieces) : text ∈ pieces∗ := by
  have included : pieces ≤ pieces∗ := le_kstar
  exact included member

theorem woven_append (left : first ∈ pieces∗) (right : second ∈ pieces∗) :
    first ++ second ∈ pieces∗ := by
  rw [← kstar_mul_kstar]
  exact Language.append_mem_mul left right

theorem woven_spaces (holds : ∀ text ∈ inert, text ∈ pieces) (indent : Nat) :
    spaces indent ∈ pieces∗ := by
  apply woven_piece (holds (spaces indent) _)
  intro byte member
  rw [List.eq_of_mem_replicate member]
  decide

end Woven

/-! ## The loop -/

/-- A move shows no markup, and what it inserts has been loaded. -/
def Move.Escapes (load : Bytes → Except Failure Template) : Move → Prop
  | advance _ text => text ∈ inert
  | inserts included _ => ∃ name, load name = .ok included
  | _ => True

theorem nil_inert : [] ∈ inert := fun _ member => by cases member

theorem section_escapes {load : Bytes → Except Failure Template} {stack : Stack} {shown : Shown}
    {next : Move}
    (moved : (match shown with
      | .never => Except.ok .jump
      | .once top => .ok (.advance (top :: stack) [])
      | .each items => .ok (.each items)) = (.ok next : Except Failure Move)) :
    next.Escapes load := by
  cases shown with
  | never => cases moved; trivial
  | once top => cases moved; exact nil_inert
  | each items => cases moved; trivial

theorem move_escapes {load : Bytes → Except Failure Template} {template : Template}
    {action : Action} {current indent : Nat} {stack : Stack} (escapes : action.t ≠ .UnescapeTag)
    {next : Move} (moved : move load template action current indent stack = .ok next) :
    next.Escapes load := by
  unfold move at moved
  cases kind : action.t with
  | Ignore =>
      simp only [kind] at moved
      cases moved
      exact nil_inert
  | Tag =>
      simp only [kind] at moved
      obtain ⟨onlyFirst, -, searched⟩ := bind_eq_ok moved
      obtain ⟨ctx, -, found⟩ := bind_eq_ok searched
      obtain ⟨text, shown, advanced⟩ := bind_eq_ok found
      cases advanced
      exact tagText_inert shown
  | UnescapeTag => exact absurd kind escapes
  | OpenBlock =>
      simp only [kind] at moved
      obtain ⟨ctx, -, entered⟩ := bind_eq_ok moved
      exact section_escapes entered
  | ElseBlock =>
      simp only [kind] at moved
      obtain ⟨ctx, -, entered⟩ := bind_eq_ok moved
      exact section_escapes entered
  | CloseBlock =>
      simp only [kind] at moved
      cases stack with
      | nil => cases moved
      | cons top below =>
          cases moved
          exact nil_inert
  | Partial =>
      simp only [kind] at moved
      obtain ⟨included, loaded, rfl⟩ := except_map_eq_ok moved
      exact ⟨_, loaded⟩

/-- A text that is shown is woven of pieces. -/
def Outcome.Woven (pieces : Language UInt8) (outcome : Outcome) : Prop :=
  ∀ stack out, outcome = some (.ok (stack, out)) → out ∈ pieces∗

section Loop

variable {pieces : Language UInt8} {load : Bytes → Except Failure Template}

theorem Outcome.Woven.andThen {outcome : Outcome} {next : Stack → Bytes → Outcome}
    (first : outcome.Woven pieces)
    (later : ∀ stack out, out ∈ pieces∗ → (next stack out).Woven pieces) :
    (outcome.andThen next).Woven pieces := by
  intro stack out given
  obtain ⟨middle, found, goes⟩ := Option.bind_eq_some_iff.mp given
  cases middle with
  | error failure => cases goes
  | ok state => exact later state.1 state.2 (first _ _ found) stack out goes

theorem woven_eachItem {body : Stack → Bytes → Outcome}
    (shows : ∀ stack out, out ∈ pieces∗ → (body stack out).Woven pieces) {items : List Value}
    {stack : Stack} {out : Bytes} (before : out ∈ pieces∗) :
    (eachItem body items stack out).Woven pieces := by
  induction items generalizing stack out with
  | nil =>
      intro last text given
      cases given
      exact before
  | cons item items ih =>
      apply (shows (item :: stack) out before).andThen
      intro after text shown
      cases after with
      | nil => exact fun _ _ failed => by cases failed
      | cons top below => exact ih shown

/-- Templates that escape, and load others that do, show nothing but pieces. -/
theorem woven_renderLoop {Fits : Template → Prop} (holds : ∀ text ∈ inert, text ∈ pieces)
    (writes : ∀ template, Fits template → ∀ text ∈ template.written, text ∈ pieces)
    (escapes : ∀ template, Fits template → template.Escapes)
    (loads : ∀ name included, load name = .ok included → Fits included) {fuel : Nat}
    {template : Template} (fits : Fits template) {current actionEnd indent : Nat} {stack : Stack}
    {out : Bytes} (before : out ∈ pieces∗) :
    (renderLoop load fuel template current actionEnd indent stack out).Woven pieces := by
  induction fuel generalizing template current actionEnd indent stack out with
  | zero => exact fun _ _ given => by cases given
  | succ fuel ih =>
      have fragment (i : Nat) : out ++ template.fragment i indent ∈ pieces∗ :=
        woven_append before (woven_piece (writes template fits _ ⟨i, indent, rfl⟩))
      rw [renderLoop]
      by_cases ended : actionEnd ≤ current
      · rw [if_pos ended]
        intro last text given
        cases given
        exact fragment actionEnd
      · rw [if_neg ended]
        cases here : template.actions[current]? with
        | none => exact fun _ _ given => by cases given
        | some action =>
            have escaped := escapes template fits action (List.mem_of_getElem? here)
            dsimp only
            cases moved : move load template action current indent stack with
            | error failure => exact fun _ _ given => by cases given
            | ok next =>
                have shown := move_escapes escaped moved
                cases next with
                | advance stack text =>
                    exact ih fits (woven_append (fragment current) (woven_piece (holds text shown)))
                | jump => exact ih fits (fragment current)
                | each items =>
                    apply Outcome.Woven.andThen _ fun _ _ later => ih fits later
                    apply woven_eachItem _ (fragment current)
                    exact fun _ _ inside =>
                      ih fits (woven_append inside (woven_spaces holds indent))
                | inserts included inner =>
                    obtain ⟨name, loaded⟩ := shown
                    apply Outcome.Woven.andThen _ fun _ _ later => ih fits later
                    exact ih (loads name included loaded)
                      (woven_append (fragment current) (woven_spaces holds inner))

end Loop

/-- Without unescaped tags, neither in the template nor in a partial, a rendered text is
woven of fragments and of texts without markup, whatever the context holds. -/
theorem render_escapes {load : Bytes → Except Failure Template} {template : Template}
    (escapes : template.Escapes)
    (partials : ∀ name included, load name = .ok included → included.Escapes) {fuel : Nat}
    {ctx : Value} {text : Bytes} (rendered : render load fuel template ctx = some (.ok text)) :
    text ∈ (inert + template.written + loadedTexts load)∗ := by
  obtain ⟨result, looped, shown⟩ := Option.map_eq_some_iff.mp rendered
  cases result with
  | error failure => cases shown
  | ok state =>
      obtain rfl := Except.ok.inj shown
      let Fits (other : Template) : Prop :=
        other = template ∨ ∃ name, load name = .ok other
      have writes : ∀ other, Fits other → ∀ text ∈ other.written,
          text ∈ inert + template.written + loadedTexts load := by
        rintro other (rfl | ⟨name, loaded⟩) text member
        · exact .inl (.inr member)
        · exact .inr ⟨name, other, loaded, member⟩
      have each : ∀ other, Fits other → other.Escapes := by
        rintro other (rfl | ⟨name, loaded⟩)
        · exact escapes
        · exact partials name other loaded
      have holds : ∀ text ∈ inert, text ∈ inert + template.written + loadedTexts load :=
        fun text member => .inl (.inl member)
      have loads : ∀ name included, load name = .ok included → Fits included :=
        fun name included loaded => .inr ⟨name, loaded⟩
      have start : [] ∈ (inert + template.written + loadedTexts load)∗ :=
        Language.nil_mem_kstar _
      exact woven_renderLoop holds writes each loads (.inl rfl) start state.1 state.2 looped

theorem render_escapes_list :
    ascii "[1][2]<hr>&lt;" ∈
      (inert + listTemplate.written + loadedTexts (load footerLoader))∗ := by
  have shown : render (load footerLoader) 9 listTemplate numbers =
      some (.ok (ascii "[1][2]<hr>&lt;")) := by rfl
  have partials : ∀ name included, load footerLoader name = .ok included →
      included.Escapes := by
    intro name included given action member kind
    have plain := (loaded_footer given).2 action member
    rw [kind] at plain
    exact absurd plain (by decide)
  exact render_escapes (by decide) partials shown

end DescargaP2P.Crow.Mustache
