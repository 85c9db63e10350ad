import DescargaP2P.Crow.Router

/-!
# Registering rules

A rule puts its pattern into the tree of each of its methods, and its pattern without
the last slash as well if it ends in one.  The tree of a method therefore holds the
forms of the rules of this method, each under its index, as long as no form comes twice.
-/

namespace DescargaP2P.Crow

open DescargaP2P.Cpp
open DescargaP2P.Patterns
open DescargaP2P.Text

universe u

/-! ## Texts of rules -/

/-- No tag ends in a slash. -/
theorem tag_prefix_concat {name text : Bytes} (tag : ∃ type, (type, name) ∈ paramTraits) :
    name.isPrefixOf (text ++ [47]) = name.isPrefixOf text := by
  have noSlash : name.getLast? ≠ some 47 := by
    obtain ⟨type, listed⟩ := tag
    have all : ∀ traits ∈ paramTraits, traits.2.getLast? ≠ some 47 := by decide
    exact all _ listed
  rw [Bool.eq_iff_iff, List.isPrefixOf_iff_prefix, List.isPrefixOf_iff_prefix,
    List.prefix_concat_iff]
  constructor
  · rintro (rfl | front)
    · exact absurd List.getLast?_concat noSlash
    · exact front
  · exact Or.inr

/-- The tag at the front of a text. -/
theorem findTag_concat (text : Bytes) :
    (paramTraits.find? fun traits => traits.2.isPrefixOf (text ++ [47])) =
      paramTraits.find? fun traits => traits.2.isPrefixOf text := by
  have same : ∀ traits ∈ paramTraits,
      traits.2.isPrefixOf (text ++ [47]) = traits.2.isPrefixOf text :=
    fun traits listed => tag_prefix_concat ⟨traits.1, listed⟩
  generalize paramTraits = listed at same
  induction listed with
  | nil => rfl
  | cons traits rest ih =>
      rw [List.find?_cons, List.find?_cons, same traits List.mem_cons_self,
        ih fun other member => same other (List.mem_cons_of_mem _ member)]

/-- A slash at the end of a text is the last piece. -/
theorem piecesFrom_concat (text : Bytes) (skip : Nat) (within : skip ≤ text.length) :
    piecesFrom skip (text ++ [47]) = (piecesFrom skip text).map (· ++ [.symbol 47]) := by
  induction text generalizing skip with
  | nil =>
      have none_ : skip = 0 := Nat.le_zero.mp within
      subst none_
      simp [piecesFrom]
  | cons c text ih =>
      cases skip with
      | succ skip => exact ih skip (Nat.le_of_succ_le_succ within)
      | zero =>
          rw [List.cons_append, piecesFrom, piecesFrom]
          by_cases open_ : c = 60
          · rw [if_pos open_, if_pos open_, ← List.cons_append, findTag_concat]
            cases found : paramTraits.find? fun traits => traits.2.isPrefixOf (c :: text) with
            | none => rfl
            | some traits =>
                have front := List.find?_some found
                have inside : traits.2.length - 1 ≤ text.length := by
                  have shorter := (List.isPrefixOf_iff_prefix.mp front).length_le
                  rw [List.length_cons] at shorter
                  omega
                simp [ih _ inside, Function.comp_def]
          · rw [if_neg open_, if_neg open_, ih 0 (Nat.zero_le _)]
            simp [Function.comp_def]

theorem pieces_concat (text : Bytes) :
    pieces (text ++ [47]) = (pieces text).map (· ++ [.symbol 47]) :=
  piecesFrom_concat text 0 (Nat.zero_le _)

/-- The symbols of a pattern are characters of the text. -/
theorem symbol_mem_of_piecesFrom {text : Bytes} {skip : Nat}
    {pattern : List (Piece UInt8 ParamType)} (parsed : piecesFrom skip text = some pattern)
    {c : UInt8} (member : .symbol c ∈ pattern) : c ∈ text := by
  induction text generalizing skip pattern with
  | nil =>
      rw [piecesFrom, Option.some.injEq] at parsed
      subst parsed
      cases member
  | cons first text ih =>
      cases skip with
      | succ skip => exact List.mem_cons_of_mem _ (ih parsed member)
      | zero =>
          rw [piecesFrom] at parsed
          split at parsed
          · split at parsed
            · cases parsed
            · obtain ⟨rest, restParsed, rfl⟩ := Option.map_eq_some_iff.mp parsed
              rcases List.mem_cons.mp member with impossible | later
              · cases impossible
              · exact List.mem_cons_of_mem _ (ih restParsed later)
          · obtain ⟨rest, restParsed, rfl⟩ := Option.map_eq_some_iff.mp parsed
            rcases List.mem_cons.mp member with here | later
            · cases here
              exact List.mem_cons_self
            · exact List.mem_cons_of_mem _ (ih restParsed later)

namespace Rule

variable {η : Type u}

theorem noNull_pattern (rule : Rule η) : Node.NoNull rule.pattern :=
  fun member => rule.noNull (symbol_mem_of_piecesFrom rule.pieces_rule member)

/-- The pattern of a rule without its last slash. -/
def bare (rule : Rule η) : List (Piece UInt8 ParamType) := rule.pattern.dropLast

theorem pieces_dropLast (rule : Rule η) (slash : rule.hasTrailingSlash = true) :
    pieces rule.rule.dropLast = some rule.bare ∧ rule.pattern = rule.bare ++ [.symbol 47] := by
  have last : rule.rule.getLast? = some 47 := by simpa using (Bool.and_eq_true_iff.mp slash).2
  obtain ⟨text, whole⟩ := List.getLast?_eq_some_iff.mp last
  have parsed := rule.pieces_rule
  rw [whole, pieces_concat] at parsed
  obtain ⟨front, frontParsed, joined⟩ := Option.map_eq_some_iff.mp parsed
  rw [bare, ← joined, List.dropLast_concat, whole, List.dropLast_concat]
  exact ⟨frontParsed, rfl⟩

theorem noNull_bare (rule : Rule η) : Node.NoNull rule.bare :=
  fun member => rule.noNull_pattern (List.dropLast_subset _ member)

/-- Everything that a rule puts into a tree. -/
def forms (rule : Rule η) : List (List (Piece UInt8 ParamType)) :=
  rule.pattern :: if rule.hasTrailingSlash then [rule.bare] else []

/-- The pattern begins as the text. -/
theorem pattern_of_slash (rule : Rule η) (starts : rule.rule.head? = some 47) :
    ∃ rest, rule.pattern = .symbol 47 :: rest := by
  obtain ⟨text, whole⟩ := List.head?_eq_some_iff.mp starts
  have parsed := rule.pieces_rule
  rw [whole, pieces, piecesFrom, if_neg (by decide)] at parsed
  obtain ⟨rest, _, joined⟩ := Option.map_eq_some_iff.mp parsed
  exact ⟨rest, joined.symm⟩

/-- Without its last slash a rule still begins with a slash. -/
theorem bare_of_slash (rule : Rule η) (starts : rule.rule.head? = some 47)
    (slash : rule.hasTrailingSlash = true) : ∃ rest, rule.bare = .symbol 47 :: rest := by
  obtain ⟨text, whole⟩ := List.head?_eq_some_iff.mp starts
  have long : text ≠ [] := by
    rintro rfl
    simp [hasTrailingSlash, whole] at slash
  have parsed := (rule.pieces_dropLast slash).1
  rw [whole, List.dropLast_cons_of_ne_nil long, pieces, piecesFrom, if_neg (by decide)] at parsed
  obtain ⟨rest, _, joined⟩ := Option.map_eq_some_iff.mp parsed
  exact ⟨rest, joined.symm⟩

theorem bare_ne_pattern (rule : Rule η) (slash : rule.hasTrailingSlash = true) :
    rule.bare ≠ rule.pattern := by
  intro same
  have longer := congrArg List.length (rule.pieces_dropLast slash).2
  rw [List.length_append, ← same, List.length_singleton] at longer
  omega

theorem mem_forms_iff (rule : Rule η) {form : List (Piece UInt8 ParamType)} :
    form ∈ rule.forms ↔ form = rule.pattern ∨ rule.hasTrailingSlash = true ∧ form = rule.bare := by
  unfold forms
  split <;> simp [*]

theorem nodup_forms (rule : Rule η) : rule.forms.Nodup := by
  unfold forms
  split
  · rename_i slash
    simp [(rule.bare_ne_pattern slash).symm]
  · simp

end Rule

/-! ## The head of a tree -/

namespace Node

/-- Every edge from the head is a slash, and the head is no rule. -/
structure Rooted (head : Node) : Prop where
  ruleIndex : head.ruleIndex = 0
  param : head.param = none
  slash : ∀ child ∈ head.children, child.Carries (.symbol 47)

theorem exists_carries_of_plain {children : List Node} (plain : PlainChildren children)
    {child : Node} (member : child ∈ children) : ∃ piece, child.Carries piece := by
  induction children with
  | nil => cases member
  | cons first rest ih =>
      rcases List.mem_cons.mp member with rfl | later
      · exact ⟨plain.1.choose, plain.1.choose_spec.1⟩
      · exact ih plain.2.2 later

/-- A route that begins with a slash keeps the head as it should be. -/
theorem Rooted.add {head next : Node} (rooted : head.Rooted) (plain : head.Plain)
    {ruleIndex : Nat} (isRule : ruleIndex ≠ 0) {url : List (Piece UInt8 ParamType)}
    (noNull : NoNull url) (added : add ruleIndex (.symbol 47 :: url) head = some next) :
    next.Rooted := by
  rcases head with ⟨index, key, param, children⟩
  have below := addsBelow_descend (show Piece.symbol 47 ≠ .symbol 0 by decide)
    (fun child => adds_add isRule noNull child) children plain
  obtain ⟨later, result, rfl⟩ := Option.map_eq_some_iff.mp added
  rw [result] at below
  obtain ⟨laterPlain, _, _, old⟩ := below
  refine ⟨rooted.ruleIndex, rooted.param, ?_⟩
  intro child member
  obtain ⟨piece, carries⟩ := exists_carries_of_plain laterPlain member
  by_cases same : piece = .symbol 47
  · exact same ▸ carries
  · obtain ⟨earlier, there, its⟩ :=
      old piece (fun equal => same (List.cons.inj equal).1) ⟨child, member, carries⟩
    exact absurd (its.unique (rooted.slash earlier there)) same

/-- `Trie::validate` accepts a head with at most one edge. -/
theorem Rooted.isSimpleNode {head : Node} (rooted : head.Rooted) (plain : head.Plain) :
    head.isSimpleNode = true := by
  obtain ⟨noRule, noParam, slash⟩ := rooted
  rcases head with ⟨index, key, param, _ | ⟨child, _ | ⟨other, rest⟩⟩⟩
  · simp_all [Node.isSimpleNode]
  · have childPlain := (slash child List.mem_cons_self).2
    simp_all [Node.isSimpleNode]
  · obtain ⟨⟨piece, carries, apart⟩, _⟩ := plain
    have first := carries.unique (slash child List.mem_cons_self)
    have second := slash other (List.mem_cons_of_mem _ List.mem_cons_self)
    exact absurd (first ▸ second) (apart other List.mem_cons_self)

theorem rooted_empty : Rooted {} := ⟨rfl, rfl, nofun⟩

end Node

/-! ## The rules of one method -/

section OneMethod

variable {η : Type u}

/-- The forms of the rules with their indices. -/
def routesOf (rules : List (Rule η)) : List (List (Piece UInt8 ParamType) × Nat) :=
  rules.zipIdx.flatMap fun (rule, position) =>
    (rule.pattern, position + 2) ::
      if rule.hasTrailingSlash then [(rule.bare, RULE_SPECIAL_REDIRECT_SLASH)] else []

theorem routesOf_concat (rules : List (Rule η)) (rule : Rule η) :
    routesOf (rules ++ [rule]) = routesOf rules ++ (rule.pattern, rules.length + 2) ::
      if rule.hasTrailingSlash then [(rule.bare, RULE_SPECIAL_REDIRECT_SLASH)] else [] := by
  simp [routesOf, List.zipIdx_append]

theorem forms_of_routesOf (rules : List (Rule η)) :
    (routesOf rules).map Prod.fst = rules.flatMap Rule.forms := by
  induction rules using List.reverseRecOn with
  | nil => rfl
  | append_singleton rules rule ih =>
      rw [routesOf_concat, List.map_append, ih, List.flatMap_append, List.flatMap_singleton]
      unfold Rule.forms
      split <;> rfl

theorem mem_routesOf_iff {rules : List (Rule η)} {form : List (Piece UInt8 ParamType)}
    {number : Nat} :
    (form, number) ∈ routesOf rules ↔
      (∃ position rule, rules[position]? = some rule ∧ form = rule.pattern ∧
          number = position + 2) ∨
        ∃ rule ∈ rules, rule.hasTrailingSlash = true ∧ form = rule.bare ∧
          number = RULE_SPECIAL_REDIRECT_SLASH := by
  simp only [routesOf, List.mem_flatMap, Prod.exists, List.mem_zipIdx_iff_getElem?]
  constructor
  · rintro ⟨rule, position, here, member⟩
    rcases List.mem_cons.mp member with own | special
    · exact Or.inl ⟨position, rule, here, (Prod.mk.inj own).1, (Prod.mk.inj own).2⟩
    · split at special
      · rename_i slash
        rw [List.mem_singleton] at special
        exact Or.inr ⟨rule, List.mem_of_getElem? here, slash, (Prod.mk.inj special).1,
          (Prod.mk.inj special).2⟩
      · cases special
  · rintro (⟨position, rule, here, rfl, rfl⟩ | ⟨rule, member, slash, rfl, rfl⟩)
    · exact ⟨rule, position, here, List.mem_cons_self⟩
    · obtain ⟨position, here⟩ := List.mem_iff_getElem?.mp member
      exact ⟨rule, position, here, by simp [slash]⟩

/-- What is kept for a method that these rules have been registered for. -/
structure Registered (rules : List (Rule η)) (perMethod : PerMethod η) : Prop where
  slots : perMethod.rules = none :: none :: rules.map some
  plain : perMethod.trie.Plain
  rooted : perMethod.trie.Rooted
  routes : perMethod.trie.routes.Perm (routesOf rules)
  untouched : rules = [] → perMethod.trie.children = []

theorem registered_nil : Registered ([] : List (Rule η)) {} where
  slots := rfl
  plain := trivial
  rooted := Node.rooted_empty
  routes := List.Perm.refl _
  untouched := fun _ => rfl

theorem Registered.mem_forms_iff {rules : List (Rule η)} {perMethod : PerMethod η}
    (registered : Registered rules perMethod) {form : List (Piece UInt8 ParamType)} :
    (∃ number, (form, number) ∈ perMethod.trie.routes) ↔ form ∈ rules.flatMap Rule.forms := by
  rw [← forms_of_routesOf, List.mem_map]
  constructor
  · rintro ⟨number, there⟩
    exact ⟨(form, number), registered.routes.mem_iff.mp there, rfl⟩
  · rintro ⟨⟨form, number⟩, there, rfl⟩
    exact ⟨number, registered.routes.mem_iff.mpr there⟩

/-- One rule for one method: it is refused exactly if one of its forms is there. -/
theorem registered_addRule {done : List (Rule η)} {perMethod : PerMethod η}
    (registered : Registered done perMethod) (few : done.length + 2 < 2 ^ 16) (rule : Rule η)
    (starts : rule.rule.head? = some 47) :
    match perMethod.addRule rule with
    | none => ∃ form ∈ rule.forms, form ∈ done.flatMap Rule.forms
    | some next =>
        Registered (done ++ [rule]) next ∧ ∀ form ∈ rule.forms, form ∉ done.flatMap Rule.forms := by
  have index : ((perMethod.rules ++ [some rule]).length - 1) % 2 ^ 16 = done.length + 2 := by
    rw [registered.slots]
    simp only [List.length_append, List.length_cons, List.length_map, List.length_nil]
    omega
  obtain ⟨rest, begins⟩ := rule.pattern_of_slash starts
  have noNull := rule.noNull_pattern
  have added := Node.adds_add (show done.length + 2 ≠ 0 by omega) noNull perMethod.trie
    registered.plain
  simp only [PerMethod.addRule, Node.addText, index, rule.pieces_rule, Option.bind_some]
  cases result : perMethod.trie.add (done.length + 2) rule.pattern with
  | none =>
      rw [result] at added
      exact ⟨rule.pattern, List.mem_cons_self, registered.mem_forms_iff.mp added⟩
  | some trie =>
      rw [result] at added
      obtain ⟨_, _, plain, routes, absent⟩ := added
      have rooted : trie.Rooted := by
        refine registered.rooted.add registered.plain (by omega) ?_ (begins ▸ result)
        exact fun member => noNull (begins ▸ List.mem_cons_of_mem _ member)
      have newPattern : rule.pattern ∉ done.flatMap Rule.forms := fun there =>
        (registered.mem_forms_iff.mpr there).elim absent
      simp only [Option.bind_some]
      by_cases slash : rule.hasTrailingSlash = true
      · have bareAdded := Node.adds_add (show 1 ≠ 0 by decide) rule.noNull_bare trie plain
        obtain ⟨bareRest, bareBegins⟩ := rule.bare_of_slash starts slash
        have bareThere : (∃ number, (rule.bare, number) ∈ trie.routes) ↔
            rule.bare ∈ done.flatMap Rule.forms := by
          rw [← registered.mem_forms_iff]
          simp [routes.mem_iff, rule.bare_ne_pattern slash]
        simp only [slash, if_true, RULE_SPECIAL_REDIRECT_SLASH, (rule.pieces_dropLast slash).1,
          Option.bind_some]
        cases bareResult : trie.add 1 rule.bare with
        | none =>
            rw [bareResult] at bareAdded
            exact ⟨rule.bare, rule.mem_forms_iff.mpr (Or.inr ⟨slash, rfl⟩), bareThere.mp bareAdded⟩
        | some last =>
            rw [bareResult] at bareAdded
            obtain ⟨_, _, lastPlain, lastRoutes, bareAbsent⟩ := bareAdded
            refine ⟨⟨?_, lastPlain, ?_, ?_, fun empty => absurd empty (List.concat_ne_nil _ _)⟩, ?_⟩
            · simp [registered.slots]
            · refine rooted.add plain (by decide) ?_ (bareBegins ▸ bareResult)
              exact fun member => rule.noNull_bare (bareBegins ▸ List.mem_cons_of_mem _ member)
            · rw [routesOf_concat, if_pos slash]
              refine lastRoutes.trans ((List.Perm.cons _ (routes.trans
                (registered.routes.cons _))).trans ?_)
              refine (List.Perm.swap _ _ _).trans ?_
              change List.Perm ([_, _] ++ routesOf done) _
              exact List.perm_append_comm
            · intro form member
              rcases rule.mem_forms_iff.mp member with rfl | ⟨_, rfl⟩
              · exact newPattern
              · exact fun there => (bareThere.mpr there).elim bareAbsent
      · simp only [slash]
        refine ⟨⟨?_, plain, rooted, ?_, fun empty => absurd empty (List.concat_ne_nil _ _)⟩, ?_⟩
        · simp [registered.slots]
        · rw [routesOf_concat, if_neg slash]
          refine (routes.trans (registered.routes.cons _)).trans ?_
          change List.Perm ([_] ++ routesOf done) _
          exact List.perm_append_comm
        · intro form member
          rcases rule.mem_forms_iff.mp member with rfl | ⟨impossible, _⟩
          · exact newPattern
          · exact absurd impossible slash

theorem nodup_concat_iff {done : List (Rule η)} {rule : Rule η} :
    ((done ++ [rule]).flatMap Rule.forms).Nodup ↔
      (done.flatMap Rule.forms).Nodup ∧ ∀ form ∈ rule.forms, form ∉ done.flatMap Rule.forms := by
  rw [List.flatMap_append, List.flatMap_singleton, List.nodup_append]
  constructor
  · rintro ⟨old, _, apart⟩
    exact ⟨old, fun form new there => apart form there form new rfl⟩
  · rintro ⟨old, apart⟩
    exact ⟨old, rule.nodup_forms, fun _ there form new equal => apart form new (equal ▸ there)⟩

/-- All the rules of one method. -/
theorem registered_foldlM {done : List (Rule η)} {perMethod : PerMethod η}
    (registered : Registered done perMethod) (rules : List (Rule η))
    (few : (done ++ rules).length + 1 < 2 ^ 16)
    (starts : ∀ rule ∈ rules, rule.rule.head? = some 47) :
    match rules.foldlM (fun perMethod rule => perMethod.addRule rule) perMethod with
    | none => ¬ ((done ++ rules).flatMap Rule.forms).Nodup
    | some next =>
        Registered (done ++ rules) next ∧
          ((done.flatMap Rule.forms).Nodup → ((done ++ rules).flatMap Rule.forms).Nodup) := by
  induction rules generalizing done perMethod with
  | nil => simpa using registered
  | cons rule rules ih =>
      have small : done.length + 2 < 2 ^ 16 := by
        rw [List.length_append, List.length_cons] at few
        omega
      have step := registered_addRule registered small rule (starts rule List.mem_cons_self)
      have later : ∀ other ∈ rules, other.rule.head? = some 47 :=
        fun other member => starts other (List.mem_cons_of_mem _ member)
      rw [List.foldlM_cons, List.append_cons done rule rules]
      rw [List.append_cons done rule rules] at few
      cases result : perMethod.addRule rule with
      | none =>
          rw [result] at step
          obtain ⟨form, new, there⟩ := step
          intro nodup
          rw [List.flatMap_append] at nodup
          exact (nodup_concat_iff.mp (List.nodup_append.mp nodup).1).2 form new there
      | some next =>
          rw [result] at step
          have run := ih step.1 few later
          simp only [Option.bind_eq_bind, Option.bind_some]
          split at run
          · exact run
          · exact ⟨run.1, fun old => run.2 (nodup_concat_iff.mpr ⟨old, step.2⟩)⟩

end OneMethod

/-! ## The rules of all methods -/

/-- Steps on single entries of a function, each entry once. -/
theorem foldlM_update_eq_some_iff {ι : Type*} {σ : Type*} [DecidableEq ι] (step : σ → Option σ)
    {keys : List ι} (nodup : keys.Nodup) {first last : ι → σ} :
    keys.foldlM (fun states key => (step (states key)).map (Function.update states key)) first =
        some last ↔
      ∀ key, (if key ∈ keys then step (first key) else some (first key)) = some (last key) := by
  induction keys generalizing first with
  | nil => simp [funext_iff]
  | cons key keys ih =>
      obtain ⟨fresh, rest⟩ := List.nodup_cons.mp nodup
      rw [List.foldlM_cons]
      cases result : step (first key) with
      | none =>
          simp only [Option.map_none, Option.bind_eq_bind, Option.bind_none, reduceCtorEq, false_iff]
          intro all
          have own := all key
          rw [if_pos List.mem_cons_self, result] at own
          cases own
      | some next =>
          simp only [Option.map_some, Option.bind_eq_bind, Option.bind_some, ih rest]
          apply forall_congr'
          intro other
          by_cases same : other = key
          · subst same
            simp [fresh, result]
          · simp [same]

section AllMethods

variable {η : Type u}

/-- The rules of a method in the order of their registration. -/
def rulesFor (rules : List (Rule η)) (method : HTTPMethod) : List (Rule η) :=
  rules.filter fun rule => rule.allows method

theorem addRule_eq_some_iff {perMethods next : PerMethods η} {rule : Rule η} :
    addRule perMethods rule = some next ↔
      rule.rule.head? = some 47 ∧
        ∀ method, (if rule.allows method then (perMethods method).addRule rule
          else some (perMethods method)) = some (next method) := by
  unfold addRule Rule.foreachMethod
  have nodup := HTTPMethod.nodup_all.filter rule.allows
  by_cases starts : rule.rule.head? = some 47
  · simp only [starts, if_true, true_and,
      foldlM_update_eq_some_iff (fun perMethod => PerMethod.addRule rule perMethod) nodup,
      List.mem_filter, HTTPMethod.mem_all]
  · simp [starts]

/-- The methods do not touch each other. -/
theorem foldlM_addRule_eq_some_iff {rules : List (Rule η)} {perMethods last : PerMethods η} :
    rules.foldlM addRule perMethods = some last ↔
      (∀ rule ∈ rules, rule.rule.head? = some 47) ∧
        ∀ method, (rulesFor rules method).foldlM (fun perMethod rule => perMethod.addRule rule)
          (perMethods method) = some (last method) := by
  induction rules generalizing perMethods with
  | nil => simp [rulesFor, funext_iff]
  | cons rule rules ih =>
      rw [List.foldlM_cons, Option.bind_eq_bind, Option.bind_eq_some_iff]
      simp only [addRule_eq_some_iff, ih, List.mem_cons, forall_eq_or_imp]
      constructor
      · rintro ⟨next, ⟨starts, first⟩, later, rest⟩
        refine ⟨⟨starts, later⟩, fun method => ?_⟩
        have own := first method
        by_cases allowed : rule.allows method = true
        · rw [if_pos allowed] at own
          simpa [rulesFor, allowed, own] using rest method
        · rw [if_neg allowed, Option.some.injEq] at own
          simpa [rulesFor, allowed, own] using rest method
      · rintro ⟨⟨starts, later⟩, run⟩
        have first : ∀ method, ∃ next, (if rule.allows method then (perMethods method).addRule rule
            else some (perMethods method)) = some next ∧
            (rulesFor rules method).foldlM (fun perMethod rule => perMethod.addRule rule) next =
              some (last method) := by
          intro method
          have own := run method
          by_cases allowed : rule.allows method = true
          · rw [rulesFor, List.filter_cons_of_pos (by simpa using allowed), List.foldlM_cons,
              Option.bind_eq_bind, Option.bind_eq_some_iff] at own
            rw [if_pos allowed]
            exact own
          · rw [rulesFor, List.filter_cons_of_neg (by simpa using allowed)] at own
            rw [if_neg allowed]
            exact ⟨perMethods method, rfl, own⟩
        choose next here rest using first
        exact ⟨next, ⟨starts, here⟩, later, rest⟩

theorem length_rulesFor_le (rules : List (Rule η)) (method : HTTPMethod) :
    (rulesFor rules method).length ≤ rules.length := List.length_filter_le _ _

/-- The rules of a method, added to an empty tree. -/
theorem registered_rulesFor {rules : List (Rule η)} (few : rules.length + 1 < 2 ^ 16)
    (starts : ∀ rule ∈ rules, rule.rule.head? = some 47) (method : HTTPMethod) :
    match (rulesFor rules method).foldlM (fun perMethod rule => perMethod.addRule rule)
        ({} : PerMethod η) with
    | none => ¬ ((rulesFor rules method).flatMap Rule.forms).Nodup
    | some perMethod =>
        Registered (rulesFor rules method) perMethod ∧
          ((rulesFor rules method).flatMap Rule.forms).Nodup := by
  have short := length_rulesFor_le rules method
  have run := registered_foldlM registered_nil (rulesFor rules method)
    (by rw [List.nil_append]; omega) fun rule member => starts rule (List.mem_filter.mp member).1
  simp only [List.nil_append] at run
  split at run
  · exact run
  · exact ⟨run.1, run.2 List.nodup_nil⟩

/-- The tree of a method after all rules have been added. -/
theorem registered_of_foldlM {rules : List (Rule η)} (few : rules.length + 1 < 2 ^ 16)
    {perMethods : PerMethods η} (added : rules.foldlM addRule (fun _ => {}) = some perMethods)
    (method : HTTPMethod) :
    Registered (rulesFor rules method) (perMethods method) ∧
      ((rulesFor rules method).flatMap Rule.forms).Nodup := by
  obtain ⟨starts, each⟩ := foldlM_addRule_eq_some_iff.mp added
  have own := registered_rulesFor few starts method
  rwa [each method] at own

/-- No form comes twice among the rules of a method, and every rule begins with a slash. -/
def Unambiguous (rules : List (Rule η)) : Prop :=
  (∀ rule ∈ rules, rule.rule.head? = some 47) ∧
    ∀ method, ((rulesFor rules method).flatMap Rule.forms).Nodup

/-- What `Router::validate` leaves of these rules for each method. -/
structure Ready (rules : List (Rule η)) (perMethod : PerMethod η) (trie : Node) : Prop where
  registered : Registered rules { perMethod with trie := trie }
  optimized : perMethod.trie = trie.optimize

theorem trie_validate {rules : List (Rule η)} {perMethod : PerMethod η}
    (registered : Registered rules perMethod) :
    perMethod.trie.validate = some perMethod.trie.optimize := by
  rw [Node.validate, if_pos (registered.rooted.isSimpleNode registered.plain)]

/-- A router that has been accepted holds the rules of each method. -/
theorem ready_of_validate {rules : List (Rule η)} {perMethods : PerMethods η}
    (few : rules.length + 1 < 2 ^ 16) (accepted : validate rules = some perMethods)
    (method : HTTPMethod) : ∃ trie, Ready (rulesFor rules method) (perMethods method) trie := by
  obtain ⟨last, run, checked⟩ := Option.bind_eq_some_iff.mp accepted
  have own := (registered_of_foldlM few run method).1
  split at checked
  · rw [Option.some.injEq] at checked
    subst checked
    exact ⟨(last method).trie, own, congrArg (Option.getD · {}) (trie_validate own)⟩
  · cases checked

theorem unambiguous_of_validate {rules : List (Rule η)} {perMethods : PerMethods η}
    (few : rules.length + 1 < 2 ^ 16) (accepted : validate rules = some perMethods) :
    Unambiguous rules := by
  obtain ⟨last, run, _⟩ := Option.bind_eq_some_iff.mp accepted
  exact ⟨(foldlM_addRule_eq_some_iff.mp run).1,
    fun method => (registered_of_foldlM few run method).2⟩

theorem exists_validate {rules : List (Rule η)} (few : rules.length + 1 < 2 ^ 16)
    (unambiguous : Unambiguous rules) : ∃ perMethods, validate rules = some perMethods := by
  have state : ∀ method, ∃ last : PerMethod η,
      (rulesFor rules method).foldlM (fun perMethod rule => perMethod.addRule rule) {} =
        some last ∧ Registered (rulesFor rules method) last := by
    intro method
    have own := registered_rulesFor few unambiguous.1 method
    split at own <;> rename_i result
    · exact absurd (unambiguous.2 method) own
    · exact ⟨_, result, own.1⟩
  choose last run registered using state
  have all : rules.foldlM addRule (fun _ => {}) = some last :=
    foldlM_addRule_eq_some_iff.mpr ⟨unambiguous.1, run⟩
  have valid : HTTPMethod.all.all (fun method => (last method).trie.validate.isSome) = true := by
    simp [trie_validate (registered _)]
  rw [validate, all, Option.bind_some, if_pos valid]
  exact ⟨_, rfl⟩

/-- A rule with a slash at its end and one with a number. -/
def twoRules : List (Rule Unit) :=
  [⟨ascii "/a/", 1 <<< HTTPMethod.Get.number, (), by decide, by decide⟩,
    ⟨ascii "/a/<int>", 1 <<< HTTPMethod.Get.number, (), by decide, by decide⟩]

/-- The server starts exactly with rules that begin with a slash and of which no two
claim one URL pattern of a method. -/
theorem validate_isSome_iff (rules : List (Rule η)) (few : rules.length + 1 < 2 ^ 16) :
    (validate rules).isSome ↔ Unambiguous rules := by
  rw [Option.isSome_iff_exists]
  constructor
  · rintro ⟨perMethods, accepted⟩
    exact unambiguous_of_validate few accepted
  · exact exists_validate few

theorem validate_isSome_two_rules : Unambiguous twoRules :=
  (validate_isSome_iff twoRules (by decide)).mp (by decide)

end AllMethods

end DescargaP2P.Crow
