import DescargaP2P.Crow.Registration

/-!
# Requests and rules

For a request the tree of a method comes to the same as its list of rules: the first
rule that matches is run, unless the URL is a rule without its last slash.  `dispatch`
says so for all methods, and a router that has been accepted does what it says.
-/

namespace DescargaP2P.Crow

open DescargaP2P.Patterns
open DescargaP2P.Text

universe u v

variable {η : Type u} {δ : Type v} (strtod : Bytes → Option (δ × Bytes))

/-! ## Searching from the head -/

namespace Node

/-- A search that finds no rule leaves no parameters. -/
theorem findChildren_of_nothing (url : Bytes) (params : RoutingParams δ)
    {found : Nat × RoutingParams δ} (clean : found.1 = 0 → found = (0, {}))
    (children : List Node) :
    (findChildren strtod url params found children).1 = 0 →
      findChildren strtod url params found children = (0, {}) := by
  have update : ∀ found ret : Nat × RoutingParams δ, (found.1 = 0 → found = (0, {})) →
      (updateFound found ret).1 = 0 → updateFound found ret = (0, {}) := by
    intro found ret clean
    unfold updateFound
    split
    · rename_i better
      exact fun nothing => absurd nothing better.1
    · exact clean
  induction children generalizing found with
  | nil => simpa [findChildren] using clean
  | cons child rest ih =>
      rw [findChildren]
      apply ih
      cases child.param with
      | none =>
          simp only
          split
          · exact update _ _ clean
          · exact clean
      | some type =>
          simp only
          split
          · exact clean
          · exact update _ _ clean

/-- What `find` returns, from what is chosen among the routes. -/
def answerOf : Option (Nat × List (ParamValue δ)) → Nat × RoutingParams δ
  | none => (0, {})
  | some answer => extend {} answer

theorem find_eq_answerOf (url : Bytes) {head : Node} (solid : head.Solid) :
    find strtod url {} head = answerOf (choose (takeParam strtod) head.routes url) := by
  have clean : (find strtod url {} head).1 = 0 → find strtod url {} head = (0, {}) := by
    rcases head with ⟨ruleIndex, key, param, children⟩
    rw [find]
    split
    · exact fun nothing => Prod.ext nothing rfl
    · exact findChildren_of_nothing strtod url {} (fun _ => rfl) children
  have result := ofFound_find strtod url {} head solid
  unfold ofFound at result
  split at result
  · rename_i nothing
    rw [eq_comm, Option.map_eq_none_iff] at result
    rw [clean nothing, result]
    rfl
  · obtain ⟨answer, chosen, same⟩ := Option.map_eq_some_iff.mp result.symm
    rw [chosen, ← same]
    rfl

end Node

/-- Optimizing the tree of a method changes no search. -/
theorem find_optimize {rules : List (Rule η)} (few : rules.length + 1 < 2 ^ 16)
    {perMethods : PerMethods η} (added : rules.foldlM addRule (fun _ => {}) = some perMethods)
    (method : HTTPMethod) (url : Bytes) :
    (perMethods method).trie.optimize.find strtod url {} =
      (perMethods method).trie.find strtod url {} := by
  have solid := (registered_of_foldlM few added method).1.plain.solid
  rw [Node.find_eq_answerOf strtod url (Node.solid_optimize solid), Node.routes_optimize,
    Node.find_eq_answerOf strtod url solid]

/-- Two rules with a common front. -/
theorem find_optimize_two_rules : ∃ perMethods, twoRules.foldlM addRule (fun _ => {}) =
    some perMethods ∧ ∀ method url,
      (perMethods method).trie.optimize.find (fun _ => (none : Option (Unit × Bytes))) url {} =
        (perMethods method).trie.find (fun _ => none) url {} := by
  obtain ⟨perMethods, added⟩ := Option.isSome_iff_exists.mp
    (show (twoRules.foldlM addRule fun _ => {}).isSome = true by decide)
  exact ⟨perMethods, added, find_optimize _ (by decide) added⟩

/-! ## The rule that is selected -/

/-- What the rules of a method say about a URL. -/
inductive Selected (η : Type u) (δ : Type v)
  | redirect
  | found (rule : Rule η) (params : RoutingParams δ)

/-- The first rule that matches, unless the URL is one of the rules without its slash. -/
def select (rules : List (Rule η)) (url : Bytes) : Option (Selected η δ) :=
  if rules.any fun rule =>
      rule.hasTrailingSlash && (values (takeParam strtod) rule.bare url).isSome then
    some .redirect
  else
    rules.findSome? fun rule =>
      (values (takeParam strtod) rule.pattern url).map fun found =>
        .found rule (found.foldl RoutingParams.push {})

/-- What the number in the tree stands for. -/
def Resolves (rules : List (Rule η)) (url : Bytes) :
    Option (Nat × List (ParamValue δ)) → Prop
  | none => select strtod rules url = none
  | some answer =>
      answer.1 = 1 ∧ select strtod rules url = some .redirect ∨
        ∃ position rule, answer.1 = position + 2 ∧ rules[position]? = some rule ∧
          select strtod rules url = some (.found rule (answer.2.foldl RoutingParams.push {}))

theorem resolves_choose {rules : List (Rule η)}
    {routes : List (List (Piece UInt8 ParamType) × Nat)} (same : routes.Perm (routesOf rules))
    (url : Bytes) : Resolves strtod rules url (choose (takeParam strtod) routes url) := by
  have mem_iff : ∀ {form number}, (form, number) ∈ routes ↔ _ :=
    fun {_ _} => same.mem_iff.trans mem_routesOf_iff
  cases chosen : choose (takeParam strtod) routes url with
  | none =>
      rw [choose_eq_none_iff] at chosen
      have noBare : ¬ (rules.any fun rule =>
          rule.hasTrailingSlash && (values (takeParam strtod) rule.bare url).isSome) = true := by
        rw [List.any_eq_true]
        rintro ⟨rule, member, matched⟩
        rw [Bool.and_eq_true] at matched
        have nothing := chosen (rule.bare, 1)
          (mem_iff.mpr (Or.inr ⟨rule, member, matched.1, rfl, rfl⟩))
        rw [nothing] at matched
        exact absurd matched.2 Bool.false_ne_true
      rw [Resolves, select, if_neg noBare, List.findSome?_eq_none_iff]
      intro rule member
      obtain ⟨position, here⟩ := List.mem_iff_getElem?.mp member
      have nothing := chosen (rule.pattern, position + 2)
        (mem_iff.mpr (Or.inl ⟨position, rule, here, rfl, rfl⟩))
      rw [nothing, Option.map_none]
  | some answer =>
      obtain ⟨⟨form, member, matched⟩, least⟩ := choose_eq_some chosen
      rcases mem_iff.mp member with
        ⟨position, rule, here, rfl, number⟩ | ⟨rule, inside, slash, rfl, number⟩
      · have noBare : ¬ (rules.any fun rule =>
            rule.hasTrailingSlash && (values (takeParam strtod) rule.bare url).isSome) = true := by
          rw [List.any_eq_true]
          rintro ⟨other, otherMember, otherMatched⟩
          rw [Bool.and_eq_true, Option.isSome_iff_exists] at otherMatched
          obtain ⟨otherSlash, found, itsMatch⟩ := otherMatched
          have lower := least (other.bare, 1)
            (mem_iff.mpr (Or.inr ⟨other, otherMember, otherSlash, rfl, rfl⟩)) found itsMatch
          rw [number] at lower
          exact absurd lower (by simp)
        refine Or.inr ⟨position, rule, number, here, ?_⟩
        rw [select, if_neg noBare, List.findSome?_eq_some_iff]
        obtain ⟨inRange, itself⟩ := List.getElem?_eq_some_iff.mp here
        refine ⟨rules.take position, rule, rules.drop (position + 1), ?_, by rw [matched]; rfl, ?_⟩
        · rw [← itself, List.getElem_cons_drop, List.take_append_drop]
        · intro earlier before
          obtain ⟨place, its⟩ := List.mem_iff_getElem?.mp before
          rw [List.getElem?_take] at its
          split at its
          · rename_i lower
            rw [Option.map_eq_none_iff, Option.eq_none_iff_forall_ne_some]
            intro found itsMatch
            have above := least (earlier.pattern, place + 2)
              (mem_iff.mpr (Or.inl ⟨place, earlier, its, rfl, rfl⟩)) found itsMatch
            rw [number] at above
            have order : position + 2 ≤ place + 2 := above
            omega
          · cases its
      · refine Or.inl ⟨number, ?_⟩
        rw [select, if_pos]
        exact List.any_eq_true.mpr ⟨rule, inside, by rw [slash, matched]; rfl⟩

/-! ## A router that has been accepted -/

def Selected.outcome (skipBody : Bool) : Selected η δ → Outcome η δ
  | .redirect => .redirect skipBody
  | .found rule params => .run rule params skipBody

/-- What becomes of a request, by the list of the rules alone. -/
def dispatch (rules : List (Rule η)) (method : HTTPMethod) (url : Bytes) : Outcome η δ :=
  let selected := fun method => select strtod (rulesFor rules method) url
  match method with
  | .Head =>
      match (selected .Head).or (selected .Get) with
      | some chosen => chosen.outcome true
      | none => .respond 404 none
  | .Options =>
      if url = ascii "/*" then
        .respond 204 (some (allowText fun method => !(rulesFor rules method).isEmpty))
      else if HTTPMethod.all.any fun method => (selected method).isSome then
        .respond 204 (some (allowText fun method => (selected method).isSome))
      else .respond 404 none
  | method =>
      match selected method with
      | some chosen => chosen.outcome false
      | none =>
          if HTTPMethod.all.any fun method => (selected method).isSome then .respond 405 none
          else .respond 404 none

section Accepted

variable {perMethods : PerMethods η} {rules : List (Rule η)} {method : HTTPMethod} {trie : Node}

theorem Ready.search_eq (ready : Ready rules (perMethods method) trie) (url : Bytes) :
    ∃ answer, search strtod perMethods method url = Node.answerOf answer ∧
      Resolves strtod rules url answer := by
  have solid := ready.registered.plain.solid
  refine ⟨choose (takeParam strtod) trie.routes url, ?_, ?_⟩
  · rw [search, ready.optimized, Node.find_eq_answerOf strtod url (Node.solid_optimize solid),
      Node.routes_optimize]
  · exact resolves_choose strtod ready.registered.routes url

/-- A search without a result selects nothing. -/
theorem Ready.search_eq_zero_iff (ready : Ready rules (perMethods method) trie) (url : Bytes) :
    (search strtod perMethods method url).1 = 0 ↔ select strtod rules url = none := by
  obtain ⟨answer, result, resolves⟩ := ready.search_eq strtod url
  rw [result]
  cases answer with
  | none => exact iff_of_true rfl resolves
  | some answer =>
      rcases resolves with ⟨number, redirect⟩ | ⟨position, rule, number, _, chosen⟩
      · simp [Node.answerOf, Node.extend, number, redirect]
      · simp [Node.answerOf, Node.extend, number, chosen]

/-- A result of a search is run as the rule that is selected. -/
theorem Ready.handle_found (ready : Ready rules (perMethods method) trie) {url : Bytes}
    {selected : Selected η δ} (chosen : select strtod rules url = some selected)
    (skipBody : Bool) :
    handle perMethods (.found method (search strtod perMethods method url).1
      (search strtod perMethods method url).2 skipBody) = selected.outcome skipBody := by
  obtain ⟨answer, result, resolves⟩ := ready.search_eq strtod url
  have slots : (perMethods method).rules = none :: none :: rules.map some := ready.registered.slots
  rw [result]
  cases answer with
  | none => cases chosen.symm.trans resolves
  | some answer =>
      rcases resolves with ⟨number, redirect⟩ | ⟨position, rule, number, here, its⟩
      · obtain rfl := Option.some.inj (chosen.symm.trans redirect)
        simp [handle, Node.answerOf, Node.extend, slots, number, RULE_SPECIAL_REDIRECT_SLASH,
          Selected.outcome]
      · obtain rfl := Option.some.inj (chosen.symm.trans its)
        have inRange := (List.getElem?_eq_some_iff.mp here).1
        have fits : ¬ (none :: none :: rules.map some).length ≤ position + 2 := by
          rw [List.length_cons, List.length_cons, List.length_map]
          omega
        have special : position + 2 ≠ RULE_SPECIAL_REDIRECT_SLASH := by
          simp [RULE_SPECIAL_REDIRECT_SLASH]
        simp only [handle, Node.answerOf, Node.extend, slots, number, if_neg fits, if_neg special,
          List.getElem?_cons_succ, List.getElem?_map, here, Option.map_some, Selected.outcome]

/-- A method has an edge if it has a rule. -/
theorem Ready.isEmpty_eq (ready : Ready rules (perMethods method) trie) :
    (perMethods method).trie.children.isEmpty = rules.isEmpty := by
  have registered := ready.registered
  rw [ready.optimized]
  rcases trie with ⟨ruleIndex, key, param, children⟩
  have noRule : ruleIndex = 0 := registered.rooted.ruleIndex
  cases rules with
  | nil =>
      have none_ : children = [] := registered.untouched rfl
      subst none_
      rfl
  | cons rule rest =>
      cases children with
      | cons child others => rfl
      | nil =>
          have there : (rule.pattern, 2) ∈ routesOf (rule :: rest) :=
            mem_routesOf_iff.mpr (Or.inl ⟨0, rule, rfl, rfl, rfl⟩)
          have impossible := registered.routes.mem_iff.mpr there
          simp [Node.routes, Node.routesChildren, noRule] at impossible

end Accepted

/-- A router that has been accepted does for every request what the list of its rules
says, and never finds its tree corrupted. -/
theorem route_eq_dispatch {rules : List (Rule η)} (few : rules.length + 1 < 2 ^ 16)
    {perMethods : PerMethods η} (accepted : validate rules = some perMethods)
    (method : HTTPMethod) (url : Bytes) :
    route strtod perMethods method url = dispatch strtod rules method url := by
  have ready := fun method => (ready_of_validate few accepted method).choose_spec
  have missed := fun method => (ready method).search_eq_zero_iff strtod url
  have found := fun method => @Ready.handle_found _ _ strtod _ _ _ _ (ready method) url
  have hit : ∀ method, ((search strtod perMethods method url).1 != 0) =
      (select strtod (rulesFor rules method) url).isSome := by
    intro method
    rw [Bool.eq_iff_iff, bne_iff_ne, ne_eq, missed, Option.isSome_iff_ne_none]
  have untouched := fun method => (ready method).isEmpty_eq
  have other : ∀ method,
      handle perMethods (
        let own := search strtod perMethods method url
        if own.1 ≠ 0 then .found method own.1 own.2 false
        else if HTTPMethod.all.any fun method => (search strtod perMethods method url).1 != 0 then
          .respond 405 none
        else .respond 404 none) =
      match select strtod (rulesFor rules method) url with
      | some chosen => chosen.outcome false
      | none =>
          if HTTPMethod.all.any fun method => (select strtod (rulesFor rules method) url).isSome then
            .respond 405 none
          else .respond 404 none := by
    intro method
    simp only [hit]
    cases chosen : select strtod (rulesFor rules method) url with
    | none =>
        rw [if_neg (not_not.mpr ((missed method).mpr chosen))]
        split <;> rfl
    | some selected =>
        rw [if_pos (fun nothing => by rw [(missed method).mp nothing] at chosen; cases chosen)]
        exact found method chosen false
  cases method with
  | Head =>
      simp only [route, handleInitial, dispatch]
      cases own : select strtod (rulesFor rules .Head) url with
      | some selected =>
          rw [if_pos (fun nothing => by rw [(missed _).mp nothing] at own; cases own)]
          exact found .Head own true
      | none =>
          rw [if_neg (not_not.mpr ((missed .Head).mpr own)), Option.none_or]
          cases get : select strtod (rulesFor rules .Get) url with
          | some selected =>
              rw [if_pos (fun nothing => by rw [(missed _).mp nothing] at get; cases get)]
              exact found .Get get true
          | none =>
              rw [if_neg (not_not.mpr ((missed .Get).mpr get))]
              rfl
  | Options =>
      simp only [route, handleInitial, dispatch, hit, untouched]
      split
      · rfl
      · split <;> rfl
  | _ => exact other _

/-- With unambiguous rules the server starts, and each request runs the first rule of its
method that matches, whatever the tree looks like. -/
theorem router_refines_dispatch {rules : List (Rule η)} (few : rules.length + 1 < 2 ^ 16)
    (unambiguous : Unambiguous rules) :
    ∃ perMethods, validate rules = some perMethods ∧ ∀ method url,
      route strtod perMethods method url = dispatch strtod rules method url := by
  obtain ⟨perMethods, accepted⟩ := exists_validate few unambiguous
  exact ⟨perMethods, accepted, route_eq_dispatch strtod few accepted⟩

/-- `/a` is led to `/a/`, and `/a/7` runs the second rule. -/
theorem router_refines_dispatch_two_rules : ∃ perMethods, validate twoRules = some perMethods ∧
    ∀ method url, route (fun _ => (none : Option (Unit × Bytes))) perMethods method url =
      dispatch (fun _ => none) twoRules method url := by
  have unambiguous : Unambiguous twoRules := unambiguous_of_validate (by decide)
    (Option.some_get (show (validate twoRules).isSome = true by decide)).symm
  exact router_refines_dispatch _ (by decide) unambiguous

end DescargaP2P.Crow
