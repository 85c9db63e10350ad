import DescargaP2P.Crow.Trie

/-!
# Adding routes

While routes are added every edge of the tree is one character or one parameter, and
no two edges from a node are the same.  `add` therefore finds the only path a route can
have: it throws exactly if a rule is at its end, and otherwise puts in this route and no
other.
-/

namespace DescargaP2P.Crow

open DescargaP2P.Patterns
open DescargaP2P.Text

namespace Node

/-- The edge to a node is one piece. -/
def Carries (piece : Piece UInt8 ParamType) (node : Node) : Prop :=
  match piece with
  | .param type => node.key = [] ∧ node.param = some type
  | .symbol c => node.key = [c] ∧ node.param = none

mutual

/-- As long as routes are added, every edge is one piece, and no two edges from a node
are the same. -/
def Plain : Node → Prop
  | ⟨_, _, _, children⟩ => PlainChildren children

def PlainChildren : List Node → Prop
  | [] => True
  | child :: rest =>
      (∃ piece, child.Carries piece ∧ ∀ other ∈ rest, ¬ other.Carries piece) ∧
        child.Plain ∧ PlainChildren rest

end

/-- Rule texts are C strings. -/
def NoNull (url : List (Piece UInt8 ParamType)) : Prop := .symbol 0 ∉ url

theorem Carries.edge_eq {piece : Piece UInt8 ParamType} {node : Node}
    (carries : node.Carries piece) : node.edge = [piece] := by
  cases piece with
  | param type => rw [edge, carries.2]
  | symbol c => rw [edge, carries.2, carries.1, List.map_singleton]

theorem Carries.fits_iff {piece other : Piece UInt8 ParamType} {node : Node}
    (carries : node.Carries piece) (noNull : other ≠ .symbol 0) :
    node.fits other = true ↔ piece = other := by
  cases piece with
  | param type =>
      cases other with
      | param otherType => simp [fits, carries.2]
      | symbol d =>
          have some_ : d ≠ 0 := by
            rintro rfl
            exact noNull rfl
          simp [fits, carries.1, some_.symm]
  | symbol c =>
      cases other with
      | param otherType => simp [fits, carries.2]
      | symbol d => simp [fits, carries.1]

theorem carries_fresh (piece : Piece UInt8 ParamType) : (fresh piece).Carries piece := by
  cases piece <;> exact ⟨rfl, rfl⟩

theorem plain_fresh (piece : Piece UInt8 ParamType) : (fresh piece).Plain := by
  cases piece <;> trivial

theorem routes_fresh (piece : Piece UInt8 ParamType) : (fresh piece).routes = [] := by
  cases piece <;> rfl

mutual

theorem Plain.solid (node : Node) (plain : node.Plain) : node.Solid := by
  cases node with
  | mk ruleIndex key param children => exact solidChildren_of_plain children plain

theorem solidChildren_of_plain (children : List Node) (plain : PlainChildren children) :
    SolidChildren children := by
  cases children with
  | nil => trivial
  | cons child rest =>
      obtain ⟨⟨piece, carries, _⟩, childPlain, restPlain⟩ := plain
      refine ⟨?_, Plain.solid child childPlain, solidChildren_of_plain rest restPlain⟩
      rw [carries.edge_eq]
      exact List.cons_ne_nil _ _

end

/-- What `add` does: it refuses a route that is there, or puts it in. -/
def Adds (url : List (Piece UInt8 ParamType)) (ruleIndex : Nat) (node : Node) :
    Option Node → Prop
  | none => ∃ number, (url, number) ∈ node.routes
  | some next =>
      next.key = node.key ∧ next.param = node.param ∧ next.Plain ∧
        next.routes.Perm ((url, ruleIndex) :: node.routes) ∧
        ∀ number, (url, number) ∉ node.routes

/-- What the loop of `add` does among the children. -/
def AddsBelow (url : List (Piece UInt8 ParamType)) (ruleIndex : Nat) (children : List Node) :
    Option (List Node) → Prop
  | none => ∃ number, (url, number) ∈ routesChildren children
  | some next =>
      PlainChildren next ∧
        (routesChildren next).Perm ((url, ruleIndex) :: routesChildren children) ∧
        (∀ number, (url, number) ∉ routesChildren children) ∧
        ∀ piece, piece :: url.tail ≠ url → (∃ child ∈ next, child.Carries piece) →
          ∃ child ∈ children, child.Carries piece

/-- The paths through a node begin with its piece. -/
theorem Carries.mem_paths_iff {piece first : Piece UInt8 ParamType} {node : Node}
    (carries : node.Carries piece) {url : List (Piece UInt8 ParamType)} {number : Nat} :
    (first :: url, number) ∈ node.paths ↔ piece = first ∧ (url, number) ∈ node.routes := by
  simp only [paths, carries.edge_eq, List.singleton_append, List.mem_map, Prod.mk.injEq,
    List.cons.injEq, Prod.exists]
  constructor
  · rintro ⟨tail, index, route, ⟨rfl, rfl⟩, rfl⟩
    exact ⟨rfl, route⟩
  · rintro ⟨rfl, route⟩
    exact ⟨url, number, route, ⟨rfl, rfl⟩, rfl⟩

/-- Where no edge is the first piece there is no route. -/
theorem not_mem_routesChildren {piece : Piece UInt8 ParamType} {children : List Node}
    (plain : PlainChildren children) (absent : ∀ child ∈ children, ¬ child.Carries piece)
    (url : List (Piece UInt8 ParamType)) (number : Nat) :
    (piece :: url, number) ∉ routesChildren children := by
  induction children with
  | nil => exact List.not_mem_nil
  | cons child rest ih =>
      obtain ⟨⟨own, carries, _⟩, _, restPlain⟩ := plain
      rw [routesChildren_cons, List.mem_append, carries.mem_paths_iff]
      rintro (⟨rfl, _⟩ | later)
      · exact absent child List.mem_cons_self carries
      · exact ih restPlain (fun other member => absent other (List.mem_cons_of_mem _ member)) later

theorem Carries.unique {piece other : Piece UInt8 ParamType} {node : Node}
    (first : node.Carries piece) (second : node.Carries other) : piece = other := by
  have same := first.edge_eq.symm.trans second.edge_eq
  exact List.singleton_inj.mp same

/-- A node that is put in the place of another one with the same key keeps its edge. -/
theorem carries_congr {node next : Node} (key : next.key = node.key)
    (param : next.param = node.param) (piece : Piece UInt8 ParamType) :
    next.Carries piece ↔ node.Carries piece := by
  cases piece <;> simp only [Carries, key, param]

theorem addsBelow_descend {piece : Piece UInt8 ParamType} {url : List (Piece UInt8 ParamType)}
    {ruleIndex : Nat} (noNull : piece ≠ .symbol 0)
    (goes : ∀ child : Node, child.Plain → Adds url ruleIndex child (add ruleIndex url child))
    (children : List Node) (plain : PlainChildren children) :
    AddsBelow (piece :: url) ruleIndex children (descend piece (add ruleIndex url) children) := by
  induction children with
  | nil =>
      have added := goes (fresh piece) (plain_fresh piece)
      rw [descend]
      cases result : add ruleIndex url (fresh piece) with
      | none =>
          rw [result, Adds, routes_fresh] at added
          obtain ⟨number, nothing⟩ := added
          exact absurd nothing List.not_mem_nil
      | some next =>
          rw [result, Adds, routes_fresh] at added
          obtain ⟨key, param, nextPlain, routes, _⟩ := added
          have carries := (carries_congr key param piece).mpr (carries_fresh piece)
          refine ⟨⟨⟨piece, carries, fun _ => nofun⟩, nextPlain, trivial⟩, ?_,
            fun _ => List.not_mem_nil, ?_⟩
          · rw [routesChildren_cons, paths, carries.edge_eq]
            simpa [routesChildren] using routes.map fun route => (piece :: route.1, route.2)
          · rintro other different ⟨child, member, its⟩
            rw [List.mem_singleton] at member
            subst member
            exact absurd (by rw [its.unique carries, List.tail_cons]) different
  | cons child rest ih =>
      obtain ⟨⟨own, carries, apart⟩, childPlain, restPlain⟩ := plain
      rw [descend]
      by_cases same : own = piece
      · subst same
        have added := goes child childPlain
        have onlyHere := not_mem_routesChildren restPlain apart url
        rw [if_pos ((carries.fits_iff noNull).mpr rfl)]
        cases result : add ruleIndex url child with
        | none =>
            rw [result] at added
            obtain ⟨number, there⟩ := added
            exact ⟨number, List.mem_append_left _ (carries.mem_paths_iff.mpr ⟨rfl, there⟩)⟩
        | some next =>
            rw [result] at added
            obtain ⟨key, param, nextPlain, routes, notThere⟩ := added
            have nextCarries := (carries_congr key param own).mpr carries
            refine ⟨⟨⟨own, nextCarries, apart⟩, nextPlain, restPlain⟩, ?_, ?_, ?_⟩
            · rw [routesChildren_cons, routesChildren_cons, paths, paths, nextCarries.edge_eq,
                carries.edge_eq]
              exact (routes.map fun route => ([own] ++ route.1, route.2)).append_right _
            · intro number there
              rcases List.mem_append.mp there with here | later
              · exact notThere number (carries.mem_paths_iff.mp here).2
              · exact onlyHere number later
            · rintro other _ ⟨node, member, its⟩
              rcases List.mem_cons.mp member with rfl | old
              · exact ⟨child, List.mem_cons_self, (carries_congr key param other).mp its⟩
              · exact ⟨node, List.mem_cons_of_mem _ old, its⟩
      · have below := ih restPlain
        have notFits : ¬ child.fits piece = true := by
          rwa [carries.fits_iff noNull]
        rw [if_neg notFits]
        cases result : descend piece (add ruleIndex url) rest with
        | none =>
            rw [result] at below
            obtain ⟨number, there⟩ := below
            exact ⟨number, List.mem_append_right _ there⟩
        | some next =>
            rw [result] at below
            obtain ⟨nextPlain, routes, notThere, old⟩ := below
            have notOwn : own :: (piece :: url).tail ≠ piece :: url := by
              rw [List.tail_cons]
              exact fun equal => same (List.cons.inj equal).1
            refine ⟨⟨⟨own, carries, ?_⟩, childPlain, nextPlain⟩, ?_, ?_, ?_⟩
            · intro other member its
              obtain ⟨earlier, inRest, earlierCarries⟩ := old own notOwn ⟨other, member, its⟩
              exact apart earlier inRest earlierCarries
            · rw [routesChildren_cons, routesChildren_cons]
              exact (routes.append_left _).trans List.perm_middle
            · intro number there
              rcases List.mem_append.mp there with here | later
              · exact same (carries.mem_paths_iff.mp here).1
              · exact notThere number later
            · rintro other different ⟨node, member, its⟩
              rcases List.mem_cons.mp member with rfl | later
              · exact ⟨node, List.mem_cons_self, its⟩
              · obtain ⟨earlier, inRest, earlierCarries⟩ := old other different ⟨node, later, its⟩
                exact ⟨earlier, List.mem_cons_of_mem _ inRest, earlierCarries⟩

/-- One call of `add`. -/
theorem adds_add {ruleIndex : Nat} (isRule : ruleIndex ≠ 0)
    {url : List (Piece UInt8 ParamType)} (noNull : NoNull url) (node : Node) (plain : node.Plain) :
    Adds url ruleIndex node (add ruleIndex url node) := by
  induction url generalizing node with
  | nil =>
      rcases node with ⟨index, key, param, children⟩
      have longer := longer_of_solidChildren (solidChildren_of_plain children plain)
      rw [add]
      by_cases free : index = 0
      · subst free
        rw [if_pos rfl]
        refine ⟨rfl, rfl, plain, ?_, ?_⟩
        · simp [routes, isRule]
        · intro number there
          exact longer _ (by simpa [routes] using there) rfl
      · rw [if_neg free]
        exact ⟨index, by simp [routes, free]⟩
  | cons piece url ih =>
      rcases node with ⟨index, key, param, children⟩
      have first : piece ≠ .symbol 0 := fun equal => noNull (equal ▸ List.mem_cons_self)
      have below := addsBelow_descend first
        (fun child => ih (fun later => noNull (List.mem_cons_of_mem _ later)) child) children plain
      rw [add]
      cases result : descend piece (add ruleIndex url) children with
      | none =>
          rw [result] at below
          obtain ⟨number, there⟩ := below
          exact ⟨number, List.mem_append_right _ there⟩
      | some next =>
          rw [result] at below
          obtain ⟨nextPlain, routesPerm, notThere, _⟩ := below
          refine ⟨rfl, rfl, nextPlain, ?_, ?_⟩
          · exact (routesPerm.append_left _).trans List.perm_middle
          · intro number there
            rcases List.mem_append.mp there with here | later
            · split at here <;> simp at here
            · exact notThere number later

end Node

end DescargaP2P.Crow
