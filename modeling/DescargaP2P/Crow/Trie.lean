import DescargaP2P.Cpp.Strings
import DescargaP2P.Patterns.Core

/-!
# The search tree of the HTTP library

Crow keeps the routes of each method in a tree.  While routes are added, an edge is one
character or one parameter; `optimize` then joins edges without a choice.  A search goes
through every child that fits and keeps the rule of least index.

The paths of a tree that end in a rule are its `routes`.  `optimize` does not change
them, `add` puts in one more, and `find` chooses among them.  Floating point parameters
are read by a function that is left open.
-/

namespace DescargaP2P.Crow

open DescargaP2P.Cpp
open DescargaP2P.Patterns
open DescargaP2P.Text

universe u

/-! ## Parameters -/

/-- `ParamType`, without `MAX`. -/
inductive ParamType
  | INT
  | UINT
  | DOUBLE
  | STRING
  | PATH
  deriving DecidableEq, Repr

/-- The value of one parameter. -/
inductive ParamValue (δ : Type u)
  | int (value : Int)
  | uint (value : Nat)
  | double (value : δ)
  | string (value : Bytes)
  deriving DecidableEq, Repr

/-- `routing_params`: the values of each type, in the order of the URL. -/
structure RoutingParams (δ : Type u) where
  intParams : List Int := []
  uintParams : List Nat := []
  doubleParams : List δ := []
  stringParams : List Bytes := []
  deriving DecidableEq, Repr

/-- `push_back` on the vector of the type. -/
def RoutingParams.push {δ : Type u} (params : RoutingParams δ) :
    ParamValue δ → RoutingParams δ
  | .int value => { params with intParams := params.intParams ++ [value] }
  | .uint value => { params with uintParams := params.uintParams ++ [value] }
  | .double value => { params with doubleParams := params.doubleParams ++ [value] }
  | .string value => { params with stringParams := params.stringParams ++ [value] }

/-- `strtoll` in base 10, unless it reads nothing or reports `ERANGE`. -/
def strtoll (text : Bytes) : Option (Int × Bytes) :=
  let (negative, magnitude) := takeSign text
  let digits := magnitude.takeWhile isDigit
  let value : Int := if negative then -(numValue digits) else numValue digits
  if digits = [] ∨ value < -2 ^ 63 ∨ 2 ^ 63 ≤ value then none
  else some (value, magnitude.dropWhile isDigit)

/-- `strtoull` in base 10 for a text without `-`. -/
def strtoull (text : Bytes) : Option (Nat × Bytes) :=
  let (_, magnitude) := takeSign text
  let digits := magnitude.takeWhile isDigit
  if digits = [] ∨ 2 ^ 64 ≤ numValue digits then none
  else some (numValue digits, magnitude.dropWhile isDigit)

/-- The first character is a digit or one of the others. -/
def startsNumber (others text : Bytes) : Bool :=
  text.head?.any fun c => isDigit c || others.contains c

section Search

variable {δ : Type u} (strtod : Bytes → Option (δ × Bytes))

/-- What a parameter takes of the URL from the position of the search. -/
def takeParam : ParamType → Bytes → Option (ParamValue δ × Bytes)
  | .INT, url =>
      if startsNumber (ascii "+-") url then
        (strtoll url).map fun read => (.int read.1, read.2)
      else none
  | .UINT, url =>
      if startsNumber (ascii "+") url then
        (strtoull url).map fun read => (.uint read.1, read.2)
      else none
  | .DOUBLE, url =>
      if startsNumber (ascii "+-.") url then
        (strtod url).map fun read => (.double read.1, read.2)
      else none
  | .STRING, url =>
      let segment := url.takeWhile (· ≠ 47)
      if segment = [] then none else some (.string segment, url.dropWhile (· ≠ 47))
  | .PATH, url => if url = [] then none else some (.string url, [])

theorem takeParam_nil (type : ParamType) : takeParam strtod type [] = none := by
  cases type <;> rfl

/-! ## The tree -/

/-- `Trie::Node` without blueprints.  Index 0 is no rule. -/
structure Node where
  ruleIndex : Nat := 0
  key : Bytes := []
  param : Option ParamType := none
  children : List Node := []

namespace Node

/-- `IsSimpleNode`. -/
def isSimpleNode (node : Node) : Bool :=
  node.ruleIndex == 0 && decide (node.children.length < 2) && node.param.isNone &&
    node.children.all fun child => child.param.isNone

/-- `update_found`. -/
def updateFound (found ret : Nat × RoutingParams δ) : Nat × RoutingParams δ :=
  if ret.1 ≠ 0 ∧ (found.1 = 0 ∨ ret.1 < found.1) then ret else found

mutual

/-- `find` on what is left of the URL: the rule index and the parameters. -/
def find (url : Bytes) (params : RoutingParams δ) : Node → Nat × RoutingParams δ
  | ⟨ruleIndex, _, _, children⟩ =>
      if url = [] then (ruleIndex, params) else findChildren url params (0, {}) children

/-- The loop of `find` over the children, with what has been found so far. -/
def findChildren (url : Bytes) (params : RoutingParams δ) (found : Nat × RoutingParams δ) :
    List Node → Nat × RoutingParams δ
  | [] => found
  | child :: rest =>
      let next := match child.param with
        | some type =>
            match takeParam strtod type url with
            | none => found
            | some (value, left) => updateFound found (find left (params.push value) child)
        | none =>
            if child.key <+: url then
              updateFound found (find (url.drop child.key.length) params child)
            else found
      findChildren url params next rest

end

/-! ## The routes of a tree -/

/-- What the edge to a node matches. -/
def edge (node : Node) : List (Piece UInt8 ParamType) :=
  match node.param with
  | some type => [.param type]
  | none => node.key.map .symbol

mutual

/-- The paths below a node that end in a rule, with its index. -/
def routes : Node → List (List (Piece UInt8 ParamType) × Nat)
  | ⟨ruleIndex, _, _, children⟩ =>
      (if ruleIndex = 0 then [] else [([], ruleIndex)]) ++ routesChildren children

def routesChildren : List Node → List (List (Piece UInt8 ParamType) × Nat)
  | [] => []
  | child :: rest =>
      (child.routes.map fun route => (child.edge ++ route.1, route.2)) ++ routesChildren rest

end

mutual

/-- No edge matches the empty text. -/
def Solid : Node → Prop
  | ⟨_, _, _, children⟩ => SolidChildren children

def SolidChildren : List Node → Prop
  | [] => True
  | child :: rest => child.edge ≠ [] ∧ child.Solid ∧ SolidChildren rest

end

theorem longer_of_solidChildren {children : List Node} (solid : SolidChildren children) :
    ∀ route ∈ routesChildren children, route.1 ≠ [] := by
  induction children with
  | nil => simp [routesChildren]
  | cons child rest ih =>
      intro route member
      rcases List.mem_append.mp member with here | later
      · obtain ⟨tail, _, rfl⟩ := List.mem_map.mp here
        exact fun empty => solid.1 (List.append_eq_nil_iff.mp empty).1
      · exact ih solid.2.2 route later

/-! ## The search chooses among the routes -/

/-- The result of a search, if it has found a rule. -/
def ofFound (found : Nat × RoutingParams δ) : Option (Nat × RoutingParams δ) :=
  if found.1 = 0 then none else some found

theorem ofFound_updateFound (found ret : Nat × RoutingParams δ) :
    ofFound (updateFound found ret) = better Prod.fst (ofFound found) (ofFound ret) := by
  unfold ofFound updateFound
  by_cases nothing : found.1 = 0
  · by_cases empty : ret.1 = 0 <;> simp [nothing, empty]
  · by_cases empty : ret.1 = 0
    · simp [nothing, empty]
    · by_cases lower : ret.1 < found.1 <;> simp [nothing, empty, lower, better]

/-- The parameters of a match are pushed behind those of the path to it. -/
def extend (params : RoutingParams δ) (answer : Nat × List (ParamValue δ)) :
    Nat × RoutingParams δ :=
  (answer.1, answer.2.foldl RoutingParams.push params)

theorem better_map_extend (params : RoutingParams δ)
    (first second : Option (Nat × List (ParamValue δ))) :
    better Prod.fst (first.map (extend params)) (second.map (extend params)) =
      (better Prod.fst first second).map (extend params) := by
  cases first with
  | none => simp
  | some first =>
      cases second with
      | none => simp
      | some second =>
          simp only [better, Option.map_some, extend]
          split <;> rfl

/-- What the edge to a child takes. -/
theorem choose_edge (child : Node) (url : Bytes) :
    choose (takeParam strtod) (child.routes.map fun route => (child.edge ++ route.1, route.2)) url =
      match child.param with
      | some type =>
          match takeParam strtod type url with
          | none => none
          | some (value, left) =>
              (choose (takeParam strtod) child.routes left).map
                fun answer => (answer.1, value :: answer.2)
      | none =>
          if child.key <+: url then
            choose (takeParam strtod) child.routes (url.drop child.key.length)
          else none := by
  unfold choose edge
  cases child.param with
  | none =>
      simp only [answers_word]
      split <;> rfl
  | some type =>
      simp only [List.singleton_append, answers_param]
      cases takeParam strtod type url with
      | none => rfl
      | some taken => simp only [argmin_map, Function.comp_def]

mutual

/-- A search finds the route that is chosen below the node. -/
theorem ofFound_find (url : Bytes) (params : RoutingParams δ) (node : Node) (solid : node.Solid) :
    ofFound (find strtod url params node) =
      (choose (takeParam strtod) node.routes url).map (extend params) := by
  cases node with
  | mk ruleIndex key param children =>
      rw [find, routes]
      by_cases ended : url = []
      · subst ended
        have below := answers_eq_nil (takeParam_nil strtod) (longer_of_solidChildren solid)
        have nothing : choose (takeParam strtod) (routesChildren children) [] = none := by
          rw [choose, below, List.argmin_nil]
        rw [if_pos rfl, choose_append, nothing, better_none_right]
        by_cases empty : ruleIndex = 0
        · simp [ofFound, empty, choose, answers]
        · simp [ofFound, empty, choose, answers, values, extend]
      · have own : choose (takeParam strtod)
            (if ruleIndex = 0 then [] else [([], ruleIndex)]) url = none := by
          cases url with
          | nil => exact absurd rfl ended
          | cons first rest => split <;> simp [choose, answers, values]
        have loop := ofFound_findChildren url params (0, {}) children solid
        rw [if_neg ended, loop, choose_append, own]
        simp [ofFound]

theorem ofFound_findChildren (url : Bytes) (params : RoutingParams δ)
    (found : Nat × RoutingParams δ) (children : List Node) (solid : SolidChildren children) :
    ofFound (findChildren strtod url params found children) =
      better Prod.fst (ofFound found)
        ((choose (takeParam strtod) (routesChildren children) url).map (extend params)) := by
  cases children with
  | nil => simp [findChildren, routesChildren, choose, answers]
  | cons child rest =>
      have later := fun next => ofFound_findChildren url params next rest solid.2.2
      have here := fun url params => ofFound_find url params child solid.2.1
      rw [findChildren, later, routesChildren, choose_append, ← better_map_extend,
        ← better_assoc, choose_edge]
      congr 1
      cases child.param with
      | none =>
          simp only
          split
          · rw [ofFound_updateFound, here]
          · simp
      | some type =>
          simp only
          cases takeParam strtod type url with
          | none => simp
          | some taken =>
              simp only [ofFound_updateFound, here, Option.map_map]
              rfl

end

end Node

end Search

/-! ## Optimizing -/

namespace Node

mutual

/-- `optimizeNode`, with the keys of the nodes that have been joined to this one.  A
simple node takes over its only child and is optimized again. -/
def optimizeFrom (front : Bytes) : Node → Node
  | ⟨ruleIndex, key, param, []⟩ => ⟨ruleIndex, front ++ key, param, []⟩
  | ⟨ruleIndex, key, param, child :: rest⟩ =>
      if isSimpleNode ⟨ruleIndex, key, param, child :: rest⟩ then
        child.optimizeFrom (front ++ key)
      else ⟨ruleIndex, front ++ key, param, optimizeChildren (child :: rest)⟩

def optimizeChildren : List Node → List Node
  | [] => []
  | child :: rest => child.optimizeFrom [] :: optimizeChildren rest

end

/-- `optimizeNode`. -/
def optimizeNode (node : Node) : Node := node.optimizeFrom []

/-- `optimize`, which leaves the head alone. -/
def optimize (head : Node) : Node :=
  { head with children := optimizeChildren head.children }

/-- A node with a child is simple if it has one child, no rule and no parameters. -/
theorem isSimpleNode_cons_iff {ruleIndex : Nat} {key : Bytes} {param : Option ParamType}
    {child : Node} {rest : List Node} :
    isSimpleNode ⟨ruleIndex, key, param, child :: rest⟩ = true ↔
      ruleIndex = 0 ∧ rest = [] ∧ param = none ∧ child.param = none := by
  cases rest with
  | nil => simp [isSimpleNode, and_assoc]
  | cons other rest => simp [isSimpleNode]

/-- The paths to rules through a node, from its parent. -/
def paths (node : Node) : List (List (Piece UInt8 ParamType) × Nat) :=
  node.routes.map fun route => (node.edge ++ route.1, route.2)

theorem routesChildren_cons (child : Node) (rest : List Node) :
    routesChildren (child :: rest) = child.paths ++ routesChildren rest := rfl

/-- A longer key prolongs the paths. -/
theorem paths_front (front key : Bytes) (ruleIndex : Nat) (children : List Node) :
    paths ⟨ruleIndex, front ++ key, none, children⟩ =
      (paths ⟨ruleIndex, key, none, children⟩).map
        fun route => (front.map .symbol ++ route.1, route.2) := by
  simp [paths, edge, routes, Function.comp_def]

/-- A node without a rule passes on the paths of its children. -/
theorem paths_of_no_rule (key : Bytes) (children : List Node) :
    paths ⟨0, key, none, children⟩ =
      (routesChildren children).map fun route => (key.map .symbol ++ route.1, route.2) := by
  simp [paths, edge, routes]

mutual

theorem paths_optimizeFrom (front : Bytes) (node : Node) (plain : front = [] ∨ node.param = none) :
    (node.optimizeFrom front).paths =
      node.paths.map fun route => (front.map .symbol ++ route.1, route.2) := by
  cases node with
  | mk ruleIndex key param children =>
      cases children with
      | nil =>
          rw [optimizeFrom]
          rcases plain with rfl | rfl
          · simp
          · exact paths_front front key ruleIndex []
      | cons child rest =>
          have below := routesChildren_optimizeChildren (child :: rest)
          have joined := fun key plain => paths_optimizeFrom (front ++ key) child plain
          rw [optimizeFrom]
          split
          · rename_i simple
            obtain ⟨rfl, rfl, rfl, childPlain⟩ := isSimpleNode_cons_iff.mp simple
            rw [joined key (Or.inr childPlain), paths_of_no_rule, routesChildren_cons,
              routesChildren]
            simp [Function.comp_def]
          · have same : paths ⟨ruleIndex, key, param, optimizeChildren (child :: rest)⟩ =
                paths ⟨ruleIndex, key, param, child :: rest⟩ := by
              rw [paths, paths, routes, routes, below]
              rfl
            rcases plain with rfl | rfl
            · simp [same]
            · rw [paths_front, same]

theorem routesChildren_optimizeChildren (children : List Node) :
    routesChildren (optimizeChildren children) = routesChildren children := by
  cases children with
  | nil => rfl
  | cons child rest =>
      have here := paths_optimizeFrom [] child (Or.inl rfl)
      have later := routesChildren_optimizeChildren rest
      rw [optimizeChildren, routesChildren_cons, routesChildren_cons, here, later]
      simp

end

/-- Optimizing changes no route. -/
theorem routes_optimize (head : Node) : head.optimize.routes = head.routes := by
  rcases head with ⟨ruleIndex, key, param, children⟩
  rw [optimize, routes, routes, routesChildren_optimizeChildren]

theorem edge_front_ne_nil {ruleIndex : Nat} {key : Bytes} {param : Option ParamType}
    {children : List Node} (some_ : edge ⟨ruleIndex, key, param, children⟩ ≠ []) (front : Bytes)
    (other : Nat) (others : List Node) : edge ⟨other, front ++ key, param, others⟩ ≠ [] := by
  cases param with
  | some type => exact List.cons_ne_nil _ _
  | none =>
      have keySome : key ≠ [] := by
        rintro rfl
        exact some_ rfl
      simp [edge, keySome]

mutual

theorem solid_optimizeFrom (front : Bytes) (node : Node) (edgeSome : node.edge ≠ [])
    (solid : node.Solid) :
    (node.optimizeFrom front).edge ≠ [] ∧ (node.optimizeFrom front).Solid := by
  cases node with
  | mk ruleIndex key param children =>
      cases children with
      | nil => exact ⟨edge_front_ne_nil edgeSome front _ _, trivial⟩
      | cons child rest =>
          have joined := fun front => solid_optimizeFrom front child solid.1 solid.2.1
          have below := solid_optimizeChildren (child :: rest) solid
          rw [optimizeFrom]
          split
          · exact joined (front ++ key)
          · exact ⟨edge_front_ne_nil edgeSome front _ _, below⟩

theorem solid_optimizeChildren (children : List Node) (solid : SolidChildren children) :
    SolidChildren (optimizeChildren children) := by
  cases children with
  | nil => trivial
  | cons child rest =>
      have here := solid_optimizeFrom [] child solid.1 solid.2.1
      exact ⟨here.1, here.2, solid_optimizeChildren rest solid.2.2⟩

end

theorem solid_optimize {head : Node} (solid : head.Solid) : head.optimize.Solid := by
  rcases head with ⟨ruleIndex, key, param, children⟩
  exact solid_optimizeChildren children solid

/-! ## Adding a route -/

/-- The test of `add` for a child: the type of its parameter, or `key[0]`, which is the
null character in an empty key. -/
def fits (piece : Piece UInt8 ParamType) (node : Node) : Bool :=
  match piece with
  | .param type => node.param == some type
  | .symbol c => node.key.headD 0 == c

/-- `add_child_node` for a piece of the URL. -/
def fresh : Piece UInt8 ParamType → Node
  | .param type => { param := some type }
  | .symbol c => { key := [c] }

/-- Go on in the first child that fits, or in a new one at the end. -/
def descend (piece : Piece UInt8 ParamType) (go : Node → Option Node) :
    List Node → Option (List Node)
  | [] => (go (fresh piece)).map fun added => [added]
  | child :: rest =>
      if child.fits piece then (go child).map (· :: rest)
      else (descend piece go rest).map (child :: ·)

/-- `add`, which throws if the route has a rule already. -/
def add (ruleIndex : Nat) : List (Piece UInt8 ParamType) → Node → Option Node
  | [], node => if node.ruleIndex = 0 then some { node with ruleIndex := ruleIndex } else none
  | piece :: url, node =>
      (descend piece (add ruleIndex url) node.children).map
        fun children => { node with children := children }

end Node

/-! ## The text of a rule -/

/-- `paramTraits`. -/
def paramTraits : List (ParamType × Bytes) :=
  [(.INT, ascii "<int>"), (.UINT, ascii "<uint>"), (.DOUBLE, ascii "<float>"),
    (.DOUBLE, ascii "<double>"), (.STRING, ascii "<str>"), (.STRING, ascii "<string>"),
    (.PATH, ascii "<path>")]

/-- The pieces that `add` reads one after the other, with the number of characters that
belong to the last tag.  There are none if a `<` begins no tag: `CROW_ROUTE` does not
compile then. -/
def piecesFrom : Nat → Bytes → Option (List (Piece UInt8 ParamType))
  | _, [] => some []
  | skip + 1, _ :: url => piecesFrom skip url
  | 0, c :: url =>
      if c = 60 then
        match paramTraits.find? fun traits => traits.2.isPrefixOf (c :: url) with
        | none => none
        | some (type, name) => (piecesFrom (name.length - 1) url).map (.param type :: ·)
      else (piecesFrom 0 url).map (.symbol c :: ·)

def pieces (url : Bytes) : Option (List (Piece UInt8 ParamType)) := piecesFrom 0 url

end DescargaP2P.Crow
