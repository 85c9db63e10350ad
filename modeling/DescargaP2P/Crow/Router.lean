import DescargaP2P.Crow.Insertion
import Mathlib.Logic.Function.Basic

/-!
# The router of the HTTP library

The router keeps, for each method, the rules in the order of their registration and a
tree of their texts.  The first two places of the rules are kept free: index 0 is no
rule, and index 1 stands for a rule that ends in a slash when the URL does not.

`handle_initial` looks a URL up as soon as it is known, and `handle` runs the rule once
the message is complete.  Both agree with `dispatch`, which looks through the list of
the rules and knows of no tree and no index.
-/

namespace DescargaP2P.Crow

open DescargaP2P.Patterns
open DescargaP2P.Text

universe u v

/-- `HTTPMethod`. -/
inductive HTTPMethod
  | Delete | Get | Head | Post | Put
  | Connect | Options | Trace
  | Patch | Purge
  | Copy | Lock | MkCol | Move | Propfind | Proppatch | Search | Unlock | Bind | Rebind
  | Unbind | Acl
  | Report | MkActivity | Checkout | Merge
  | MSearch | Notify | Subscribe | Unsubscribe
  | MkCalendar
  | Link | Unlink
  | Source
  deriving DecidableEq, Repr

/-- The methods in the order of their numbers. -/
def HTTPMethod.all : List HTTPMethod :=
  [.Delete, .Get, .Head, .Post, .Put, .Connect, .Options, .Trace, .Patch, .Purge, .Copy, .Lock,
    .MkCol, .Move, .Propfind, .Proppatch, .Search, .Unlock, .Bind, .Rebind, .Unbind, .Acl,
    .Report, .MkActivity, .Checkout, .Merge, .MSearch, .Notify, .Subscribe, .Unsubscribe,
    .MkCalendar, .Link, .Unlink, .Source]

/-- `method_name`. -/
def HTTPMethod.name : HTTPMethod → Bytes
  | .Delete => ascii "DELETE"
  | .Get => ascii "GET"
  | .Head => ascii "HEAD"
  | .Post => ascii "POST"
  | .Put => ascii "PUT"
  | .Connect => ascii "CONNECT"
  | .Options => ascii "OPTIONS"
  | .Trace => ascii "TRACE"
  | .Patch => ascii "PATCH"
  | .Purge => ascii "PURGE"
  | .Copy => ascii "COPY"
  | .Lock => ascii "LOCK"
  | .MkCol => ascii "MKCOL"
  | .Move => ascii "MOVE"
  | .Propfind => ascii "PROPFIND"
  | .Proppatch => ascii "PROPPATCH"
  | .Search => ascii "SEARCH"
  | .Unlock => ascii "UNLOCK"
  | .Bind => ascii "BIND"
  | .Rebind => ascii "REBIND"
  | .Unbind => ascii "UNBIND"
  | .Acl => ascii "ACL"
  | .Report => ascii "REPORT"
  | .MkActivity => ascii "MKACTIVITY"
  | .Checkout => ascii "CHECKOUT"
  | .Merge => ascii "MERGE"
  | .MSearch => ascii "M-SEARCH"
  | .Notify => ascii "NOTIFY"
  | .Subscribe => ascii "SUBSCRIBE"
  | .Unsubscribe => ascii "UNSUBSCRIBE"
  | .MkCalendar => ascii "MKCALENDAR"
  | .Link => ascii "LINK"
  | .Unlink => ascii "UNLINK"
  | .Source => ascii "SOURCE"

theorem HTTPMethod.mem_all (method : HTTPMethod) : method ∈ HTTPMethod.all := by
  cases method <;> decide

theorem HTTPMethod.nodup_all : HTTPMethod.all.Nodup := by decide

/-- The number of a method. -/
def HTTPMethod.number (method : HTTPMethod) : Nat := HTTPMethod.all.idxOf method

/-! ## Rules -/

/-- A rule that `CROW_ROUTE` has compiled: its text is a C string, and every `<` in it
begins a tag. -/
structure Rule (η : Type u) where
  rule : Bytes
  /-- `methods_`, one bit for each method. -/
  methods : BitVec 32 := 1 <<< HTTPMethod.Get.number
  handler : η
  noNull : 0 ∉ rule
  compiles : (pieces rule).isSome

namespace Rule

variable {η : Type u}

/-- What a rule matches. -/
def pattern (rule : Rule η) : List (Piece UInt8 ParamType) := (pieces rule.rule).get rule.compiles

theorem pieces_rule (rule : Rule η) : pieces rule.rule = some rule.pattern :=
  (Option.some_get rule.compiles).symm

/-- The test of `foreach_method`.  There are more methods than bits, so the last two
methods have no rules. -/
def allows (rule : Rule η) (method : HTTPMethod) : Bool := rule.methods.getLsbD method.number

/-- The methods that `foreach_method` goes through. -/
def foreachMethod (rule : Rule η) : List HTTPMethod := HTTPMethod.all.filter rule.allows

/-- `has_trailing_slash`. -/
def hasTrailingSlash (rule : Rule η) : Bool :=
  decide (1 < rule.rule.length) && rule.rule.getLast? == some 47

end Rule

/-- `RULE_SPECIAL_REDIRECT_SLASH`. -/
def RULE_SPECIAL_REDIRECT_SLASH : Nat := 1

/-- `PerMethod`. -/
structure PerMethod (η : Type u) where
  rules : List (Option (Rule η)) := [none, none]
  trie : Node := {}

/-- `trie.add` on a text. -/
def Node.addText (ruleIndex : Nat) (url : Bytes) (trie : Node) : Option Node :=
  (pieces url).bind fun pattern => trie.add ruleIndex pattern

section Registration

variable {η : Type u}

/-- `internal_add_rule_object` for one method.  Rule indices have 16 bits. -/
def PerMethod.addRule (rule : Rule η) (perMethod : PerMethod η) : Option (PerMethod η) :=
  let rules := perMethod.rules ++ [some rule]
  (perMethod.trie.addText ((rules.length - 1) % 2 ^ 16) rule.rule).bind fun trie =>
    if rule.hasTrailingSlash then
      (trie.addText RULE_SPECIAL_REDIRECT_SLASH rule.rule.dropLast).map (PerMethod.mk rules)
    else some ⟨rules, trie⟩

/-- The rules and the tree of each method. -/
abbrev PerMethods (η : Type u) := HTTPMethod → PerMethod η

/-- `internal_add_rule_object`, after `validate` of the rule. -/
def addRule (perMethods : PerMethods η) (rule : Rule η) : Option (PerMethods η) :=
  if rule.rule.head? = some 47 then
    rule.foreachMethod.foldlM (fun perMethods method =>
      ((perMethods method).addRule rule).map (Function.update perMethods method)) perMethods
  else none

/-- `Trie::validate`. -/
def Node.validate (head : Node) : Option Node :=
  if head.isSimpleNode then some head.optimize else none

/-- `Router::validate`, nothing if it throws. -/
def validate (rules : List (Rule η)) : Option (PerMethods η) :=
  (rules.foldlM addRule fun _ => {}).bind fun perMethods =>
    if HTTPMethod.all.all fun method => (perMethods method).trie.validate.isSome then
      some fun method =>
        { perMethods method with
          trie := ((perMethods method).trie.validate).getD {} }
    else none

end Registration

/-! ## Requests -/

section Requests

variable {η : Type u} {δ : Type v} (strtod : Bytes → Option (δ × Bytes))

/-- What `handle_initial` leaves: a response, or what has been found, with `skip_body`. -/
inductive Initial (δ : Type v)
  | respond (code : Nat) (allow : Option Bytes)
  | found (method : HTTPMethod) (ruleIndex : Nat) (params : RoutingParams δ) (skipBody : Bool)

/-- What becomes of a request. -/
inductive Outcome (η : Type u) (δ : Type v)
  | respond (code : Nat) (allow : Option Bytes)
  | redirect (skipBody : Bool)
  | run (rule : Rule η) (params : RoutingParams δ) (skipBody : Bool)
  /-- `rules[rule_index]` is not a rule. -/
  | corrupted

variable (perMethods : PerMethods η)

/-- `per_methods_[method].trie.find(req.url)`. -/
def search (method : HTTPMethod) (url : Bytes) : Nat × RoutingParams δ :=
  (perMethods method).trie.find strtod url {}

/-- The text of the header `Allow`. -/
def allowText (listed : HTTPMethod → Bool) : Bytes :=
  let names := (HTTPMethod.all.filter fun method => method != .Head && listed method).flatMap
    fun method => method.name ++ ascii ", "
  (ascii "OPTIONS, HEAD, " ++ names).dropLast.dropLast

/-- `handle_initial`. -/
def handleInitial (method : HTTPMethod) (url : Bytes) : Initial δ :=
  match method with
  | .Head =>
      let own := search strtod perMethods .Head url
      if own.1 ≠ 0 then .found .Head own.1 own.2 true
      else
        let get := search strtod perMethods .Get url
        if get.1 ≠ 0 then .found .Get get.1 get.2 true else .respond 404 none
  | .Options =>
      if url = ascii "/*" then
        .respond 204 (some (allowText fun method => !(perMethods method).trie.children.isEmpty))
      else if HTTPMethod.all.any fun method => (search strtod perMethods method url).1 != 0 then
        .respond 204 (some (allowText fun method => (search strtod perMethods method url).1 != 0))
      else .respond 404 none
  | _ =>
      let own := search strtod perMethods method url
      if own.1 ≠ 0 then .found method own.1 own.2 false
      else if HTTPMethod.all.any fun method => (search strtod perMethods method url).1 != 0 then
        .respond 405 none
      else .respond 404 none

/-- `handle`, for a request that `handle_initial` has not answered. -/
def handle : Initial δ → Outcome η δ
  | .respond code allow => .respond code allow
  | .found method ruleIndex params skipBody =>
      if (perMethods method).rules.length ≤ ruleIndex then .corrupted
      else if ruleIndex = RULE_SPECIAL_REDIRECT_SLASH then .redirect skipBody
      else
        match (perMethods method).rules[ruleIndex]? with
        | some (some rule) => .run rule params skipBody
        | _ => .corrupted

/-- A request, from its URL to the rule that is run. -/
def route (method : HTTPMethod) (url : Bytes) : Outcome η δ :=
  handle perMethods (handleInitial strtod perMethods method url)

end Requests

end DescargaP2P.Crow
