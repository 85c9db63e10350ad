import DescargaP2P.Transition.Core
import Mathlib.Data.List.Induction
import Mathlib.Logic.Function.Basic

/-!
# Request and reply sockets

A process talks through one socket: in each state it wants to receive, to send a
message or neither.  A reply socket refuses to receive while it owes a reply and
to send while it owes none, and answers the sender of the last request it took.
A request socket refuses to send while a request is outstanding and to receive
while none is.

Any number of request processes are connected to one reply process.  Every
interleaving is a run of `Step`; in particular the reply process takes any
pending request.
-/

namespace DescargaP2P.ReqRep

open DescargaP2P.Transition

universe u v w x

/-- What a process does next with its socket. -/
inductive Action (μ : Type u)
  | receive
  | send (message : μ)
  | idle
  deriving DecidableEq

/-- A process over states `σ` and messages `μ`.  `failed` is the state after the
socket has refused an operation. -/
structure Process (σ : Type v) (μ : Type u) where
  action : σ → Action μ
  received : σ → μ → σ
  sent : σ → σ
  failed : σ → σ

/-! ## The reply socket -/

/-- An operation of the reply process on its socket. -/
inductive RepOp (μ : Type u)
  | received (message : μ)
  | sent (message : μ)
  | refused
  deriving DecidableEq

/-- The next operation of a reply process whose socket owes a reply or not, given
the request it would take.  A process that receives blocks while there is no
request. -/
def repStep {τ : Type w} {μ : Type u} (process : Process τ μ) (state : τ) (owed : Bool)
    (request : Option μ) : Option (RepOp μ × τ × Bool) :=
  match process.action state with
  | .receive =>
      if owed then some (.refused, process.failed state, owed)
      else request.map fun message => (.received message, process.received state message, true)
  | .send message =>
      if owed then some (.sent message, process.sent state, false)
      else some (.refused, process.failed state, owed)
  | .idle => none

section Rep

variable {τ : Type w} {μ : Type u} {process : Process τ μ} {state next : τ}
  {owed owes : Bool} {request : Option μ} {message : μ}

theorem repStep_received_iff :
    repStep process state owed request = some (.received message, next, owes) ↔
      process.action state = .receive ∧ owed = false ∧ request = some message ∧
        next = process.received state message ∧ owes = true := by
  unfold repStep
  cases process.action state <;> cases owed <;> cases request <;> simp [eq_comm]
  grind

theorem repStep_sent_iff :
    repStep process state owed request = some (.sent message, next, owes) ↔
      process.action state = .send message ∧ owed = true ∧
        next = process.sent state ∧ owes = false := by
  unfold repStep
  cases process.action state <;> cases owed <;> cases request <;> simp [eq_comm]

theorem repStep_refused_iff :
    repStep process state owed request = some (.refused, next, owes) ↔
      ((process.action state = .receive ∧ owed = true) ∨
        ∃ reply, process.action state = .send reply ∧ owed = false) ∧
        next = process.failed state ∧ owes = owed := by
  unfold repStep
  cases process.action state <;> cases owed <;> cases request <;> simp [eq_comm]

end Rep

/-! ## One reply process on a sequence of requests -/

/-- A reply process, its socket, the requests still to arrive and the operations
performed so far. -/
structure Loop (τ : Type w) (μ : Type u) where
  server : τ
  owed : Bool
  input : List μ
  ops : List (RepOp μ)
  deriving DecidableEq

/-- One socket operation of a reply process on a sequence of requests. -/
def Loop.step {τ : Type w} {μ : Type u} (process : Process τ μ) (loop : Loop τ μ) :
    Option (Loop τ μ) :=
  (repStep process loop.server loop.owed loop.input.head?).map fun result =>
    { server := result.2.1
      owed := result.2.2
      input := match result.1 with
        | .received _ => loop.input.tail
        | _ => loop.input
      ops := loop.ops ++ [result.1] }

section Loop

variable {τ : Type w} {μ : Type u}

/-- A reply process before its first operation. -/
def Loop.start (server : τ) (input : List μ) : Loop τ μ where
  server := server
  owed := false
  input := input
  ops := []

/-- State after a number of operations, or where the process blocks before. -/
def Loop.after (process : Process τ μ) (loop : Loop τ μ) : Nat → Loop τ μ
  | 0 => loop
  | count + 1 => ((loop.after process count).step process).getD (loop.after process count)

/-- The next operation receives the message. -/
def Loop.Receives (process : Process τ μ) (loop : Loop τ μ) (message : μ) : Prop :=
  process.action loop.server = .receive ∧ loop.owed = false ∧ loop.input.head? = some message

/-- The operation of a step: a message received, a reply sent or a refusal. -/
theorem Loop.step_cases {process : Process τ μ} {loop next : Loop τ μ}
    (taken : loop.step process = some next) :
    (∃ message, loop.Receives process message ∧
      next = ⟨process.received loop.server message, true, loop.input.tail,
        loop.ops ++ [.received message]⟩) ∨
    (∃ message, process.action loop.server = .send message ∧ loop.owed = true ∧
      next = ⟨process.sent loop.server, false, loop.input, loop.ops ++ [.sent message]⟩) ∨
    (((process.action loop.server = .receive ∧ loop.owed = true) ∨
        ∃ message, process.action loop.server = .send message ∧ loop.owed = false) ∧
      next = ⟨process.failed loop.server, loop.owed, loop.input, loop.ops ++ [.refused]⟩) := by
  rcases Option.map_eq_some_iff.mp taken with ⟨⟨op, state, owed⟩, operation, rfl⟩
  cases op with
  | received message =>
      obtain ⟨receives, notOwed, arrives, rfl, rfl⟩ := repStep_received_iff.mp operation
      exact .inl ⟨message, ⟨receives, notOwed, arrives⟩, rfl⟩
  | sent message =>
      obtain ⟨sends, owes, rfl, rfl⟩ := repStep_sent_iff.mp operation
      exact .inr (.inl ⟨message, sends, owes, rfl⟩)
  | refused =>
      obtain ⟨outOfTurn, rfl, rfl⟩ := repStep_refused_iff.mp operation
      exact .inr (.inr ⟨outOfTurn, rfl⟩)

theorem Loop.step_of_receives {process : Process τ μ} {loop : Loop τ μ} {message : μ}
    (receives : loop.Receives process message) :
    loop.step process = some ⟨process.received loop.server message, true, loop.input.tail,
      loop.ops ++ [.received message]⟩ := by
  have operation := repStep_received_iff.mpr
    ⟨receives.1, receives.2.1, receives.2.2, rfl, rfl⟩
  rw [Loop.step, operation]
  rfl

theorem Loop.step_of_refused {process : Process τ μ} {loop : Loop τ μ}
    (receives : process.action loop.server = .receive) (owes : loop.owed = true) :
    loop.step process =
      some ⟨process.failed loop.server, true, loop.input, loop.ops ++ [.refused]⟩ := by
  have operation : repStep process loop.server loop.owed loop.input.head? =
      some (.refused, process.failed loop.server, true) :=
    repStep_refused_iff.mpr ⟨.inl ⟨receives, owes⟩, rfl, owes.symm⟩
  rw [Loop.step, operation]
  rfl

theorem Loop.after_succ {process : Process τ μ} {loop next : Loop τ μ} {count : Nat}
    (taken : (loop.after process count).step process = some next) :
    loop.after process (count + 1) = next := by
  rw [Loop.after, taken, Option.getD_some]

/-- A process that receives again without replying is refused. -/
theorem Loop.after_of_unanswered {process : Process τ μ} {loop : Loop τ μ} {count : Nat}
    {message : μ} (receives : (loop.after process count).Receives process message)
    (again : process.action (process.received (loop.after process count).server message) =
      .receive) :
    loop.after process (count + 2) =
      ⟨process.failed (process.received (loop.after process count).server message), true,
        (loop.after process count).input.tail,
        (loop.after process count).ops ++ [.received message] ++ [.refused]⟩ := by
  apply Loop.after_succ
  rw [Loop.after_succ (Loop.step_of_receives receives)]
  exact Loop.step_of_refused again rfl

/-- A process that is blocked stays where it is. -/
theorem Loop.after_of_blocked {process : Process τ μ} {loop : Loop τ μ} {count : Nat}
    (blocked : (loop.after process count).step process = none) (more : Nat) :
    loop.after process (count + more) = loop.after process count := by
  induction more with
  | zero => rfl
  | succ more ih => rw [← Nat.add_assoc, Loop.after, ih, blocked, Option.getD_none]

/-- A property that holds initially and is preserved by every operation holds
after any number of operations. -/
theorem Loop.after_invariant {process : Process τ μ} {loop : Loop τ μ}
    (property : Loop τ μ → Prop) (initial : property loop)
    (preserved : ∀ count {next}, property (loop.after process count) →
      (loop.after process count).step process = some next → property next) (count : Nat) :
    property (loop.after process count) := by
  induction count with
  | zero => exact initial
  | succ count ih =>
      cases taken : (loop.after process count).step process with
      | none =>
          rw [Loop.after, taken]
          exact ih
      | some next =>
          rw [Loop.after_succ taken]
          exact preserved count ih taken

/-- Whether a reply is owed after one more operation of an alternation; `none` if
the operation breaks it. -/
def settle : Option Bool → RepOp μ → Option Bool
  | some false, .received _ => some true
  | some true, .sent _ => some false
  | _, _ => none

/-- Whether a reply is owed after a sequence of operations in which requests and
replies alternate; `none` if they do not. -/
def replyOwed (ops : List (RepOp μ)) : Option Bool := ops.foldl settle (some false)

theorem replyOwed_concat (ops : List (RepOp μ)) (op : RepOp μ) :
    replyOwed (ops ++ [op]) = settle (replyOwed ops) op :=
  List.foldl_concat settle (some false) op ops

theorem settle_refused (owed : Option Bool) : settle owed (.refused : RepOp μ) = none := by
  rcases owed with _ | _ | _ <;> rfl

/-- Requests taken among some operations. -/
def requests (ops : List (RepOp μ)) : Nat :=
  ops.countP fun op => match op with
    | .received _ => true
    | _ => false

/-- Replies sent among some operations. -/
def replies (ops : List (RepOp μ)) : Nat :=
  ops.countP fun op => match op with
    | .sent _ => true
    | _ => false

/-- With alternation, every request but an owed one has exactly one reply. -/
theorem requests_eq_replies {ops : List (RepOp μ)} {owed : Bool}
    (alternates : replyOwed ops = some owed) :
    requests ops = replies ops + owed.toNat := by
  induction ops using List.reverseRecOn generalizing owed with
  | nil =>
      cases alternates
      rfl
  | append_singleton front last ih =>
      rw [replyOwed_concat] at alternates
      rw [requests, replies, List.countP_append, List.countP_append]
      rcases before : replyOwed front with _ | _ | _
      · rw [before] at alternates
        cases alternates
      · have counts := ih before
        rw [before] at alternates
        cases last <;> cases alternates
        exact congrArg (· + 1) counts
      · have counts := ih before
        rw [before] at alternates
        cases last <;> cases alternates
        exact counts

end Loop

/-! ## Many request processes -/

/-- State of the connection between a request socket and the reply socket. -/
inductive Link (μ : Type u)
  | free
  | request (message : μ)
  | taken
  | reply (message : μ)
  deriving DecidableEq

/-- Request processes `ι` connected to one reply process.  `last` is the sender of
the last request taken. -/
structure Network (ι : Type v) (σ : Type w) (τ : Type x) (μ : Type u) where
  client : ι → σ
  link : ι → Link μ
  server : τ
  owed : Bool
  last : Option ι

/-- Events of the network. -/
inductive Event (ι : Type v)
  | clientSend (client : ι)
  | clientReceive (client : ι)
  | clientRefused (client : ι)
  | serverReceive (client : ι)
  | serverSend (client : ι)
  | serverRefused
  deriving DecidableEq

section Network

variable {ι : Type v} {σ : Type w} {τ : Type x} {μ : Type u} [DecidableEq ι]

/-- Replace the state and the connection of one client. -/
def Network.setClient (net : Network ι σ τ μ) (client : ι) (state : σ) (link : Link μ) :
    Network ι σ τ μ :=
  { net with
    client := Function.update net.client client state
    link := Function.update net.link client link }

/-- Replace the state of the reply process, its socket and one connection. -/
def Network.setServer (net : Network ι σ τ μ) (client : ι) (state : τ) (owed : Bool)
    (link : Link μ) : Network ι σ τ μ :=
  { net with
    link := Function.update net.link client link
    server := state
    owed := owed
    last := some client }

theorem Network.setClient_self (net : Network ι σ τ μ) (client : ι) (state : σ) (link : Link μ) :
    (net.setClient client state link).client client = state ∧
      (net.setClient client state link).link client = link :=
  ⟨Function.update_self .., Function.update_self ..⟩

theorem Network.setClient_other (net : Network ι σ τ μ) {client other : ι}
    (different : other ≠ client) (state : σ) (link : Link μ) :
    (net.setClient client state link).client other = net.client other ∧
      (net.setClient client state link).link other = net.link other :=
  ⟨Function.update_of_ne different .., Function.update_of_ne different ..⟩

theorem Network.setServer_link_self (net : Network ι σ τ μ) (client : ι) (state : τ)
    (owed : Bool) (link : Link μ) :
    (net.setServer client state owed link).link client = link :=
  Function.update_self ..

theorem Network.setServer_link_other (net : Network ι σ τ μ) {client other : ι}
    (different : other ≠ client) (state : τ) (owed : Bool) (link : Link μ) :
    (net.setServer client state owed link).link other = net.link other :=
  Function.update_of_ne different ..

/-- One step of one party. -/
inductive Step (clients : Process σ μ) (server : Process τ μ) :
    Labelled (Network ι σ τ μ) (Event ι)
  | clientSend {net : Network ι σ τ μ} {client : ι} {message : μ} :
      clients.action (net.client client) = .send message → net.link client = .free →
      Step clients server net (.clientSend client)
        (net.setClient client (clients.sent (net.client client)) (.request message))
  | clientReceive {net : Network ι σ τ μ} {client : ι} {message : μ} :
      clients.action (net.client client) = .receive → net.link client = .reply message →
      Step clients server net (.clientReceive client)
        (net.setClient client (clients.received (net.client client) message) .free)
  | clientRefused {net : Network ι σ τ μ} {client : ι} :
      ((clients.action (net.client client) = .receive ∧ net.link client = .free) ∨
        ∃ message, clients.action (net.client client) = .send message ∧
          net.link client ≠ .free) →
      Step clients server net (.clientRefused client)
        (net.setClient client (clients.failed (net.client client)) (net.link client))
  | serverReceive {net : Network ι σ τ μ} {client : ι} {message : μ} {state : τ} {owed : Bool} :
      net.link client = .request message →
      repStep server net.server net.owed (some message) =
        some (.received message, state, owed) →
      Step clients server net (.serverReceive client) (net.setServer client state owed .taken)
  | serverSend {net : Network ι σ τ μ} {client : ι} {message : μ} {state : τ} {owed : Bool} :
      net.last = some client →
      repStep server net.server net.owed none = some (.sent message, state, owed) →
      Step clients server net (.serverSend client)
        (net.setServer client state owed (.reply message))
  | serverRefused {net : Network ι σ τ μ} {state : τ} {owed : Bool} :
      repStep server net.server net.owed none = some (.refused, state, owed) →
      Step clients server net .serverRefused { net with server := state, owed := owed }

/-- A property of each request process that its own operations preserve is preserved
by every step. -/
theorem Step.forall_client {clients : Process σ μ} {server : Process τ μ}
    {net next : Network ι σ τ μ} {event : Event ι} (property : ι → σ → Prop)
    (sent : ∀ {client message}, clients.action (net.client client) = .send message →
      property client (net.client client) → property client (clients.sent (net.client client)))
    (received : ∀ {client message}, clients.action (net.client client) = .receive →
      net.link client = .reply message → property client (net.client client) →
      property client (clients.received (net.client client) message))
    (failed : ∀ {client}, ((clients.action (net.client client) = .receive ∧
        net.link client = .free) ∨ ∃ message, clients.action (net.client client) = .send message ∧
          net.link client ≠ .free) →
      property client (net.client client) → property client (clients.failed (net.client client)))
    (step : Step clients server net event next)
    (holds : ∀ client, property client (net.client client)) (client : ι) :
    property client (next.client client) := by
  have setClient : ∀ {other state link}, property other state →
      property client ((net.setClient other state link).client client) := by
    intro other state link changed
    by_cases same : client = other
    · subst same
      rw [(net.setClient_self client state link).1]
      exact changed
    · rw [(net.setClient_other same state link).1]
      exact holds client
  cases step with
  | clientSend sends free => exact setClient (sent sends (holds _))
  | clientReceive receives arrived => exact setClient (received receives arrived (holds _))
  | clientRefused outOfTurn => exact setClient (failed outOfTurn (holds _))
  | serverReceive pending operation => exact holds client
  | serverSend last operation => exact holds client
  | serverRefused operation => exact holds client

/-- The network before any operation. -/
def Network.start (clients : ι → σ) (server : τ) : Network ι σ τ μ where
  client := clients
  link _ := .free
  server := server
  owed := false
  last := none

/-! ## Executing events -/

/-- The network after an event, if the event can happen. -/
def Network.next (clients : Process σ μ) (server : Process τ μ) (net : Network ι σ τ μ) :
    Event ι → Option (Network ι σ τ μ)
  | .clientSend client =>
      match clients.action (net.client client), net.link client with
      | .send message, .free =>
          some (net.setClient client (clients.sent (net.client client)) (.request message))
      | _, _ => none
  | .clientReceive client =>
      match clients.action (net.client client), net.link client with
      | .receive, .reply message =>
          some (net.setClient client (clients.received (net.client client) message) .free)
      | _, _ => none
  | .clientRefused client =>
      match clients.action (net.client client), net.link client with
      | .receive, .free =>
          some (net.setClient client (clients.failed (net.client client)) .free)
      | .send _, .free => none
      | .send _, link => some (net.setClient client (clients.failed (net.client client)) link)
      | _, _ => none
  | .serverReceive client =>
      match net.link client with
      | .request message =>
          match repStep server net.server net.owed (some message) with
          | some (.received _, state, owed) => some (net.setServer client state owed .taken)
          | _ => none
      | _ => none
  | .serverSend client =>
      if net.last = some client then
        match repStep server net.server net.owed none with
        | some (.sent message, state, owed) =>
            some (net.setServer client state owed (.reply message))
        | _ => none
      else none
  | .serverRefused =>
      match repStep server net.server net.owed none with
      | some (.refused, state, owed) => some { net with server := state, owed := owed }
      | _ => none

/-- What is computed is a step. -/
theorem Network.step_of_next {clients : Process σ μ} {server : Process τ μ}
    {net next : Network ι σ τ μ} {event : Event ι}
    (computed : net.next clients server event = some next) :
    Step clients server net event next := by
  cases event with
  | clientSend client =>
      simp only [Network.next] at computed
      split at computed
      · rename_i message action link
        cases computed
        exact .clientSend action link
      · cases computed
  | clientReceive client =>
      simp only [Network.next] at computed
      split at computed
      · rename_i message action link
        cases computed
        exact .clientReceive action link
      · cases computed
  | clientRefused client =>
      simp only [Network.next] at computed
      split at computed
      · rename_i action link
        cases computed
        rw [← link]
        exact .clientRefused (.inl ⟨action, link⟩)
      · cases computed
      · rename_i message action notFree
        cases computed
        exact .clientRefused (.inr ⟨message, action, notFree⟩)
      · cases computed
  | serverReceive client =>
      simp only [Network.next] at computed
      split at computed
      · rename_i message link
        split at computed
        · rename_i taken state owed operation
          cases computed
          obtain ⟨_, _, same, _, _⟩ := repStep_received_iff.mp operation
          cases same
          exact .serverReceive link operation
        · cases computed
      · cases computed
  | serverSend client =>
      simp only [Network.next] at computed
      split at computed
      · rename_i last
        split at computed
        · rename_i message state owed operation
          cases computed
          exact .serverSend last operation
        · cases computed
      · cases computed
  | serverRefused =>
      simp only [Network.next] at computed
      split at computed
      · rename_i state owed operation
        cases computed
        exact .serverRefused operation
      · cases computed

/-- The network after a sequence of events, if they can happen in that order. -/
def Network.exec (clients : Process σ μ) (server : Process τ μ) (net : Network ι σ τ μ) :
    List (Event ι) → Option (Network ι σ τ μ)
  | [] => some net
  | event :: rest =>
      match net.next clients server event with
      | some next => next.exec clients server rest
      | none => none

/-- Whether every event of a sequence is allowed where it happens. -/
def Network.allows (clients : Process σ μ) (server : Process τ μ)
    (allowed : Network ι σ τ μ → Event ι → Bool) (net : Network ι σ τ μ) :
    List (Event ι) → Bool
  | [] => true
  | event :: rest =>
      allowed net event &&
        match net.next clients server event with
        | some next => next.allows clients server allowed rest
        | none => true

/-- What is computed from allowed events is a run of allowed steps. -/
theorem Network.run_of_exec {clients : Process σ μ} {server : Process τ μ}
    {allowed : Network ι σ τ μ → Event ι → Bool} {net target : Network ι σ τ μ}
    {events : List (Event ι)} (computed : net.exec clients server events = some target)
    (permitted : net.allows clients server allowed events = true) :
    Run (Step clients server) (fun state event => allowed state event = true) net events
      target := by
  induction events generalizing net with
  | nil =>
      cases computed
      exact Run.refl
  | cons event rest ih =>
      rw [Network.exec] at computed
      rw [Network.allows, Bool.and_eq_true] at permitted
      split at computed
      · rename_i next taken
        rw [taken] at permitted
        have first : Run (Step clients server) (fun state event => allowed state event = true)
            net ([] ++ [event]) next :=
          Run.tail Run.refl permitted.1 (Network.step_of_next taken)
        exact first.trans (ih computed permitted.2)
      · cases computed

/-- Any sequence of events that can be computed is a run. -/
theorem Network.run_of_exec_any {clients : Process σ μ} {server : Process τ μ}
    {net target : Network ι σ τ μ} {events : List (Event ι)}
    (computed : net.exec clients server events = some target) :
    Run (Step clients server) (fun _ _ => True) net events target := by
  have permitted : ∀ (state : Network ι σ τ μ) (list : List (Event ι)),
      state.allows clients server (fun _ _ => true) list = true := by
    intro state list
    induction list generalizing state with
    | nil => rfl
    | cons event rest ih =>
        rw [Network.allows, Bool.true_and]
        split
        · exact ih _
        · rfl
  exact (Network.run_of_exec computed (permitted net events)).mono fun _ => trivial

theorem Network.reachable_of_exec {clients : Process σ μ} {server : Process τ μ}
    {net target : Network ι σ τ μ} {events : List (Event ι)}
    (computed : net.exec clients server events = some target) :
    Reachable (Step clients server) net target :=
  ⟨events, Network.run_of_exec_any computed⟩

end Network

end DescargaP2P.ReqRep
