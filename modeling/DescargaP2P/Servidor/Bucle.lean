import DescargaP2P.Almacen.Persistencia
import DescargaP2P.Servidor.Core

/-!
# The server loop on arbitrary requests

The loop survives a request exactly when it is admissible where it arrives: an
option among 0, 1 and 2, a registration whose third field is a number, a name
that does not hold an empty list.  Any other request ends the process, at once
or, after an unknown option, at the next receive, because no reply was sent.
-/

namespace DescargaP2P.Servidor

open DescargaP2P.Almacen
open DescargaP2P.Collections
open DescargaP2P.Cpp
open DescargaP2P.ReqRep
open DescargaP2P.Text

/-! ## Admissible requests -/

/-- A registration that the splitter can read: three fields closed by separators,
the third one a number for `std::stoi`. -/
def SolicitudLegible (request : Bytes) : Prop :=
  ∃ fichero ip puerto resto numero,
    (split delimiter request).1 = fichero :: ip :: puerto :: resto ∧ stoi puerto = .ok numero

/-- A request the loop survives where it arrives. -/
def Admisible (servidor : Estado) (request : Bytes) : Prop :=
  match servidor.punto with
  | .esperaOpcion => stoi request = .ok 0 ∨ stoi request = .ok 1 ∨ stoi request = .ok 2
  | .esperaRegistro => SolicitudLegible request
  | .esperaNombre => servidor.tabla.find? request ≠ some []
  | _ => True

theorem registro_isSome_iff (request : Bytes) :
    (∃ entrada, registro request = some entrada) ↔ SolicitudLegible request := by
  unfold registro separarString SolicitudLegible
  constructor
  · rintro ⟨entrada, accepted⟩
    rcases fields : (split delimiter request).1 with _ | ⟨fichero, _ | ⟨ip, _ | ⟨puerto, resto⟩⟩⟩
    all_goals rw [fields] at accepted
    · cases accepted
    · cases accepted
    · cases accepted
    · cases read : stoi puerto with
      | error cause => simp [read] at accepted
      | ok numero => exact ⟨fichero, ip, puerto, resto, numero, rfl, read⟩
  · rintro ⟨fichero, ip, puerto, resto, numero, fields, read⟩
    rw [fields]
    simp only [read]
    exact ⟨_, rfl⟩

/-- After an admissible request the loop is about to reply. -/
theorem accion_recibida {servidor : Estado} {request : Bytes}
    (waiting : accion servidor = .receive) (admissible : Admisible servidor request) :
    ∃ reply, accion (recibida servidor request) = .send reply := by
  unfold Admisible at admissible
  cases point : servidor.punto with
  | esperaOpcion =>
      rw [point] at admissible
      rcases admissible with read | read | read
      · exact ⟨listado servidor.tabla, by simp [accion, recibida, point, read, trasOpcion]⟩
      · exact ⟨ack, by simp [accion, recibida, point, read, trasOpcion]⟩
      · exact ⟨ack, by simp [accion, recibida, point, read, trasOpcion]⟩
  | esperaRegistro =>
      rw [point] at admissible
      obtain ⟨entrada, accepted⟩ := (registro_isSome_iff request).mpr admissible
      exact ⟨ack, by simp [accion, recibida, point, agregarCliente_of_registro _ accepted]⟩
  | esperaNombre =>
      rw [point] at admissible
      unfold recibida obtenerCliente
      rw [point]
      rcases found : servidor.tabla.find? request with _ | _ | ⟨direccion, otras⟩
      · exact ⟨ascii "EMPTY", rfl⟩
      · exact absurd found admissible
      · exact ⟨direccionTexto direccion, rfl⟩
  | enviaListado texto => simp [accion, point] at waiting
  | enviaAckRegistro => simp [accion, point] at waiting
  | enviaAckFinal => simp [accion, point] at waiting
  | enviaAckConsulta => simp [accion, point] at waiting
  | enviaDireccion texto => simp [accion, point] at waiting
  | terminado causa => simp [accion, point] at waiting

/-- Any other request ends the process, or leaves it at the head of the loop
without a reply. -/
theorem recibida_of_not_admisible {servidor : Estado} {request : Bytes}
    (inadmissible : ¬ Admisible servidor request) :
    ¬ Vivo (recibida servidor request) ∨ accion (recibida servidor request) = .receive := by
  unfold Admisible at inadmissible
  unfold recibida Vivo
  cases point : servidor.punto with
  | esperaOpcion =>
      simp only [point, not_or] at inadmissible
      cases read : stoi request with
      | error causa => exact .inl fun alive => alive _ rfl
      | ok opcion =>
          right
          rcases trasOpcion_cases servidor.tabla opcion with
            ⟨rfl, _⟩ | ⟨rfl, _⟩ | ⟨rfl, _⟩ | ⟨_, next⟩
          · exact absurd read inadmissible.1
          · exact absurd read inadmissible.2.1
          · exact absurd read inadmissible.2.2
          · simp only [accion, next]
  | esperaRegistro =>
      rw [point] at inadmissible
      left
      cases outcome : agregarCliente servidor.tabla request with
      | none => exact fun alive => alive _ rfl
      | some result =>
          rcases result with ⟨stored, tabla⟩
          cases stored with
          | false => exact fun alive => alive _ rfl
          | true =>
              obtain ⟨entrada, accepted, _⟩ := (agregarCliente_eq_true_iff _ _ _).mp outcome
              exact absurd ((registro_isSome_iff request).mp ⟨entrada, accepted⟩) inadmissible
  | esperaNombre =>
      simp only [point, ne_eq, not_not] at inadmissible
      left
      simp only [obtenerCliente, inadmissible]
      exact fun alive => alive _ rfl
  | _ => simp [point] at inadmissible

/-! ## Runs of the loop -/

/-- The loop of `main` on a table and a sequence of requests, after a number of
socket operations. -/
abbrev ejecucion (tabla : Tabla) (mensajes : List Bytes) (count : Nat) : Loop Estado Bytes :=
  (Loop.start (inicial tabla) mensajes).after proceso count

/-- The process is alive and its socket is in step with it. -/
structure EnTurno (loop : Loop Estado Bytes) : Prop where
  espera : loop.owed = false → accion loop.server = .receive
  debe : loop.owed = true → ∃ reply, accion loop.server = .send reply

theorem enTurno_start (tabla : Tabla) (mensajes : List Bytes) :
    EnTurno (Loop.start (inicial tabla) mensajes) := by
  constructor
  · intro _
    rfl
  · intro owes
    cases owes

theorem EnTurno.vivo {loop : Loop Estado Bytes} (turn : EnTurno loop) : Vivo loop.server := by
  apply vivo_of_accion
  cases owes : loop.owed with
  | false =>
      rw [turn.espera owes]
      nofun
  | true =>
      obtain ⟨reply, sends⟩ := turn.debe owes
      rw [sends]
      nofun

/-- An admissible request keeps the loop in step, and so does a reply. -/
theorem EnTurno.step {loop next : Loop Estado Bytes} (turn : EnTurno loop)
    (admissible : ∀ message, loop.Receives proceso message → Admisible loop.server message)
    (taken : loop.step proceso = some next) : EnTurno next := by
  rcases Loop.step_cases taken with ⟨message, receives, rfl⟩ | ⟨message, _, _, rfl⟩ |
    ⟨outOfTurn, _⟩
  · constructor
    · nofun
    · exact fun _ => accion_recibida receives.1 (admissible message receives)
  · constructor
    · exact fun _ => accion_enviada loop.server
    · nofun
  · rcases outOfTurn with ⟨receives, owes⟩ | ⟨message, sends, free⟩
    · obtain ⟨reply, sends⟩ := turn.debe owes
      cases receives.symm.trans sends
    · cases sends.symm.trans (turn.espera free)

/-- An inadmissible request ends the process at once or at the next operation. -/
theorem muere_of_not_admisible {tabla : Tabla} {mensajes : List Bytes} {message : Bytes}
    {count : Nat} (receives : (ejecucion tabla mensajes count).Receives proceso message)
    (inadmissible : ¬ Admisible (ejecucion tabla mensajes count).server message) :
    ¬ Vivo (ejecucion tabla mensajes (count + 1)).server ∨
      ¬ Vivo (ejecucion tabla mensajes (count + 2)).server := by
  rcases recibida_of_not_admisible inadmissible with dead | again
  · left
    rw [ejecucion, Loop.after_succ (Loop.step_of_receives receives)]
    exact dead
  · right
    rw [ejecucion, Loop.after_of_unanswered receives again]
    exact fun alive => alive _ rfl

/-- An operation keeps every address where it is in the list of its file. -/
theorem elements_step {loop next : Loop Estado Bytes} (taken : loop.step proceso = some next)
    (fichero : Bytes) :
    loop.server.tabla.elements fichero <+: next.server.tabla.elements fichero := by
  rcases Loop.step_cases taken with ⟨message, _, rfl⟩ | ⟨message, _, _, rfl⟩ | ⟨_, rfl⟩
  · rcases recibida_tabla loop.server message with same | ⟨entrada, _, _, grown⟩
    · change _ <+: (recibida loop.server message).tabla.elements fichero
      rw [same]
    · change _ <+: (recibida loop.server message).tabla.elements fichero
      rw [grown, OrderedMap.elements_append]
      split
      · rename_i same
        exact same ▸ List.prefix_append _ _
      · exact List.prefix_rfl
  · change _ <+: (enviada loop.server).tabla.elements fichero
    rw [enviada_tabla]
  · exact List.prefix_rfl

/-! ## Robustness -/

/-- On any table and any sequence of requests, the process never ends and keeps
every address exactly when each request is admissible where it arrives. -/
theorem bucle_robusto_iff (tabla : Tabla) (mensajes : List Bytes) :
    (∀ count, Vivo (ejecucion tabla mensajes count).server ∧
        ∀ fichero, tabla.elements fichero <+:
          (ejecucion tabla mensajes count).server.tabla.elements fichero) ↔
      ∀ count message, (ejecucion tabla mensajes count).Receives proceso message →
        Admisible (ejecucion tabla mensajes count).server message := by
  constructor
  · intro robust count message receives
    by_contra inadmissible
    rcases muere_of_not_admisible receives inadmissible with dead | dead
    · exact dead (robust _).1
    · exact dead (robust _).1
  · intro admissible count
    have turn : EnTurno (ejecucion tabla mensajes count) :=
      Loop.after_invariant EnTurno (enTurno_start tabla mensajes)
        (fun before _ turn taken => turn.step (admissible before) taken) count
    constructor
    · exact turn.vivo
    · intro fichero
      have held : tabla.elements fichero <+:
          (Loop.start (inicial tabla) mensajes).server.tabla.elements fichero := List.prefix_rfl
      exact Loop.after_invariant
        (fun loop => tabla.elements fichero <+: loop.server.tabla.elements fichero)
        held (fun _ _ kept taken => kept.trans (elements_step taken fichero)) count

/-- An option that is not a number ends the process. -/
theorem opcion_no_numerica_mata :
    ¬ ∀ count, Vivo (ejecucion OrderedMap.empty [ascii "hola"] count).server := by
  intro alive
  exact alive 1 (.uncaught .invalidArgument) (by decide +kernel)

/-! ## Alternation -/

/-- What is promised of a request: options are numbers and registrations can be
read. -/
def Conforme (servidor : Estado) (request : Bytes) : Prop :=
  match servidor.punto with
  | .esperaOpcion => ∃ opcion, stoi request = .ok opcion
  | .esperaRegistro => SolicitudLegible request
  | _ => True

/-- If the request is read as an option, then as one of the menu. -/
def OpcionConocida (servidor : Estado) (request : Bytes) : Prop :=
  ∀ opcion, servidor.punto = .esperaOpcion → stoi request = .ok opcion →
    opcion = 0 ∨ opcion = 1 ∨ opcion = 2

/-- Requests and replies alternate without refusals, and a loop with nothing left
to do has sent one reply for each request. -/
structure Alterna (loop : Loop Estado Bytes) : Prop where
  turnos : ∃ owed, replyOwed loop.ops = some owed
  contestadas : loop.step proceso = none → requests loop.ops = replies loop.ops

/-- A loop in step has recorded an alternation. -/
theorem alterna_of_enTurno {loop : Loop Estado Bytes} (turn : EnTurno loop)
    (recorded : replyOwed loop.ops = some loop.owed) : Alterna loop := by
  constructor
  · exact ⟨_, recorded⟩
  · intro blocked
    cases owes : loop.owed with
    | false =>
        rw [requests_eq_replies recorded, owes]
        rfl
    | true =>
        obtain ⟨reply, sends⟩ := turn.debe owes
        have operation : repStep proceso loop.server loop.owed loop.input.head? =
            some (.sent reply, enviada loop.server, false) :=
          repStep_sent_iff.mpr ⟨sends, owes, rfl, rfl⟩
        rw [Loop.step, operation] at blocked
        contradiction

/-- The record follows the socket as long as nothing is refused. -/
theorem replyOwed_step {loop next : Loop Estado Bytes} (turn : EnTurno loop)
    (recorded : replyOwed loop.ops = some loop.owed) (taken : loop.step proceso = some next) :
    replyOwed next.ops = some next.owed := by
  rcases Loop.step_cases taken with ⟨message, receives, rfl⟩ | ⟨message, _, owes, rfl⟩ |
    ⟨outOfTurn, _⟩
  · rw [replyOwed_concat, recorded, receives.2.1]
    rfl
  · rw [replyOwed_concat, recorded, owes]
    rfl
  · rcases outOfTurn with ⟨receives, owes⟩ | ⟨message, sends, free⟩
    · obtain ⟨reply, sends⟩ := turn.debe owes
      cases receives.symm.trans sends
    · cases sends.symm.trans (turn.espera free)

theorem nonemptyLists_step {loop next : Loop Estado Bytes}
    (nonempty : loop.server.tabla.NonemptyLists) (taken : loop.step proceso = some next) :
    next.server.tabla.NonemptyLists := by
  rcases Loop.step_cases taken with ⟨message, _, rfl⟩ | ⟨message, _, _, rfl⟩ | ⟨_, rfl⟩
  · exact nonemptyLists_recibida nonempty message
  · change (enviada loop.server).tabla.NonemptyLists
    rw [enviada_tabla]
    exact nonempty
  · exact nonempty

/-- The table the loop starts with. -/
def arranque (archivo : Option Bytes) : Tabla := (recuperarDatos OrderedMap.empty archivo).2

/-- A promised request is admissible if its option, when it is one, is known. -/
theorem admisible_of_conforme {servidor : Estado} {request : Bytes}
    (nonempty : servidor.tabla.NonemptyLists) (promised : Conforme servidor request)
    (known : OpcionConocida servidor request) : Admisible servidor request := by
  unfold Conforme at promised
  unfold Admisible
  cases point : servidor.punto with
  | esperaOpcion =>
      rw [point] at promised
      obtain ⟨opcion, read⟩ := promised
      rcases known opcion point read with rfl | rfl | rfl
      · exact .inl read
      · exact .inr (.inl read)
      · exact .inr (.inr read)
  | esperaRegistro =>
      rw [point] at promised
      exact promised
  | esperaNombre => exact nonempty request
  | _ => trivial

/-- On any backup and any promised sequence of requests, requests and replies
alternate exactly when every option received is 0, 1 or 2. -/
theorem bucle_alterna_iff (archivo : Option Bytes) (mensajes : List Bytes)
    (promised : ∀ count message,
      (ejecucion (arranque archivo) mensajes count).Receives proceso message →
      Conforme (ejecucion (arranque archivo) mensajes count).server message) :
    (∀ count, Alterna (ejecucion (arranque archivo) mensajes count)) ↔
      ∀ count message, (ejecucion (arranque archivo) mensajes count).Receives proceso message →
        OpcionConocida (ejecucion (arranque archivo) mensajes count).server message := by
  have loaded : (arranque archivo).NonemptyLists :=
    nonemptyLists_recuperarDatos OrderedMap.nonemptyLists_empty archivo
  generalize arranque archivo = tabla at promised loaded ⊢
  constructor
  · intro alternates count message receives opcion atHead read
    by_contra unknown
    have again : accion (recibida (ejecucion tabla mensajes count).server message) = .receive := by
      rcases trasOpcion_cases (ejecucion tabla mensajes count).server.tabla opcion with
        ⟨zero, _⟩ | ⟨one, _⟩ | ⟨two, _⟩ | ⟨_, head⟩
      · exact absurd (.inl zero) unknown
      · exact absurd (.inr (.inl one)) unknown
      · exact absurd (.inr (.inr two)) unknown
      · simp only [accion, recibida, atHead, read, head]
    obtain ⟨owed, recorded⟩ := (alternates (count + 2)).turnos
    rw [ejecucion, Loop.after_of_unanswered receives again, replyOwed_concat, settle_refused]
      at recorded
    contradiction
  · intro known count
    have start : EnTurno (Loop.start (inicial tabla) mensajes) ∧
        replyOwed (Loop.start (inicial tabla) mensajes).ops =
          some (Loop.start (inicial tabla) mensajes).owed ∧
        (Loop.start (inicial tabla) mensajes).server.tabla.NonemptyLists :=
      ⟨enTurno_start tabla mensajes, rfl, loaded⟩
    have inStep := Loop.after_invariant
      (fun loop => EnTurno loop ∧ replyOwed loop.ops = some loop.owed ∧
        loop.server.tabla.NonemptyLists) start
      (by
        rintro before next ⟨turn, recorded, nonempty⟩ taken
        have admissible := fun message receives =>
          admisible_of_conforme nonempty (promised before message receives)
            (known before message receives)
        exact ⟨turn.step admissible taken, replyOwed_step turn recorded taken,
          nonemptyLists_step nonempty taken⟩) count
    exact alterna_of_enTurno inStep.1 inStep.2.1

instance (request : Bytes) : Decidable (SolicitudLegible request) :=
  decidable_of_iff ((registro request).isSome = true)
    (Option.isSome_iff_exists.trans (registro_isSome_iff request))

instance (request : Bytes) : Decidable (∃ opcion, stoi request = .ok opcion) :=
  match stoi request with
  | .ok opcion => isTrue ⟨opcion, rfl⟩
  | .error _ => isFalse nofun

instance (servidor : Estado) (request : Bytes) : Decidable (Conforme servidor request) :=
  match servidor with
  | ⟨.esperaOpcion, _⟩ => inferInstanceAs (Decidable (∃ opcion, stoi request = .ok opcion))
  | ⟨.esperaRegistro, _⟩ => inferInstanceAs (Decidable (SolicitudLegible request))
  | ⟨.enviaListado _, _⟩ | ⟨.enviaAckRegistro, _⟩ | ⟨.enviaAckFinal, _⟩
  | ⟨.enviaAckConsulta, _⟩ | ⟨.esperaNombre, _⟩ | ⟨.enviaDireccion _, _⟩ | ⟨.terminado _, _⟩ =>
      isTrue trivial

instance (servidor : Estado) (request : Bytes) : Decidable (OpcionConocida servidor request) :=
  match read : stoi request with
  | .ok opcion =>
      decidable_of_iff (servidor.punto = .esperaOpcion → opcion = 0 ∨ opcion = 1 ∨ opcion = 2)
        ⟨fun known _ atHead readAs => Except.ok.inj (read.symm.trans readAs) ▸ known atHead,
          fun known atHead => known opcion atHead read⟩
  | .error _ => isTrue fun _ _ readAs => nomatch read.symm.trans readAs

/-- On a run that blocks, only its first operations need to be looked at. -/
theorem forall_receives_of_blocked {tabla : Tabla} {mensajes : List Bytes}
    {property : Estado → Bytes → Prop} {length : Nat}
    (blocked : (ejecucion tabla mensajes length).step proceso = none)
    (checked : ∀ count ≤ length, ∀ message ∈ (ejecucion tabla mensajes count).input.head?,
      property (ejecucion tabla mensajes count).server message) (count : Nat) (message : Bytes)
    (receives : (ejecucion tabla mensajes count).Receives proceso message) :
    property (ejecucion tabla mensajes count).server message := by
  rcases Nat.le_total count length with before | after
  · exact checked count before message receives.2.2
  · obtain ⟨more, rfl⟩ := Nat.exists_eq_add_of_le after
    have same : ejecucion tabla mensajes (length + more) = ejecucion tabla mensajes length :=
      Loop.after_of_blocked blocked more
    rw [same] at receives ⊢
    exact checked length (Nat.le_refl _) message receives.2.2

/-- An upload and a listing, once the loop has nothing left to receive. -/
theorem bucle_alterna_en_una_subida :
    Alterna (ejecucion (arranque none)
      [ascii "1", ascii "a</>1.2.3.4</>80</>", ascii "0"] 6) := by
  have blocked : (ejecucion (arranque none)
      [ascii "1", ascii "a</>1.2.3.4</>80</>", ascii "0"] 6).step proceso = none := by
    decide +kernel
  apply (bucle_alterna_iff none _ (forall_receives_of_blocked blocked (by decide +kernel))).mpr
  exact forall_receives_of_blocked blocked (by decide +kernel)

/-- After option 7 no reply is sent and the next receive is refused. -/
theorem opcion_desconocida_sin_respuesta :
    (∀ count message, (ejecucion (arranque none) [ascii "7"] count).Receives proceso message →
      Conforme (ejecucion (arranque none) [ascii "7"] count).server message) ∧
    ¬ ∀ count, Alterna (ejecucion (arranque none) [ascii "7"] count) := by
  constructor
  · have blocked : (ejecucion (arranque none) [ascii "7"] 2).step proceso = none := by
      decide +kernel
    exact forall_receives_of_blocked blocked (by decide +kernel)
  · intro alternates
    obtain ⟨owed, recorded⟩ := (alternates 2).turnos
    have broken : replyOwed (ejecucion (arranque none) [ascii "7"] 2).ops = none := by
      decide +kernel
    rw [broken] at recorded
    contradiction

end DescargaP2P.Servidor
