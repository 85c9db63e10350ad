import DescargaP2P.Cliente.Core
import DescargaP2P.Servidor.Core

/-!
# Clients and server

Any number of client menus are connected to one server.  A state is coherent if
at most one client is in the middle of an exchange, the server is at the point of
that exchange, and every other client is outside: at its menu, waiting for its
option to be taken, or waiting for the last reply of an exchange already
processed.
-/

namespace DescargaP2P.Sistema

open DescargaP2P.Almacen
open DescargaP2P.Cliente (Operacion)
open DescargaP2P.Cpp
open DescargaP2P.ReqRep
open DescargaP2P.Text
open DescargaP2P.Transition

universe u

variable {ι : Type u}

/-- Clients and server with the messages in flight. -/
abbrev Red (ι : Type u) := Network ι Cliente.Estado Servidor.Estado Bytes

/-- Steps of clients and server. -/
abbrev Paso [DecidableEq ι] : Labelled (Red ι) (Event ι) := Step Cliente.proceso Servidor.proceso

/-- The system before any operation: a script for each client and a table. -/
def inicio (guiones : ι → List Operacion) (tabla : Tabla) : Red ι :=
  Network.start (fun cliente => Cliente.inicial (guiones cliente)) (Servidor.inicial tabla)

/-! ## Points of an exchange -/

/-- A client outside the exchange the server is in, with its connection. -/
inductive Ajena : Cliente.Punto → Link Bytes → Prop
  | menu : Ajena .menu .free
  | terminado (causa : Termination) : Ajena (.terminado causa) .free
  | pideListado : Ajena .recibeListado (.request (decimal 0))
  | pideSubida (nombre ip puerto : Bytes) :
      Ajena (.recibeAckSubida nombre ip puerto) (.request (decimal 1))
  | pideConsulta (nombre : Bytes) : Ajena (.recibeAckConsulta nombre) (.request (decimal 2))
  | listado (texto : Bytes) : Ajena .recibeListado (.reply texto)
  | subida (nombre ip puerto : Bytes) :
      Ajena (.recibeAckFinal nombre ip puerto) (.reply Servidor.ack)
  | consulta (nombre texto : Bytes) : Ajena (.recibeDireccion nombre) (.reply texto)

/-- The server is in an exchange with a client. -/
inductive Atiende : Servidor.Punto → Cliente.Punto → Link Bytes → Prop
  | listado (texto : Bytes) : Atiende (.enviaListado texto) .recibeListado .taken
  | ackSubida (nombre ip puerto : Bytes) :
      Atiende .enviaAckRegistro (.recibeAckSubida nombre ip puerto) .taken
  | subidaAceptada (nombre ip puerto : Bytes) :
      Atiende .esperaRegistro (.recibeAckSubida nombre ip puerto) (.reply Servidor.ack)
  | subidaPreparada (nombre ip puerto : Bytes) :
      Atiende .esperaRegistro (.enviaSolicitud nombre ip puerto) .free
  | subidaPedida (nombre ip puerto : Bytes) :
      Atiende .esperaRegistro (.recibeAckFinal nombre ip puerto)
        (.request (Cliente.solicitud nombre ip puerto))
  | ackFinal (nombre ip puerto : Bytes) :
      Atiende .enviaAckFinal (.recibeAckFinal nombre ip puerto) .taken
  | subidaMuerta (nombre ip puerto : Bytes) (causa : Termination) :
      Atiende (.terminado causa) (.recibeAckFinal nombre ip puerto) .taken
  | ackConsulta (nombre : Bytes) :
      Atiende .enviaAckConsulta (.recibeAckConsulta nombre) .taken
  | consultaAceptada (nombre : Bytes) :
      Atiende .esperaNombre (.recibeAckConsulta nombre) (.reply Servidor.ack)
  | consultaPreparada (nombre : Bytes) : Atiende .esperaNombre (.enviaNombre nombre) .free
  | consultaPedida (nombre : Bytes) :
      Atiende .esperaNombre (.recibeDireccion nombre) (.request nombre)
  | direccion (nombre texto : Bytes) :
      Atiende (.enviaDireccion texto) (.recibeDireccion nombre) .taken
  | consultaMuerta (nombre : Bytes) (causa : Termination) :
      Atiende (.terminado causa) (.recibeDireccion nombre) .taken

/-- The server owes a reply at its sends, and after a request it died of. -/
def debe : Servidor.Punto → Bool
  | .esperaOpcion | .esperaRegistro | .esperaNombre => false
  | _ => true

/-- At most one client is in an exchange, and the server is in it with that client. -/
structure Coherente (red : Red ι) : Prop where
  turno : red.owed = debe red.server.punto
  sesion :
    (red.server.punto = .esperaOpcion ∧
        ∀ cliente, Ajena (red.client cliente).punto (red.link cliente)) ∨
      ∃ atendido, red.last = some atendido ∧
        Atiende red.server.punto (red.client atendido).punto (red.link atendido) ∧
        ∀ cliente, cliente ≠ atendido → Ajena (red.client cliente).punto (red.link cliente)

theorem coherente_inicio (guiones : ι → List Operacion) (tabla : Tabla) :
    Coherente (inicio guiones tabla) :=
  ⟨rfl, .inl ⟨rfl, fun _ => .menu⟩⟩

/-! ## Steps of a client -/

theorem Ajena.enviada {cliente : Cliente.Estado} {mensaje : Bytes}
    (ajena : Ajena cliente.punto .free) (sends : Cliente.accion cliente = .send mensaje) :
    Ajena (Cliente.enviada cliente).punto (.request mensaje) := by
  rcases cliente with ⟨punto, guion, respuestas, servidoras, descargas⟩
  cases ajena with
  | menu =>
      rcases guion with _ | ⟨operacion, resto⟩
      · cases sends
      · cases operacion <;> cases sends
        · exact .pideListado
        · exact .pideSubida ..
        · exact .pideConsulta ..
  | terminado causa => cases sends

theorem Ajena.recibida {cliente : Cliente.Estado} {mensaje : Bytes}
    (ajena : Ajena cliente.punto (.reply mensaje)) :
    Ajena (Cliente.recibida cliente mensaje).punto .free := by
  rcases cliente with ⟨punto, guion, respuestas, servidoras, descargas⟩
  cases ajena with
  | listado texto => exact .menu
  | subida nombre ip puerto =>
      have acknowledged : Servidor.ack = Cliente.ack := rfl
      simp only [Cliente.recibida, acknowledged, if_true, Cliente.lanzaServidora]
      cases stoi puerto with
      | error causa => exact .terminado _
      | ok numero => exact .menu
  | consulta nombre texto =>
      simp only [Cliente.recibida, Cliente.lanzaDescarga]
      split
      · exact .menu
      · exact .menu

theorem Atiende.enviada {servidor : Servidor.Punto} {cliente : Cliente.Estado} {mensaje : Bytes}
    (atiende : Atiende servidor cliente.punto .free)
    (sends : Cliente.accion cliente = .send mensaje) :
    Atiende servidor (Cliente.enviada cliente).punto (.request mensaje) := by
  rcases cliente with ⟨punto, guion, respuestas, servidoras, descargas⟩
  cases atiende with
  | subidaPreparada nombre ip puerto =>
      cases sends
      exact .subidaPedida ..
  | consultaPreparada nombre =>
      cases sends
      exact .consultaPedida ..

theorem Atiende.recibida {servidor : Servidor.Punto} {cliente : Cliente.Estado} {mensaje : Bytes}
    (atiende : Atiende servidor cliente.punto (.reply mensaje)) :
    Atiende servidor (Cliente.recibida cliente mensaje).punto .free := by
  rcases cliente with ⟨punto, guion, respuestas, servidoras, descargas⟩
  cases atiende with
  | subidaAceptada nombre ip puerto => exact .subidaPreparada ..
  | consultaAceptada nombre => exact .consultaPreparada ..

/-- Outside or inside an exchange, a client never uses its socket out of turn. -/
theorem cliente_not_refused {cliente : Cliente.Estado} {link : Link Bytes}
    {servidor : Servidor.Punto}
    (placed : Ajena cliente.punto link ∨ Atiende servidor cliente.punto link) :
    ¬ ((Cliente.accion cliente = .receive ∧ link = .free) ∨
      ∃ mensaje, Cliente.accion cliente = .send mensaje ∧ link ≠ .free) := by
  rcases cliente with ⟨punto, guion, respuestas, servidoras, descargas⟩
  rcases placed with ajena | atiende
  · cases ajena
    all_goals simp [Cliente.accion]
    cases guion <;> simp
  · cases atiende <;> simp [Cliente.accion]

/-! ## Steps of the server -/

theorem debe_of_receive {servidor : Servidor.Estado}
    (receives : Servidor.accion servidor = .receive) : debe servidor.punto = false := by
  rcases servidor with ⟨punto, tabla⟩
  cases punto <;> first | rfl | cases receives

theorem debe_of_send {servidor : Servidor.Estado} {mensaje : Bytes}
    (sends : Servidor.accion servidor = .send mensaje) : debe servidor.punto = true := by
  rcases servidor with ⟨punto, tabla⟩
  cases punto <;> first | rfl | cases sends

theorem debe_enviada (servidor : Servidor.Estado) :
    debe (Servidor.enviada servidor).punto = false := by
  rcases servidor with ⟨punto, tabla⟩
  cases punto <;> rfl

theorem Atiende.debe_taken {servidor : Servidor.Punto} {cliente : Cliente.Punto}
    (atiende : Atiende servidor cliente .taken) : debe servidor = true := by
  cases atiende <;> rfl

theorem stoi_opcion (operacion : Operacion) :
    stoi (decimal operacion.opcion) = .ok (operacion.opcion : Int) := by
  apply stoi_decimal
  cases operacion <;> simp [Operacion.opcion]

/-- An option opens the exchange of its client. -/
theorem Ajena.abre {servidor : Servidor.Estado} {cliente : Cliente.Punto} {mensaje : Bytes}
    (head : servidor.punto = .esperaOpcion) (ajena : Ajena cliente (.request mensaje)) :
    Atiende (Servidor.recibida servidor mensaje).punto cliente .taken := by
  cases ajena with
  | pideListado =>
      have read := stoi_opcion .listar
      simp only [Servidor.recibida, head, Operacion.opcion] at read ⊢
      rw [read]
      exact .listado _
  | pideSubida nombre ip puerto =>
      have read := stoi_opcion (.subir nombre ip puerto)
      simp only [Servidor.recibida, head, Operacion.opcion] at read ⊢
      rw [read]
      exact .ackSubida ..
  | pideConsulta nombre =>
      have read := stoi_opcion (.descargar nombre)
      simp only [Servidor.recibida, head, Operacion.opcion] at read ⊢
      rw [read]
      exact .ackConsulta ..

/-- The second request of an exchange keeps the server in it. -/
theorem Atiende.sigue {servidor : Servidor.Estado} {cliente : Cliente.Punto} {mensaje : Bytes}
    (atiende : Atiende servidor.punto cliente (.request mensaje)) :
    Atiende (Servidor.recibida servidor mensaje).punto cliente .taken := by
  rcases servidor with ⟨punto, tabla⟩
  cases atiende with
  | subidaPedida nombre ip puerto =>
      simp only [Servidor.recibida]
      split
      · exact .subidaMuerta ..
      · exact .subidaMuerta ..
      · exact .ackFinal ..
  | consultaPedida nombre =>
      simp only [Servidor.recibida]
      split
      · exact .consultaMuerta ..
      · exact .direccion ..

/-- A reply keeps the server in the exchange or ends it. -/
theorem Atiende.contesta {servidor : Servidor.Estado} {cliente : Cliente.Punto}
    {link : Link Bytes} {mensaje : Bytes} (atiende : Atiende servidor.punto cliente link)
    (sends : Servidor.accion servidor = .send mensaje) :
    ((Servidor.enviada servidor).punto = .esperaOpcion ∧ Ajena cliente (.reply mensaje)) ∨
      Atiende (Servidor.enviada servidor).punto cliente (.reply mensaje) := by
  rcases servidor with ⟨punto, tabla⟩
  cases atiende <;> cases sends
  · exact .inl ⟨rfl, .listado _⟩
  · exact .inr (.subidaAceptada ..)
  · exact .inl ⟨rfl, .subida ..⟩
  · exact .inr (.consultaAceptada _)
  · exact .inl ⟨rfl, .consulta ..⟩

/-! ## Steps of the system -/

/-- A receive in the middle of an exchange takes the request of the client it is
with. -/
def Respeta (red : Red ι) : Event ι → Prop
  | .serverReceive cliente => red.server.punto = .esperaOpcion ∨ red.last = some cliente
  | _ => True

instance (red : Red ι) [DecidableEq ι] : (evento : Event ι) → Decidable (Respeta red evento)
  | .serverReceive _ => inferInstanceAs (Decidable (_ ∨ _))
  | .clientSend _ => .isTrue trivial
  | .clientReceive _ => .isTrue trivial
  | .clientRefused _ => .isTrue trivial
  | .serverSend _ => .isTrue trivial
  | .serverRefused => .isTrue trivial

theorem Coherente.ajena_or_atiende {red : Red ι} (coherente : Coherente red) (cliente : ι) :
    Ajena (red.client cliente).punto (red.link cliente) ∨
      Atiende red.server.punto (red.client cliente).punto (red.link cliente) := by
  rcases coherente.sesion with ⟨_, outside⟩ | ⟨atendido, _, inside, outside⟩
  · exact .inl (outside cliente)
  · by_cases same : cliente = atendido
    · exact .inr (same ▸ inside)
    · exact .inl (outside cliente same)

/-- A request that is taken opens an exchange or continues the one in course. -/
theorem Coherente.pedida {red : Red ι} (coherente : Coherente red) {cliente : ι}
    {mensaje : Bytes} (respeta : Respeta red (.serverReceive cliente))
    (pending : red.link cliente = .request mensaje) :
    ((red.server.punto = .esperaOpcion ∧
        Ajena (red.client cliente).punto (.request mensaje)) ∨
      Atiende red.server.punto (red.client cliente).punto (.request mensaje)) ∧
    ∀ otro, otro ≠ cliente → Ajena (red.client otro).punto (red.link otro) := by
  rcases coherente.sesion with ⟨head, outside⟩ | ⟨atendido, last, inside, outside⟩
  · have ajena := outside cliente
    rw [pending] at ajena
    exact ⟨.inl ⟨head, ajena⟩, fun otro _ => outside otro⟩
  · have notHead : red.server.punto ≠ .esperaOpcion := by
      intro head
      rw [head] at inside
      cases inside
    obtain rfl : atendido = cliente :=
      Option.some.inj (last.symm.trans (respeta.resolve_left notHead))
    rw [pending] at inside
    exact ⟨.inr inside, outside⟩

/-- A reply goes to the client of the exchange. -/
theorem Coherente.contestada {red : Red ι} (coherente : Coherente red) {cliente : ι}
    {mensaje : Bytes} (last : red.last = some cliente)
    (sends : Servidor.accion red.server = .send mensaje) :
    Atiende red.server.punto (red.client cliente).punto (red.link cliente) ∧
    ∀ otro, otro ≠ cliente → Ajena (red.client otro).punto (red.link otro) := by
  rcases coherente.sesion with ⟨head, _⟩ | ⟨atendido, lastIs, inside, outside⟩
  · have idle := debe_of_send sends
    rw [head] at idle
    cases idle
  · obtain rfl : atendido = cliente := Option.some.inj (lastIs.symm.trans last)
    exact ⟨inside, outside⟩

/-- The server never uses its socket out of turn. -/
theorem Coherente.servidor_not_refused {red : Red ι} (coherente : Coherente red)
    {estado : Servidor.Estado} {owed : Bool} :
    repStep Servidor.proceso red.server red.owed none ≠ some (.refused, estado, owed) := by
  intro operation
  obtain ⟨outOfTurn, _⟩ := repStep_refused_iff.mp operation
  have turno := coherente.turno
  rcases outOfTurn with ⟨receives, owes⟩ | ⟨reply, sends, free⟩
  · rw [debe_of_receive receives, owes] at turno
    cases turno
  · rw [debe_of_send sends, free] at turno
    cases turno

variable [DecidableEq ι]

/-- A step of one client that keeps it outside, or in the exchange, keeps the
state coherent. -/
theorem Coherente.setClient {red : Red ι} (coherente : Coherente red) {cliente : ι}
    {estado : Cliente.Estado} {link : Link Bytes}
    (ajena : Ajena (red.client cliente).punto (red.link cliente) → Ajena estado.punto link)
    (atiende : ∀ punto, Atiende punto (red.client cliente).punto (red.link cliente) →
      Atiende punto estado.punto link) :
    Coherente (red.setClient cliente estado link) := by
  have self := red.setClient_self cliente estado link
  have kept : ∀ otro, Ajena (red.client otro).punto (red.link otro) →
      Ajena ((red.setClient cliente estado link).client otro).punto
        ((red.setClient cliente estado link).link otro) := by
    intro otro outside
    by_cases same : otro = cliente
    · subst same
      rw [self.1, self.2]
      exact ajena outside
    · have other := red.setClient_other same estado link
      rw [other.1, other.2]
      exact outside
  constructor
  · exact coherente.turno
  · rcases coherente.sesion with ⟨head, outside⟩ | ⟨atendido, last, inside, outside⟩
    · exact .inl ⟨head, fun otro => kept otro (outside otro)⟩
    · refine .inr ⟨atendido, last, ?_, fun otro different => kept otro (outside otro different)⟩
      by_cases same : atendido = cliente
      · subst same
        rw [self.1, self.2]
        exact atiende _ inside
      · have other := red.setClient_other same estado link
        rw [other.1, other.2]
        exact inside

/-- A step of the server in the exchange with one client. -/
theorem Coherente.setServer {red : Red ι} {cliente : ι} {estado : Servidor.Estado} {owed : Bool}
    {link : Link Bytes} (turno : owed = debe estado.punto)
    (inside : (estado.punto = .esperaOpcion ∧ Ajena (red.client cliente).punto link) ∨
      Atiende estado.punto (red.client cliente).punto link)
    (outside : ∀ otro, otro ≠ cliente → Ajena (red.client otro).punto (red.link otro)) :
    Coherente (red.setServer cliente estado owed link) := by
  have self := red.setServer_link_self cliente estado owed link
  have kept : ∀ otro, otro ≠ cliente →
      Ajena ((red.setServer cliente estado owed link).client otro).punto
        ((red.setServer cliente estado owed link).link otro) := by
    intro otro different
    rw [red.setServer_link_other different]
    exact outside otro different
  constructor
  · exact turno
  · rcases inside with ⟨head, ajena⟩ | atiende
    · left
      constructor
      · exact head
      · intro otro
        by_cases same : otro = cliente
        · subst same
          rw [self]
          exact ajena
        · exact kept otro same
    · right
      refine ⟨cliente, rfl, ?_, kept⟩
      rw [self]
      exact atiende

/-- Every step that picks no foreign request in the middle of an exchange keeps
the state coherent. -/
theorem Coherente.step {red siguiente : Red ι} {evento : Event ι} (coherente : Coherente red)
    (respeta : Respeta red evento) (paso : Paso red evento siguiente) :
    Coherente siguiente := by
  cases paso with
  | clientSend sends free =>
      rename_i cliente mensaje
      apply coherente.setClient
      · intro ajena
        rw [free] at ajena
        exact ajena.enviada sends
      · intro punto atiende
        rw [free] at atiende
        exact atiende.enviada sends
  | clientReceive receives arrived =>
      apply coherente.setClient
      · intro ajena
        rw [arrived] at ajena
        exact ajena.recibida
      · intro punto atiende
        rw [arrived] at atiende
        exact atiende.recibida
  | clientRefused outOfTurn =>
      exact absurd outOfTurn (cliente_not_refused (coherente.ajena_or_atiende _))
  | serverReceive pending operation =>
      rename_i cliente mensaje estado owed
      obtain ⟨receives, _, _, rfl, rfl⟩ := repStep_received_iff.mp operation
      obtain ⟨inside, outside⟩ := coherente.pedida respeta pending
      have atiende : Atiende (Servidor.recibida red.server mensaje).punto
          (red.client cliente).punto .taken := by
        rcases inside with ⟨head, ajena⟩ | inside
        · exact ajena.abre head
        · exact inside.sigue
      exact Coherente.setServer atiende.debe_taken.symm (.inr atiende) outside
  | serverSend last operation =>
      rename_i cliente mensaje estado owed
      obtain ⟨sends, _, rfl, rfl⟩ := repStep_sent_iff.mp operation
      obtain ⟨inside, outside⟩ := coherente.contestada last sends
      exact Coherente.setServer (debe_enviada _).symm (inside.contesta sends) outside
  | serverRefused operation => exact absurd operation coherente.servidor_not_refused

end DescargaP2P.Sistema
