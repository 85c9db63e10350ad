import DescargaP2P.Sistema.Core

/-!
# Serial executions

In the serial machine an exchange is one step: an operation is applied to the
table and its reply is recorded for the client.  The system refines it as long as
no foreign request is taken in the middle of an exchange.  An exchange takes
effect when the server processes its last request.
-/

namespace DescargaP2P.Sistema

open DescargaP2P.Almacen
open DescargaP2P.Cliente (Operacion)
open DescargaP2P.Cpp
open DescargaP2P.ReqRep
open DescargaP2P.Text
open DescargaP2P.Transition

universe u

variable {ι : Type u}

/-! ## The serial machine -/

/-- A complete exchange on a table: the last reply and the table after it. -/
def intercambio (tabla : Tabla) : Operacion → Option (Bytes × Tabla)
  | .listar => some (Servidor.listado tabla, tabla)
  | .subir nombre ip puerto =>
      match agregarCliente tabla (Cliente.solicitud nombre ip puerto) with
      | some (true, siguiente) => some (Servidor.ack, siguiente)
      | _ => none
  | .descargar nombre =>
      match obtenerCliente tabla nombre with
      | some (_, texto) => some (texto, tabla)
      | none => none

/-- The table and the last replies that each client got. -/
structure Serie (ι : Type u) where
  tabla : Tabla
  respuestas : ι → List (Operacion × Bytes)

/-- One client performs one complete exchange. -/
inductive PasoSerie [DecidableEq ι] : Labelled (Serie ι) (ι × Operacion)
  | intercambia {serie : Serie ι} {cliente : ι} {operacion : Operacion} {respuesta : Bytes}
      {tabla : Tabla} :
      intercambio serie.tabla operacion = some (respuesta, tabla) →
      PasoSerie serie (cliente, operacion)
        ⟨tabla, Function.update serie.respuestas cliente
          (serie.respuestas cliente ++ [(operacion, respuesta)])⟩

/-- An exchange adds its reply to those of its client and nothing else. -/
theorem PasoSerie.respuestas_iff [DecidableEq ι] {serie siguiente : Serie ι}
    {accion : ι × Operacion} (paso : PasoSerie serie accion siguiente) :
    ∃ respuesta, intercambio serie.tabla accion.2 = some (respuesta, siguiente.tabla) ∧
      ∀ cliente hecha, hecha ∈ siguiente.respuestas cliente ↔
        hecha ∈ serie.respuestas cliente ∨
          (cliente = accion.1 ∧ hecha = (accion.2, respuesta)) := by
  cases paso with
  | intercambia performed =>
      rename_i activo operacion respuesta tabla
      refine ⟨respuesta, performed, ?_⟩
      intro cliente hecha
      by_cases same : cliente = activo
      · subst same
        simp
      · simp [same]

/-! ## The serial view of a state -/

/-- The last reply of an exchange that the server has processed and the client
has not read yet. -/
def pendiente (servidor : Servidor.Punto) (cliente : Cliente.Punto) (link : Link Bytes) :
    List (Operacion × Bytes) :=
  match link, cliente, servidor with
  | .reply texto, .recibeListado, _ => [(.listar, texto)]
  | .reply texto, .recibeAckFinal nombre ip puerto, _ => [(.subir nombre ip puerto, texto)]
  | .reply texto, .recibeDireccion nombre, _ => [(.descargar nombre, texto)]
  | .taken, .recibeListado, .enviaListado texto => [(.listar, texto)]
  | .taken, .recibeAckFinal nombre ip puerto, .enviaAckFinal =>
      [(.subir nombre ip puerto, Servidor.ack)]
  | .taken, .recibeDireccion nombre, .enviaDireccion texto => [(.descargar nombre, texto)]
  | _, _, _ => []

/-- The replies of the exchanges of a client that the server has processed. -/
def vista (servidor : Servidor.Punto) (cliente : Cliente.Estado) (link : Link Bytes) :
    List (Operacion × Bytes) :=
  cliente.respuestas ++ pendiente servidor cliente.punto link

/-- The state of the serial machine that a state of the system stands for. -/
def abstraccion (red : Red ι) : Serie ι where
  tabla := red.server.tabla
  respuestas cliente := vista red.server.punto (red.client cliente) (red.link cliente)

theorem Ajena.pendiente_eq {cliente : Cliente.Punto} {link : Link Bytes}
    (ajena : Ajena cliente link) (first second : Servidor.Punto) :
    pendiente first cliente link = pendiente second cliente link := by
  cases ajena <;> rfl

theorem pendiente_free (servidor : Servidor.Punto) (cliente : Cliente.Punto) :
    pendiente servidor cliente .free = [] := rfl

theorem pendiente_request (servidor : Servidor.Punto) (cliente : Cliente.Punto)
    (mensaje : Bytes) : pendiente servidor cliente (.request mensaje) = [] := rfl

theorem enCurso_of_pendiente {servidor : Servidor.Punto} {cliente : Cliente.Punto}
    {link : Link Bytes} {hecha : Operacion × Bytes}
    (pending : hecha ∈ pendiente servidor cliente link) : hecha.1 ∈ cliente.enCurso := by
  unfold pendiente at pending
  split at pending
  all_goals simp_all [Cliente.Punto.enCurso]

theorem respuestas_enviada (cliente : Cliente.Estado) :
    (Cliente.enviada cliente).respuestas = cliente.respuestas := by
  rcases cliente with ⟨punto, guion, respuestas, servidoras, descargas⟩
  cases punto <;> first | rfl | (cases guion <;> rfl)

/-- Reading a reply moves it from the pending ones to those recorded. -/
theorem vista_recibida {servidor : Servidor.Punto} {cliente : Cliente.Estado} {mensaje : Bytes}
    (placed : Ajena cliente.punto (.reply mensaje) ∨
      Atiende servidor cliente.punto (.reply mensaje)) :
    vista servidor (Cliente.recibida cliente mensaje) .free =
      vista servidor cliente (.reply mensaje) := by
  rcases cliente with ⟨punto, guion, respuestas, servidoras, descargas⟩
  rw [vista, pendiente_free, List.append_nil]
  rcases placed with ajena | atiende
  · cases ajena with
    | listado texto => rfl
    | subida nombre ip puerto =>
        have acknowledged : Servidor.ack = Cliente.ack := rfl
        simp only [Cliente.recibida, acknowledged, if_true, Cliente.lanzaServidora]
        cases stoi puerto <;> rfl
    | consulta nombre texto =>
        simp only [Cliente.recibida, Cliente.lanzaDescarga]
        split <;> rfl
  · cases atiende <;> simp [Cliente.recibida, Cliente.siAck, vista, pendiente]

/-- A reply that is sent was already counted. -/
theorem Atiende.pendiente_contesta {servidor : Servidor.Estado} {cliente : Cliente.Punto}
    {link : Link Bytes} {mensaje : Bytes} (atiende : Atiende servidor.punto cliente link)
    (sends : Servidor.accion servidor = .send mensaje) (siguiente : Servidor.Punto) :
    pendiente siguiente cliente (.reply mensaje) = pendiente servidor.punto cliente link := by
  rcases servidor with ⟨punto, tabla⟩
  cases atiende <;> cases sends <;> rfl

/-- What the server does on a request, seen from the client that sent it: nothing
yet, or one exchange. -/
def Efecto (tabla siguiente : Tabla) (antes despues : List (Operacion × Bytes)) : Prop :=
  (siguiente = tabla ∧ despues = antes) ∨
    ∃ operacion respuesta, intercambio tabla operacion = some (respuesta, siguiente) ∧
      despues = antes ++ [(operacion, respuesta)]

theorem Ajena.efecto {servidor : Servidor.Estado} {cliente : Cliente.Estado} {mensaje : Bytes}
    (head : servidor.punto = .esperaOpcion)
    (ajena : Ajena cliente.punto (.request mensaje)) :
    Efecto servidor.tabla (Servidor.recibida servidor mensaje).tabla
      (vista servidor.punto cliente (.request mensaje))
      (vista (Servidor.recibida servidor mensaje).punto cliente .taken) := by
  have sameTable : (Servidor.recibida servidor mensaje).tabla = servidor.tabla := by
    rcases Servidor.recibida_tabla servidor mensaje with same | ⟨_, _, elsewhere, _⟩
    · exact same
    · rw [head] at elsewhere
      cases elsewhere
  have opens := ajena.abre head
  rcases cliente with ⟨punto, guion, respuestas, servidoras, descargas⟩
  simp only [vista, pendiente_request, List.append_nil] at opens ⊢
  cases ajena with
  | pideListado =>
      right
      have read := stoi_opcion .listar
      have point : (Servidor.recibida servidor (decimal 0)).punto =
          .enviaListado (Servidor.listado servidor.tabla) := by
        simp only [Servidor.recibida, head, Operacion.opcion] at read ⊢
        rw [read]
        rfl
      refine ⟨.listar, Servidor.listado servidor.tabla, ?_, ?_⟩
      · rw [sameTable]
        rfl
      · rw [point]
        rfl
  | pideSubida nombre ip puerto =>
      left
      constructor
      · exact sameTable
      · generalize (Servidor.recibida servidor (decimal 1)).punto = next at opens
        cases opens
        simp [pendiente]
  | pideConsulta nombre =>
      left
      constructor
      · exact sameTable
      · generalize (Servidor.recibida servidor (decimal 2)).punto = next at opens
        cases opens
        simp [pendiente]

theorem Atiende.efecto {servidor : Servidor.Estado} {cliente : Cliente.Estado} {mensaje : Bytes}
    (atiende : Atiende servidor.punto cliente.punto (.request mensaje)) :
    Efecto servidor.tabla (Servidor.recibida servidor mensaje).tabla
      (vista servidor.punto cliente (.request mensaje))
      (vista (Servidor.recibida servidor mensaje).punto cliente .taken) := by
  rcases cliente with ⟨punto, guion, respuestas, servidoras, descargas⟩
  rcases servidor with ⟨site, tabla⟩
  simp only [vista, pendiente_request, List.append_nil]
  cases atiende with
  | subidaPedida nombre ip puerto =>
      simp only [Servidor.recibida]
      cases outcome : agregarCliente tabla (Cliente.solicitud nombre ip puerto) with
      | none => exact .inl ⟨rfl, List.append_nil _⟩
      | some result =>
          rcases result with ⟨stored, siguiente⟩
          cases stored with
          | false => exact .inl ⟨rfl, List.append_nil _⟩
          | true =>
              refine .inr ⟨.subir nombre ip puerto, Servidor.ack, ?_, rfl⟩
              simp only [intercambio, outcome]
  | consultaPedida nombre =>
      simp only [Servidor.recibida]
      cases outcome : obtenerCliente tabla mensaje with
      | none => exact .inl ⟨rfl, List.append_nil _⟩
      | some result =>
          rcases result with ⟨found, texto⟩
          refine .inr ⟨.descargar mensaje, texto, ?_, rfl⟩
          simp only [intercambio, outcome]

/-! ## Refinement -/

variable [DecidableEq ι]

/-- A step of one client that keeps its view leaves the abstract state alone. -/
theorem abstraccion_setClient {red : Red ι} {cliente : ι} {estado : Cliente.Estado}
    {link : Link Bytes}
    (same : vista red.server.punto estado link =
      vista red.server.punto (red.client cliente) (red.link cliente)) :
    abstraccion (red.setClient cliente estado link) = abstraccion red := by
  have self := red.setClient_self cliente estado link
  have views : ∀ otro, vista red.server.punto ((red.setClient cliente estado link).client otro)
      ((red.setClient cliente estado link).link otro) =
        vista red.server.punto (red.client otro) (red.link otro) := by
    intro otro
    by_cases isSame : otro = cliente
    · subst isSame
      rw [self.1, self.2]
      exact same
    · have other := red.setClient_other isSame estado link
      rw [other.1, other.2]
  exact congrArg (Serie.mk red.server.tabla) (funext views)

/-- A step of the server changes the view of one client only. -/
theorem abstraccion_setServer {red : Red ι} {cliente : ι} {estado : Servidor.Estado}
    {owed : Bool} {link : Link Bytes}
    (outside : ∀ otro, otro ≠ cliente → Ajena (red.client otro).punto (red.link otro)) :
    abstraccion (red.setServer cliente estado owed link) =
      ⟨estado.tabla, Function.update (abstraccion red).respuestas cliente
        (vista estado.punto (red.client cliente) link)⟩ := by
  have views : ∀ otro, vista estado.punto (red.client otro)
      ((red.setServer cliente estado owed link).link otro) =
        Function.update (abstraccion red).respuestas cliente
          (vista estado.punto (red.client cliente) link) otro := by
    intro otro
    by_cases isSame : otro = cliente
    · subst isSame
      rw [red.setServer_link_self, Function.update_self]
    · rw [red.setServer_link_other isSame, Function.update_of_ne isSame, vista,
        (outside otro isSame).pendiente_eq estado.punto red.server.punto]
      rfl
  exact congrArg (Serie.mk estado.tabla) (funext views)

/-- A step of the server that changes neither the table nor the view of its client. -/
theorem abstraccion_setServer_same {red : Red ι} {cliente : ι} {estado : Servidor.Estado}
    {owed : Bool} {link : Link Bytes}
    (outside : ∀ otro, otro ≠ cliente → Ajena (red.client otro).punto (red.link otro))
    (sameTable : estado.tabla = red.server.tabla)
    (sameView : vista estado.punto (red.client cliente) link =
      vista red.server.punto (red.client cliente) (red.link cliente)) :
    abstraccion (red.setServer cliente estado owed link) = abstraccion red := by
  rw [abstraccion_setServer outside, sameTable, sameView]
  exact congrArg (Serie.mk red.server.tabla) (Function.update_eq_self cliente _)

/-- A step of the server with the effect of an exchange, or of none. -/
theorem refina_of_efecto {red : Red ι} {cliente : ι} {estado : Servidor.Estado}
    {owed : Bool} {link : Link Bytes}
    (outside : ∀ otro, otro ≠ cliente → Ajena (red.client otro).punto (red.link otro))
    (efecto : Efecto red.server.tabla estado.tabla
      (vista red.server.punto (red.client cliente) (red.link cliente))
      (vista estado.punto (red.client cliente) link)) :
    abstraccion (red.setServer cliente estado owed link) = abstraccion red ∨
      ∃ accion, PasoSerie (abstraccion red) accion
        (abstraccion (red.setServer cliente estado owed link)) := by
  rcases efecto with ⟨sameTable, sameView⟩ | ⟨operacion, respuesta, performed, extended⟩
  · exact Or.inl (abstraccion_setServer_same outside sameTable sameView)
  · right
    refine ⟨(cliente, operacion), ?_⟩
    rw [abstraccion_setServer outside, extended]
    exact .intercambia performed

/-- Steps that pick no foreign request in the middle of an exchange refine the
serial machine. -/
theorem Coherente.refina {red siguiente : Red ι} {evento : Event ι}
    (coherente : Coherente red) (respeta : Respeta red evento)
    (paso : Paso red evento siguiente) :
    abstraccion siguiente = abstraccion red ∨
      ∃ accion, PasoSerie (abstraccion red) accion (abstraccion siguiente) := by
  cases paso with
  | clientSend sends free =>
      left
      apply abstraccion_setClient
      rw [free, vista, pendiente_request, vista, pendiente_free]
      exact congrArg (· ++ []) (respuestas_enviada _)
  | clientReceive receives arrived =>
      left
      apply abstraccion_setClient
      rename_i cliente mensaje
      have placed := coherente.ajena_or_atiende cliente
      rw [arrived] at placed ⊢
      exact vista_recibida placed
  | clientRefused outOfTurn =>
      exact absurd outOfTurn (cliente_not_refused (coherente.ajena_or_atiende _))
  | serverReceive pending operation =>
      rename_i cliente mensaje estado owed
      obtain ⟨receives, _, _, rfl, rfl⟩ := repStep_received_iff.mp operation
      obtain ⟨inside, outside⟩ := coherente.pedida respeta pending
      apply refina_of_efecto outside
      rw [pending]
      rcases inside with ⟨head, ajena⟩ | inside
      · exact ajena.efecto head
      · exact inside.efecto
  | serverSend last operation =>
      rename_i cliente mensaje estado owed
      obtain ⟨sends, _, rfl, rfl⟩ := repStep_sent_iff.mp operation
      obtain ⟨inside, outside⟩ := coherente.contestada last sends
      left
      apply abstraccion_setServer_same outside (Servidor.enviada_tabla _)
      rw [vista, inside.pendiente_contesta sends, vista]
  | serverRefused operation => exact absurd operation coherente.servidor_not_refused

/-- Runs without foreign requests in the middle of an exchange are serial: the
table and all replies are those of some order of the complete exchanges. -/
theorem serializable_of_respeta {guiones : ι → List Operacion} {tabla : Tabla} {red : Red ι}
    {eventos : List (Event ι)} (run : Run Paso Respeta (inicio guiones tabla) eventos red) :
    Coherente red ∧
      Reachable PasoSerie ⟨tabla, fun _ => []⟩ (abstraccion red) := by
  constructor
  · exact run.invariant Coherente (coherente_inicio guiones tabla) Coherente.step
  · exact run.refines abstraccion Coherente (coherente_inicio guiones tabla) Coherente.step
      Coherente.refina

end DescargaP2P.Sistema
