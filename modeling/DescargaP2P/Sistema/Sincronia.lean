import DescargaP2P.Sistema.Aislamiento
import DescargaP2P.Sistema.Indice

/-!
# A client in step with the server

With well-formed scripts no process ends and nobody waits in vain.  A client
alone with the server completes its whole script and gets the replies of the
index; the table is the index at every moment.
-/

namespace DescargaP2P.Sistema

open DescargaP2P.Almacen
open DescargaP2P.Cliente (Operacion Progreso)
open DescargaP2P.Collections
open DescargaP2P.Cpp
open DescargaP2P.ReqRep
open DescargaP2P.Text
open DescargaP2P.Transition

universe u

/-! ## Well-formed scripts end no process -/

theorem enviada_running {cliente : Cliente.Estado} {mensaje : Bytes}
    (sends : Cliente.accion cliente = .send mensaje) (causa : Termination) :
    (Cliente.enviada cliente).punto ≠ .terminado causa := by
  rcases cliente with ⟨punto, guion, respuestas, servidoras, descargas⟩
  cases punto with
  | menu =>
      rcases guion with _ | ⟨operacion, resto⟩
      · cases sends
      · cases operacion <;> nofun
  | enviaSolicitud nombre ip puerto => nofun
  | enviaNombre nombre => nofun
  | _ => cases sends

/-- Every comparison with the acknowledgement succeeds, and so does reading the
port of a well-formed upload. -/
theorem recibida_running {servidor : Servidor.Punto} {cliente : Cliente.Estado} {mensaje : Bytes}
    (placed : Ajena cliente.punto (.reply mensaje) ∨
      Atiende servidor cliente.punto (.reply mensaje))
    (wellFormed : ∀ operacion ∈ cliente.punto.enCurso, BienFormada operacion)
    (causa : Termination) : (Cliente.recibida cliente mensaje).punto ≠ .terminado causa := by
  rcases cliente with ⟨punto, guion, respuestas, servidoras, descargas⟩
  intro ended
  rcases placed with ajena | atiende
  · cases ajena with
    | listado texto => cases ended
    | subida nombre ip puerto =>
        have acknowledged : Servidor.ack = Cliente.ack := rfl
        have read := (wellFormed _ List.mem_cons_self).2.2.stoi
        simp only [Cliente.recibida, acknowledged, if_true, Cliente.lanzaServidora, read] at ended
        cases ended
    | consulta nombre texto =>
        simp only [Cliente.recibida, Cliente.lanzaDescarga] at ended
        split at ended <;> cases ended
  · cases atiende <;> cases ended

theorem Ajena.abre_running {servidor : Servidor.Estado} {cliente : Cliente.Punto}
    {mensaje : Bytes} (head : servidor.punto = .esperaOpcion)
    (ajena : Ajena cliente (.request mensaje)) (causa : Termination) :
    (Servidor.recibida servidor mensaje).punto ≠ .terminado causa := by
  intro ended
  have opens := ajena.abre head
  rw [ended] at opens
  cases opens <;> cases ajena

/-- The server survives the second request of a well-formed operation. -/
theorem Atiende.sigue_running {servidor : Servidor.Estado} {cliente : Cliente.Punto}
    {mensaje : Bytes} (nonempty : servidor.tabla.NonemptyLists)
    (atiende : Atiende servidor.punto cliente (.request mensaje))
    (wellFormed : ∀ operacion ∈ cliente.enCurso, BienFormada operacion) (causa : Termination) :
    (Servidor.recibida servidor mensaje).punto ≠ .terminado causa := by
  rcases servidor with ⟨punto, tabla⟩
  intro ended
  cases atiende with
  | subidaPedida nombre ip puerto =>
      have accepted := registro_bienFormada (wellFormed _ List.mem_cons_self)
      simp only [Servidor.recibida, agregarCliente_of_registro tabla accepted] at ended
      cases ended
  | consultaPedida nombre =>
      simp only [Servidor.recibida, obtenerCliente_eq nonempty] at ended
      cases ended

variable {ι : Type u}

/-- On its script, with every process running and no file without addresses. -/
structure Sana (guiones : ι → List Operacion) (red : Red ι) : Prop where
  enGuion : EnGuion guiones red
  clientes : ∀ cliente causa, (red.client cliente).punto ≠ .terminado causa
  servidor : Servidor.Vivo red.server
  listas : red.server.tabla.NonemptyLists

theorem sana_inicio (guiones : ι → List Operacion) {tabla : Tabla}
    (nonempty : tabla.NonemptyLists) : Sana guiones (inicio guiones tabla) where
  enGuion := enGuion_inicio guiones tabla
  clientes _ _ := nofun
  servidor _ := nofun
  listas := nonempty

/-- The operation in course is well formed if the scripts are. -/
theorem Sana.bienFormada {guiones : ι → List Operacion} {red : Red ι} (sana : Sana guiones red)
    (wellFormed : ∀ cliente, ∀ operacion ∈ guiones cliente, BienFormada operacion)
    (cliente : ι) : ∀ operacion ∈ (red.client cliente).punto.enCurso, BienFormada operacion :=
  fun operacion inside =>
    wellFormed cliente operacion (mem_of_enCurso (sana.enGuion.2 cliente) inside)

theorem Sana.step [DecidableEq ι] {guiones : ι → List Operacion}
    (wellFormed : ∀ cliente, ∀ operacion ∈ guiones cliente, BienFormada operacion)
    {red siguiente : Red ι} {evento : Event ι} (sana : Sana guiones red)
    (respeta : Respeta red evento) (paso : Paso red evento siguiente) :
    Sana guiones siguiente := by
  have coherente := sana.enGuion.1
  have clientes : ∀ cliente causa, (siguiente.client cliente).punto ≠ .terminado causa := by
    apply Step.forall_client (fun _ estado => ∀ causa, estado.punto ≠ .terminado causa)
      (fun sends _ => enviada_running sends) ?_ ?_ paso sana.clientes
    · intro cliente mensaje _ arrived _
      have placed := coherente.ajena_or_atiende cliente
      rw [arrived] at placed
      exact recibida_running placed (sana.bienFormada wellFormed cliente)
    · intro cliente outOfTurn
      exact absurd outOfTurn (cliente_not_refused (coherente.ajena_or_atiende cliente))
  have servidor : Servidor.Vivo siguiente.server ∧ siguiente.server.tabla.NonemptyLists := by
    cases paso with
    | serverReceive pending operation =>
        rename_i cliente mensaje estado owed
        obtain ⟨receives, _, _, rfl, rfl⟩ := repStep_received_iff.mp operation
        refine ⟨?_, Servidor.nonemptyLists_recibida sana.listas mensaje⟩
        obtain ⟨inside, _⟩ := coherente.pedida respeta pending
        rcases inside with ⟨head, ajena⟩ | inside
        · exact ajena.abre_running head
        · exact inside.sigue_running sana.listas (sana.bienFormada wellFormed cliente)
    | serverSend last operation =>
        obtain ⟨sends, _, rfl, rfl⟩ := repStep_sent_iff.mp operation
        exact ⟨Servidor.vivo_enviada red.server,
          (Servidor.enviada_tabla red.server).symm ▸ sana.listas⟩
    | serverRefused operation => exact absurd operation coherente.servidor_not_refused
    | clientSend sends free => exact ⟨sana.servidor, sana.listas⟩
    | clientReceive receives arrived => exact ⟨sana.servidor, sana.listas⟩
    | clientRefused outOfTurn => exact ⟨sana.servidor, sana.listas⟩
  exact ⟨sana.enGuion.step respeta paso, clientes, servidor.1, servidor.2⟩

/-! ## Nobody waits in vain -/

variable [DecidableEq ι]

/-- The points where a client compares the reply with the acknowledgement. -/
def ComparaAck : Cliente.Punto → Prop
  | .recibeAckSubida .. | .recibeAckFinal .. | .recibeAckConsulta _ => True
  | _ => False

/-- No party uses its socket out of turn, two parties that wait for each other have
a message on its way, every comparison with the acknowledgement succeeds and every
process runs. -/
structure EnSincronia (red : Red ι) : Prop where
  enTurno : (∀ cliente siguiente, ¬ Paso red (.clientRefused cliente) siguiente) ∧
    ∀ siguiente, ¬ Paso red .serverRefused siguiente
  sinEspera : ∀ cliente, Cliente.accion (red.client cliente) = .receive →
    Servidor.accion red.server = .receive →
      ∃ mensaje, red.link cliente = .request mensaje ∨ red.link cliente = .reply mensaje
  acuses : ∀ cliente mensaje, ComparaAck (red.client cliente).punto →
    red.link cliente = .reply mensaje → mensaje = Cliente.ack
  vivos : (∀ cliente causa, (red.client cliente).punto ≠ .terminado causa) ∧
    Servidor.Vivo red.server

theorem on_its_way {cliente : Cliente.Estado} {servidor : Servidor.Estado} {link : Link Bytes}
    (placed : Ajena cliente.punto link ∨ Atiende servidor.punto cliente.punto link)
    (clientReceives : Cliente.accion cliente = .receive)
    (serverReceives : Servidor.accion servidor = .receive) :
    ∃ mensaje, link = .request mensaje ∨ link = .reply mensaje := by
  rcases cliente with ⟨punto, guion, respuestas, servidoras, descargas⟩
  rcases servidor with ⟨site, tabla⟩
  rcases placed with ajena | atiende
  · cases ajena with
    | menu => cases guion <;> cases clientReceives
    | terminado causa => cases clientReceives
    | pideListado => exact ⟨_, .inl rfl⟩
    | pideSubida nombre ip puerto => exact ⟨_, .inl rfl⟩
    | pideConsulta nombre => exact ⟨_, .inl rfl⟩
    | listado texto => exact ⟨_, .inr rfl⟩
    | subida nombre ip puerto => exact ⟨_, .inr rfl⟩
    | consulta nombre texto => exact ⟨_, .inr rfl⟩
  · cases atiende with
    | subidaAceptada nombre ip puerto => exact ⟨_, .inr rfl⟩
    | subidaPedida nombre ip puerto => exact ⟨_, .inl rfl⟩
    | consultaAceptada nombre => exact ⟨_, .inr rfl⟩
    | consultaPedida nombre => exact ⟨_, .inl rfl⟩
    | subidaPreparada nombre ip puerto => cases clientReceives
    | consultaPreparada nombre => cases clientReceives
    | _ => cases serverReceives

theorem reply_eq_ack {servidor : Servidor.Punto} {cliente : Cliente.Punto} {mensaje : Bytes}
    (placed : Ajena cliente (.reply mensaje) ∨ Atiende servidor cliente (.reply mensaje))
    (compares : ComparaAck cliente) : mensaje = Cliente.ack := by
  rcases placed with ajena | atiende
  · cases ajena with
    | subida nombre ip puerto => rfl
    | listado texto => cases compares
    | consulta nombre texto => cases compares
  · cases atiende <;> rfl

theorem Sana.enSincronia {guiones : ι → List Operacion} {red : Red ι}
    (sana : Sana guiones red) : EnSincronia red := by
  have coherente := sana.enGuion.1
  constructor
  · constructor
    · intro cliente siguiente paso
      cases paso with
      | clientRefused outOfTurn =>
          exact cliente_not_refused (coherente.ajena_or_atiende cliente) outOfTurn
    · intro siguiente paso
      cases paso with
      | serverRefused operation => exact coherente.servidor_not_refused operation
  · intro cliente clientReceives serverReceives
    exact on_its_way (coherente.ajena_or_atiende cliente) clientReceives serverReceives
  · intro cliente mensaje compares arrived
    have placed := coherente.ajena_or_atiende cliente
    rw [arrived] at placed
    exact reply_eq_ack placed compares
  · exact ⟨sana.clientes, sana.servidor⟩

/-! ## Progress -/

/-- Every client is at its menu with nothing left to do. -/
structure Terminada (red : Red ι) : Prop where
  clientes : ∀ cliente, (red.client cliente).punto = .menu ∧
    (red.client cliente).guion = [] ∧ red.link cliente = .free
  servidor : red.server.punto = .esperaOpcion

/-- A party that can move: the client sends or reads, or the server takes a request
or replies. -/
def PuedeSeguir (cliente : Cliente.Estado) (servidor : Servidor.Estado) (link : Link Bytes) :
    Prop :=
  (∃ mensaje, Cliente.accion cliente = .send mensaje ∧ link = .free) ∨
    (∃ mensaje, Cliente.accion cliente = .receive ∧ link = .reply mensaje) ∨
    (∃ mensaje, Servidor.accion servidor = .receive ∧ link = .request mensaje) ∨
    ∃ mensaje, Servidor.accion servidor = .send mensaje

theorem Ajena.puedeSeguir {cliente : Cliente.Estado} {servidor : Servidor.Estado}
    {link : Link Bytes} (head : servidor.punto = .esperaOpcion)
    (running : ∀ causa, cliente.punto ≠ .terminado causa) (ajena : Ajena cliente.punto link) :
    (cliente.punto = .menu ∧ cliente.guion = [] ∧ link = .free) ∨
      PuedeSeguir cliente servidor link := by
  have receives : Servidor.accion servidor = .receive := by rw [Servidor.accion, head]
  rcases cliente with ⟨punto, guion, respuestas, servidoras, descargas⟩
  cases ajena with
  | menu =>
      rcases guion with _ | ⟨operacion, resto⟩
      · exact .inl ⟨rfl, rfl, rfl⟩
      · exact .inr (.inl ⟨_, rfl, rfl⟩)
  | terminado causa => exact absurd rfl (running causa)
  | pideListado => exact .inr (.inr (.inr (.inl ⟨_, receives, rfl⟩)))
  | pideSubida nombre ip puerto => exact .inr (.inr (.inr (.inl ⟨_, receives, rfl⟩)))
  | pideConsulta nombre => exact .inr (.inr (.inr (.inl ⟨_, receives, rfl⟩)))
  | listado texto => exact .inr (.inr (.inl ⟨_, rfl, rfl⟩))
  | subida nombre ip puerto => exact .inr (.inr (.inl ⟨_, rfl, rfl⟩))
  | consulta nombre texto => exact .inr (.inr (.inl ⟨_, rfl, rfl⟩))

theorem Atiende.puedeSeguir {cliente : Cliente.Estado} {servidor : Servidor.Estado}
    {link : Link Bytes} (running : Servidor.Vivo servidor)
    (atiende : Atiende servidor.punto cliente.punto link) :
    PuedeSeguir cliente servidor link := by
  rcases cliente with ⟨punto, guion, respuestas, servidoras, descargas⟩
  rcases servidor with ⟨site, tabla⟩
  cases atiende with
  | listado texto => exact .inr (.inr (.inr ⟨_, rfl⟩))
  | ackSubida nombre ip puerto => exact .inr (.inr (.inr ⟨_, rfl⟩))
  | subidaAceptada nombre ip puerto => exact .inr (.inl ⟨_, rfl, rfl⟩)
  | subidaPreparada nombre ip puerto => exact .inl ⟨_, rfl, rfl⟩
  | subidaPedida nombre ip puerto => exact .inr (.inr (.inl ⟨_, rfl, rfl⟩))
  | ackFinal nombre ip puerto => exact .inr (.inr (.inr ⟨_, rfl⟩))
  | subidaMuerta nombre ip puerto causa => exact absurd rfl (running causa)
  | ackConsulta nombre => exact .inr (.inr (.inr ⟨_, rfl⟩))
  | consultaAceptada nombre => exact .inr (.inl ⟨_, rfl, rfl⟩)
  | consultaPreparada nombre => exact .inl ⟨_, rfl, rfl⟩
  | consultaPedida nombre => exact .inr (.inr (.inl ⟨_, rfl, rfl⟩))
  | direccion nombre texto => exact .inr (.inr (.inr ⟨_, rfl⟩))
  | consultaMuerta nombre causa => exact absurd rfl (running causa)

/-- A party that can move takes a step of the system. -/
theorem Coherente.step_of_puedeSeguir {red : Red ι} (coherente : Coherente red) {cliente : ι}
    (moves : PuedeSeguir (red.client cliente) red.server (red.link cliente)) :
    ∃ evento siguiente, Paso red evento siguiente := by
  rcases moves with ⟨mensaje, sends, free⟩ | ⟨mensaje, receives, arrived⟩ |
    ⟨mensaje, receives, pending⟩ | ⟨mensaje, sends⟩
  · exact ⟨_, _, .clientSend sends free⟩
  · exact ⟨_, _, .clientReceive receives arrived⟩
  · have settled : red.owed = false := coherente.turno.trans (debe_of_receive receives)
    exact ⟨_, _, .serverReceive pending
      (repStep_received_iff.mpr ⟨receives, settled, rfl, rfl, rfl⟩)⟩
  · have owes : red.owed = true := coherente.turno.trans (debe_of_send sends)
    rcases coherente.sesion with ⟨head, _⟩ | ⟨atendido, last, _⟩
    · rw [Servidor.accion, head] at sends
      cases sends
    · exact ⟨_, _, .serverSend last (repStep_sent_iff.mpr ⟨sends, owes, rfl, rfl⟩)⟩

/-- While some operation is left, somebody can move. -/
theorem Sana.terminada_or_step {guiones : ι → List Operacion} {red : Red ι}
    (sana : Sana guiones red) : Terminada red ∨ ∃ evento siguiente, Paso red evento siguiente := by
  have coherente := sana.enGuion.1
  rcases coherente.sesion with ⟨head, outside⟩ | ⟨atendido, _, inside, _⟩
  · by_cases finished : ∀ cliente, (red.client cliente).punto = .menu ∧
      (red.client cliente).guion = [] ∧ red.link cliente = .free
    · exact .inl ⟨finished, head⟩
    · obtain ⟨cliente, busy⟩ := not_forall.mp finished
      have moves := (outside cliente).puedeSeguir head (sana.clientes cliente)
      exact .inr (coherente.step_of_puedeSeguir (moves.resolve_left busy))
  · exact .inr (coherente.step_of_puedeSeguir (inside.puedeSeguir sana.servidor))

/-! ## No run is longer than its script allows -/

/-- Socket operations until the reply to a request has been read. -/
def viaje : Link Bytes → Nat
  | .free => 0
  | .request _ => 3
  | .taken => 2
  | .reply _ => 1

/-- Socket operations left, of a client and of the server for it, at most. -/
def restante (cliente : Cliente.Estado) (link : Link Bytes) : Nat :=
  match cliente.punto with
  | .recibeAckSubida .. | .recibeAckConsulta _ | .enviaSolicitud .. | .enviaNombre _ =>
      8 * cliente.guion.length + 4 + viaje link
  | _ => 8 * cliente.guion.length + viaje link

theorem restante_lt {shorter longer : Link Bytes} (less : viaje shorter < viaje longer)
    (cliente : Cliente.Estado) : restante cliente shorter < restante cliente longer := by
  unfold restante
  split
  all_goals exact Nat.add_lt_add_left less _

theorem restante_enviada {cliente : Cliente.Estado} {mensaje : Bytes}
    (sends : Cliente.accion cliente = .send mensaje) :
    restante (Cliente.enviada cliente) (.request mensaje) < restante cliente .free := by
  rcases cliente with ⟨punto, guion, respuestas, servidoras, descargas⟩
  cases punto with
  | menu =>
      rcases guion with _ | ⟨operacion, resto⟩
      · cases sends
      · cases operacion <;>
          simp [restante, viaje, Cliente.enviada, Operacion.espera, Nat.mul_add]
  | enviaSolicitud nombre ip puerto => simp [restante, viaje, Cliente.enviada]
  | enviaNombre nombre => simp [restante, viaje, Cliente.enviada]
  | _ => cases sends

theorem restante_recibida {cliente : Cliente.Estado} (mensaje : Bytes)
    (receives : Cliente.accion cliente = .receive) :
    restante (Cliente.recibida cliente mensaje) .free < restante cliente (.reply mensaje) := by
  rcases cliente with ⟨punto, guion, respuestas, servidoras, descargas⟩
  cases punto with
  | recibeListado => simp [restante, viaje, Cliente.recibida, Cliente.completa]
  | recibeAckSubida nombre ip puerto =>
      simp only [Cliente.recibida, Cliente.siAck]
      split
      · simp [restante, viaje]
      · simp only [restante, viaje]
        omega
  | recibeAckFinal nombre ip puerto =>
      simp only [Cliente.recibida, Cliente.lanzaServidora]
      split
      · split <;> simp [restante, viaje, Cliente.completa]
      · simp [restante, viaje]
  | recibeAckConsulta nombre =>
      simp only [Cliente.recibida, Cliente.siAck]
      split
      · simp [restante, viaje]
      · simp only [restante, viaje]
        omega
  | recibeDireccion nombre =>
      simp only [Cliente.recibida, Cliente.lanzaDescarga]
      split <;> simp [restante, viaje, Cliente.completa]
  | menu => cases guion <;> cases receives
  | _ => cases receives

theorem Atiende.taken_of_send {servidor : Servidor.Estado} {cliente : Cliente.Punto}
    {link : Link Bytes} {mensaje : Bytes} (atiende : Atiende servidor.punto cliente link)
    (sends : Servidor.accion servidor = .send mensaje) : link = .taken := by
  rcases servidor with ⟨punto, tabla⟩
  cases atiende <;> first | rfl | cases sends

/-- Every step of a client alone with the server brings its script nearer to the
end. -/
theorem Coherente.restante_lt {red siguiente : Red Unit} {evento : Event Unit}
    (coherente : Coherente red) (paso : Paso red evento siguiente) :
    restante (siguiente.client ()) (siguiente.link ()) <
      restante (red.client ()) (red.link ()) := by
  have setClient : ∀ {estado link},
      restante estado link < restante (red.client ()) (red.link ()) →
      restante ((red.setClient () estado link).client ()) ((red.setClient () estado link).link ()) <
        restante (red.client ()) (red.link ()) := by
    intro estado link less
    have self := red.setClient_self () estado link
    rw [self.1, self.2]
    exact less
  cases paso with
  | clientSend sends free =>
      apply setClient
      rw [free]
      exact restante_enviada sends
  | clientReceive receives arrived =>
      apply setClient
      rw [arrived]
      exact restante_recibida _ receives
  | clientRefused outOfTurn =>
      exact absurd outOfTurn (cliente_not_refused (coherente.ajena_or_atiende _))
  | serverReceive pending operation =>
      rename_i cliente mensaje estado owed
      rw [red.setServer_link_self cliente estado owed .taken, pending]
      apply Sistema.restante_lt
      simp [viaje]
  | serverSend last operation =>
      rename_i cliente mensaje estado owed
      obtain ⟨sends, _, rfl, rfl⟩ := repStep_sent_iff.mp operation
      have taken := (coherente.contestada last sends).1.taken_of_send sends
      rw [red.setServer_link_self cliente _ _ (.reply mensaje), taken]
      apply Sistema.restante_lt
      simp [viaje]
  | serverRefused operation => exact absurd operation coherente.servidor_not_refused

/-! ## A client alone follows the index -/

/-- The exchanges processed so far are a run of the index, and the table holds what
they registered. -/
structure SigueIndice (tabla : Tabla) (serie : Serie Unit) : Prop where
  run : Run PasoIndice (fun _ _ => True) tabla.elements (serie.respuestas ()) serie.tabla.elements
  tabla : serie.tabla = tabla.appendAll (((serie.respuestas ()).map Prod.fst).filterMap subida?)

theorem SigueIndice.step {tabla : Tabla} {serie siguiente : Serie Unit}
    {accion : Unit × Operacion} (sigue : SigueIndice tabla serie)
    (nonempty : serie.tabla.NonemptyLists) (wellFormed : BienFormada accion.2)
    (paso : PasoSerie serie accion siguiente) : SigueIndice tabla siguiente := by
  cases paso with
  | intercambia performed =>
      rename_i cliente operacion respuesta despues
      obtain ⟨indexed, registered⟩ := intercambio_indice nonempty wellFormed performed
      have replies : Function.update serie.respuestas cliente
          (serie.respuestas cliente ++ [(operacion, respuesta)]) () =
          serie.respuestas () ++ [(operacion, respuesta)] := Function.update_self ..
      constructor
      · simp only [replies]
        exact .tail sigue.run trivial indexed
      · simp only [replies]
        rw [List.map_append, List.filterMap_append, OrderedMap.appendAll_append,
          ← sigue.tabla]
        exact registered

/-- What the server has processed for a client stands in its script. -/
theorem mem_guion_of_vista {guion : List Operacion} {servidor : Servidor.Punto}
    {cliente : Cliente.Estado} {link : Link Bytes} {par : Operacion × Bytes}
    (progreso : Progreso guion cliente) (running : ∀ causa, cliente.punto ≠ .terminado causa)
    (member : par ∈ vista servidor cliente link) : par.1 ∈ guion := by
  rw [← progreso running]
  rcases List.mem_append.mp member with recorded | pending
  · exact List.mem_append_left _ (List.mem_append_left _ (List.mem_map_of_mem recorded))
  · exact List.mem_append_left _ (List.mem_append_right _ (enCurso_of_pendiente pending))

/-- Along every run of a client with a well-formed script the system is sane, follows
the index, and has taken no more steps than the script allows. -/
theorem sigueIndice_of_run {guion : List Operacion} {tabla : Tabla}
    (nonempty : tabla.NonemptyLists) (wellFormed : ∀ operacion ∈ guion, BienFormada operacion)
    {eventos : List (Event Unit)} {red : Red Unit}
    (run : Run Paso (fun _ _ => True) (inicio (fun _ => guion) tabla) eventos red) :
    Sana (fun _ => guion) red ∧ SigueIndice tabla (abstraccion red) ∧
      eventos.length ≤ 8 * guion.length := by
  have alone : Compatibles fun _ : Unit => guion := fun _ _ different => absurd rfl different
  have respects : ∀ {source evento next}, Sana (fun _ => guion) source →
      Paso source evento next → Respeta source evento :=
    fun sana => respeta_of_compatibles alone sana.enGuion
  have step : ∀ {source evento next},
      (Sana (fun _ => guion) source ∧ SigueIndice tabla (abstraccion source)) → True →
      Paso source evento next →
      Sana (fun _ => guion) next ∧ SigueIndice tabla (abstraccion next) := by
    intro source evento next ⟨sana, sigue⟩ _ paso
    have respeta := respects sana paso
    have later := sana.step (fun _ => wellFormed) respeta paso
    refine ⟨later, ?_⟩
    rcases sana.enGuion.1.refina respeta paso with same | ⟨accion, exchanged⟩
    · rw [same]
      exact sigue
    · obtain ⟨respuesta, _, replies⟩ := exchanged.respuestas_iff
      have processed := (replies accion.1 (accion.2, respuesta)).mpr (.inr ⟨rfl, rfl⟩)
      have inScript : accion.2 ∈ guion :=
        mem_guion_of_vista (later.enGuion.2 accion.1) (later.clientes accion.1) processed
      exact sigue.step sana.listas (wellFormed accion.2 inScript) exchanged
  have initial : Sana (fun _ => guion) (inicio (fun _ : Unit => guion) tabla) ∧
      SigueIndice tabla (abstraccion (inicio (fun _ : Unit => guion) tabla)) :=
    ⟨sana_inicio _ nonempty, Run.refl, rfl⟩
  have invariant := run.invariant
    (fun state => Sana (fun _ => guion) state ∧ SigueIndice tabla (abstraccion state)) initial step
  have bounded := run.length_add_le
    (fun state => restante (state.client ()) (state.link ()))
    (fun state => Sana (fun _ => guion) state ∧ SigueIndice tabla (abstraccion state)) initial step
    fun holds _ paso => holds.1.enGuion.1.restante_lt paso
  exact ⟨invariant.1, invariant.2, Nat.le_trans (Nat.le_add_right _ _) bounded⟩

/-- A client alone with the server stays in step with it.  What it has read, and what
the server has processed for it, are the replies of the index; the table is what the
index holds.  Every run goes on until the script is complete, and ends. -/
theorem cliente_unico_sigue_el_indice {guion : List Operacion} {tabla : Tabla}
    (nonempty : tabla.NonemptyLists) (wellFormed : ∀ operacion ∈ guion, BienFormada operacion)
    {eventos : List (Event Unit)} {red : Red Unit}
    (run : Run Paso (fun _ _ => True) (inicio (fun _ => guion) tabla) eventos red) :
    EnSincronia red ∧
    Run PasoIndice (fun _ _ => True) tabla.elements
      (vista red.server.punto (red.client ()) (red.link ())) red.server.tabla.elements ∧
    (Terminada red ∨ ∃ evento siguiente, Paso red evento siguiente) ∧
    eventos.length ≤ 8 * guion.length ∧
    (Terminada red →
      (red.client ()).respuestas.map Prod.fst = guion ∧
      Run PasoIndice (fun _ _ => True) tabla.elements (red.client ()).respuestas
        red.server.tabla.elements ∧
      red.server.tabla = tabla.appendAll (guion.filterMap subida?)) ∧
    (∀ a b c d puerto, PuertoDecimal puerto →
      direccionTexto (direccionDe (dottedQuad a b c d) puerto) =
        ascii "tcp://" ++ dottedQuad a b c d ++ ascii ":" ++ decimal (numValue puerto)) ∧
    ∀ direccion, direccionTexto direccion ≠ ascii "EMPTY" := by
  obtain ⟨sana, sigue, bounded⟩ := sigueIndice_of_run nonempty wellFormed run
  refine ⟨sana.enSincronia, sigue.run, sana.terminada_or_step, bounded, ?_,
    fun a b c d puerto decimalPort => direccionTexto_direccionDe a b c d decimalPort,
    direccionTexto_ne_empty⟩
  intro finished
  obtain ⟨menu, done, free⟩ := finished.clientes ()
  have read : vista red.server.punto (red.client ()) (red.link ()) =
      (red.client ()).respuestas := by
    rw [free, vista, pendiente_free, List.append_nil]
  have whole : (red.client ()).respuestas.map Prod.fst = guion := by
    have complete := sana.enGuion.2 () (sana.clientes ())
    rw [menu, done, List.append_nil] at complete
    exact (List.append_nil _).symm.trans complete
  refine ⟨whole, ?_, ?_⟩
  · rw [← read]
    exact sigue.run
  · rw [← whole, ← read]
    exact sigue.tabla

/-- An upload and a lookup on an empty store. -/
theorem cliente_unico_sube_y_consulta :
    ∃ eventos red, Run Paso (fun _ _ => True)
        (inicio (fun _ : Unit => [.subir (ascii "f") (ascii "10.0.0.1") (ascii "80"),
          .descargar (ascii "f")]) OrderedMap.empty) eventos red ∧
      (red.client ()).respuestas.map Prod.snd = [ascii "ACK", ascii "tcp://10.0.0.1:80"] ∧
      EnSincronia red ∧
      red.server.tabla = OrderedMap.empty.appendAll
        [(ascii "f", direccionDe (ascii "10.0.0.1") (ascii "80"))] := by
  have executed : ((inicio (fun _ : Unit => [.subir (ascii "f") (ascii "10.0.0.1") (ascii "80"),
      .descargar (ascii "f")]) OrderedMap.empty).exec Cliente.proceso Servidor.proceso
        (List.replicate 4 [Event.clientSend (), .serverReceive (), .serverSend (),
          .clientReceive ()]).flatten).map
      (fun red => (((red.client ()).punto, (red.client ()).guion, red.link ()), red.server.punto,
        (red.client ()).respuestas.map Prod.snd)) =
      some ((.menu, [], .free), .esperaOpcion, [ascii "ACK", ascii "tcp://10.0.0.1:80"]) := by
    decide +kernel
  obtain ⟨red, run, observed⟩ := Option.map_eq_some_iff.mp executed
  simp only [Prod.mk.injEq] at observed
  obtain ⟨⟨menu, done, free⟩, head, replies⟩ := observed
  have wellFormed : ∀ operacion ∈ [Operacion.subir (ascii "f") (ascii "10.0.0.1") (ascii "80"),
      .descargar (ascii "f")], BienFormada operacion := by
    intro operacion member
    rcases List.mem_pair.mp member with rfl | rfl
    · exact ⟨by decide, by decide, by decide, List.all_eq_true.mp rfl, by decide⟩
    · trivial
  obtain ⟨inStep, _, _, _, complete, _⟩ :=
    cliente_unico_sigue_el_indice OrderedMap.nonemptyLists_empty wellFormed
      (Network.run_of_exec_any run)
  exact ⟨_, red, Network.run_of_exec_any run, replies, inStep,
    (complete ⟨fun _ => ⟨menu, done, free⟩, head⟩).2.2⟩

end DescargaP2P.Sistema
