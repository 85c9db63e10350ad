import DescargaP2P.Sistema.Serie

/-!
# Isolation of sessions on the shared socket

The server takes its second receive from whoever has a request pending, so an
exchange of two requests is isolated only if nobody else can have one.  All runs
are isolated and serial exactly when no client with an upload or a download in
its script shares the server with a client that has any operation.
-/

namespace DescargaP2P.Sistema

open DescargaP2P.Almacen
open DescargaP2P.Cliente (Operacion Progreso)
open DescargaP2P.Cpp
open DescargaP2P.ReqRep
open DescargaP2P.Text
open DescargaP2P.Transition

universe u

variable {ι : Type u}

/-- The request of a client is taken as what it is: the second request of its own
exchange, or the option that opens one. -/
def EnSuTurno (red : Red ι) (cliente : ι) : Prop :=
  match (red.client cliente).punto with
  | .recibeAckFinal .. => red.server.punto = .esperaRegistro ∧ red.last = some cliente
  | .recibeDireccion _ => red.server.punto = .esperaNombre ∧ red.last = some cliente
  | _ => red.server.punto = .esperaOpcion

/-- An operation whose exchange has two requests. -/
def DosPasos (operacion : Operacion) : Prop := operacion ≠ .listar

theorem Ajena.exists_enCurso {cliente : Cliente.Punto} {mensaje : Bytes}
    (ajena : Ajena cliente (.request mensaje)) : ∃ operacion, operacion ∈ cliente.enCurso := by
  cases ajena
  all_goals exact ⟨_, List.mem_cons_self⟩

/-- A server that receives in the middle of an exchange is in one of two requests. -/
theorem Atiende.exists_dosPasos {servidor : Servidor.Estado} {cliente : Cliente.Punto}
    {link : Link Bytes} (atiende : Atiende servidor.punto cliente link)
    (receives : Servidor.accion servidor = .receive) :
    ∃ operacion ∈ cliente.enCurso, DosPasos operacion := by
  rcases servidor with ⟨punto, tabla⟩
  cases atiende
  all_goals first | cases receives; done | simp [Cliente.Punto.enCurso, DosPasos]

/-- A request taken as `Respeta` asks is taken as what it is. -/
theorem Coherente.enSuTurno {red : Red ι} (coherente : Coherente red) {cliente : ι}
    {mensaje : Bytes} (respeta : Respeta red (.serverReceive cliente))
    (pending : red.link cliente = .request mensaje) : EnSuTurno red cliente := by
  obtain ⟨inside, _⟩ := coherente.pedida respeta pending
  unfold EnSuTurno
  rcases inside with ⟨head, ajena⟩ | inside
  · generalize (red.client cliente).punto = punto at ajena
    cases ajena <;> exact head
  · have notHead : red.server.punto ≠ .esperaOpcion := by
      intro head
      rw [head] at inside
      cases inside
    have last := respeta.resolve_left notHead
    generalize (red.client cliente).punto = punto at inside
    generalize red.server.punto = site at inside
    cases inside
    · exact ⟨rfl, last⟩
    · exact ⟨rfl, last⟩

/-- The operation a client is in stands in its script. -/
theorem mem_of_enCurso {guion : List Operacion} {cliente : Cliente.Estado}
    {operacion : Operacion} (progreso : Progreso guion cliente)
    (inside : operacion ∈ cliente.punto.enCurso) : operacion ∈ guion := by
  have running : ∀ causa, cliente.punto ≠ .terminado causa := by
    intro causa ended
    rw [ended] at inside
    cases inside
  rw [← progreso running]
  exact List.mem_append_left _ (List.mem_append_right _ inside)

/-- Clients with an operation of two requests are alone. -/
def Compatibles (guiones : ι → List Operacion) : Prop :=
  ∀ cliente otro, cliente ≠ otro → (∃ operacion ∈ guiones cliente, DosPasos operacion) →
    guiones otro = []

/-- Coherent, with every client at some point of its script. -/
def EnGuion (guiones : ι → List Operacion) (red : Red ι) : Prop :=
  Coherente red ∧ ∀ cliente, Progreso (guiones cliente) (red.client cliente)

theorem enGuion_inicio (guiones : ι → List Operacion) (tabla : Tabla) :
    EnGuion guiones (inicio guiones tabla) :=
  ⟨coherente_inicio guiones tabla, fun cliente => Cliente.progreso_inicial (guiones cliente)⟩

variable [DecidableEq ι]

/-- Whatever request the server takes next, it takes it as what it is. -/
def Aislada (red : Red ι) : Prop :=
  ∀ cliente siguiente, Paso red (.serverReceive cliente) siguiente → EnSuTurno red cliente

/-! ## Scripts that do not interfere -/

theorem EnGuion.step {guiones : ι → List Operacion} {red siguiente : Red ι} {evento : Event ι}
    (enGuion : EnGuion guiones red) (respeta : Respeta red evento)
    (paso : Paso red evento siguiente) : EnGuion guiones siguiente := by
  constructor
  · exact enGuion.1.step respeta paso
  · exact Step.forall_client (fun cliente => Progreso (guiones cliente))
      (fun sends progreso => progreso.enviada sends)
      (fun receives _ progreso => progreso.recibida receives)
      (fun _ _ running => absurd rfl (running .socketError)) paso enGuion.2

/-- Only the client of the exchange can have a request pending. -/
theorem respeta_of_compatibles {guiones : ι → List Operacion} (compatibles : Compatibles guiones)
    {red siguiente : Red ι} {evento : Event ι} (enGuion : EnGuion guiones red)
    (paso : Paso red evento siguiente) : Respeta red evento := by
  cases paso with
  | serverReceive pending operation =>
      rename_i cliente mensaje estado owed
      obtain ⟨receives, _⟩ := repStep_received_iff.mp operation
      rcases enGuion.1.sesion with ⟨head, _⟩ | ⟨atendido, last, inside, outside⟩
      · exact .inl head
      · right
        by_cases same : cliente = atendido
        · rw [same]
          exact last
        · obtain ⟨operacion, during, twoSteps⟩ := inside.exists_dosPasos receives
          have nothing := compatibles atendido cliente (Ne.symm same)
            ⟨operacion, mem_of_enCurso (enGuion.2 atendido) during, twoSteps⟩
          have ajena := outside cliente same
          rw [pending] at ajena
          obtain ⟨asked, listed⟩ := ajena.exists_enCurso
          have inScript := mem_of_enCurso (enGuion.2 cliente) listed
          rw [nothing] at inScript
          cases inScript
  | _ => trivial

/-- With compatible scripts every reachable state is isolated and serial. -/
theorem aislada_of_compatibles {guiones : ι → List Operacion} (compatibles : Compatibles guiones)
    {tabla : Tabla} {red : Red ι} (reachable : Reachable Paso (inicio guiones tabla) red) :
    Aislada red ∧ Reachable PasoSerie ⟨tabla, fun _ => []⟩ (abstraccion red) := by
  rcases reachable with ⟨eventos, run⟩
  obtain ⟨respectful, enGuion⟩ := run.restrict (EnGuion guiones) (enGuion_inicio guiones tabla)
    EnGuion.step (respeta_of_compatibles compatibles)
  constructor
  · intro cliente siguiente paso
    have respeta := respeta_of_compatibles compatibles enGuion paso
    cases paso with
    | serverReceive pending _ => exact enGuion.1.enSuTurno respeta pending
  · exact (serializable_of_respeta respectful).2

/-! ## Scripts that interfere -/

/-- The first reply of an exchange. -/
def acuse (tabla : Tabla) : Operacion → Bytes
  | .listar => Servidor.listado tabla
  | .subir .. | .descargar _ => Servidor.ack

/-- Where the server is after the first reply of an exchange. -/
def sitio : Operacion → Servidor.Punto
  | .listar => .esperaOpcion
  | .subir .. => .esperaRegistro
  | .descargar _ => .esperaNombre

theorem recibida_opcion {servidor : Servidor.Estado} (head : servidor.punto = .esperaOpcion)
    (operacion : Operacion) :
    Servidor.accion (Servidor.recibida servidor (decimal operacion.opcion)) =
        .send (acuse servidor.tabla operacion) ∧
      Servidor.enviada (Servidor.recibida servidor (decimal operacion.opcion)) =
        ⟨sitio operacion, servidor.tabla⟩ := by
  have read := stoi_opcion operacion
  have received : Servidor.recibida servidor (decimal operacion.opcion) =
      { servidor with punto := Servidor.trasOpcion servidor.tabla operacion.opcion } := by
    simp only [Servidor.recibida, head, read]
  rw [received]
  cases operacion <;> exact ⟨rfl, rfl⟩

/-- A client at its menu, with the given script left, and a server at the head of
its loop. -/
structure EnMenu (red : Red ι) (cliente : ι) (guion : List Operacion) : Prop where
  menu : (red.client cliente).punto = .menu
  guion : (red.client cliente).guion = guion
  free : red.link cliente = .free
  head : red.server.punto = .esperaOpcion
  settled : red.owed = false

omit [DecidableEq ι] in
theorem enMenu_inicio (guiones : ι → List Operacion) (tabla : Tabla) (cliente : ι) :
    EnMenu (inicio guiones tabla) cliente (guiones cliente) :=
  ⟨rfl, rfl, rfl, rfl, rfl⟩

/-- No other client has moved. -/
def SoloCambia (red siguiente : Red ι) (cliente : ι) : Prop :=
  ∀ otro, otro ≠ cliente →
    siguiente.client otro = red.client otro ∧ siguiente.link otro = red.link otro

/-- A client at its menu can have its option answered while nobody else moves. -/
theorem EnMenu.ronda {red : Red ι} {cliente : ι} {operacion : Operacion}
    {resto : List Operacion} (enMenu : EnMenu red cliente (operacion :: resto)) :
    ∃ siguiente, Reachable Paso red siguiente ∧
      siguiente.client cliente =
        { red.client cliente with punto := operacion.espera, guion := resto } ∧
      siguiente.link cliente = .reply (acuse red.server.tabla operacion) ∧
      siguiente.server = ⟨sitio operacion, red.server.tabla⟩ ∧ siguiente.owed = false ∧
      SoloCambia red siguiente cliente := by
  have sends : Cliente.accion (red.client cliente) = .send (decimal operacion.opcion) := by
    simp only [Cliente.accion, enMenu.menu, enMenu.guion]
  have sent : Cliente.enviada (red.client cliente) =
      { red.client cliente with punto := operacion.espera, guion := resto } := by
    simp only [Cliente.enviada, enMenu.menu, enMenu.guion]
  have waits : Servidor.accion red.server = .receive := by
    simp only [Servidor.accion, enMenu.head]
  obtain ⟨replies, replied⟩ := recibida_opcion enMenu.head operacion
  let pedida := red.setClient cliente (Cliente.enviada (red.client cliente))
    (.request (decimal operacion.opcion))
  let tomada := pedida.setServer cliente
    (Servidor.recibida red.server (decimal operacion.opcion)) true .taken
  let contestada := tomada.setServer cliente (Servidor.enviada tomada.server) false
    (.reply (acuse red.server.tabla operacion))
  have self := red.setClient_self cliente (Cliente.enviada (red.client cliente))
    (.request (decimal operacion.opcion))
  have asked : Paso red (.clientSend cliente) pedida := .clientSend sends enMenu.free
  have taken : Paso pedida (.serverReceive cliente) tomada :=
    .serverReceive self.2 (repStep_received_iff.mpr ⟨waits, enMenu.settled, rfl, rfl, rfl⟩)
  have answered : Paso tomada (.serverSend cliente) contestada :=
    .serverSend rfl (repStep_sent_iff.mpr ⟨replies, rfl, rfl, rfl⟩)
  refine ⟨contestada, ((Reachable.single asked).tail taken).tail answered, self.1.trans sent,
    tomada.setServer_link_self .., replied, rfl, ?_⟩
  intro otro different
  have other := red.setClient_other different (Cliente.enviada (red.client cliente))
    (.request (decimal operacion.opcion))
  constructor
  · exact other.1
  · calc
      contestada.link otro = tomada.link otro := tomada.setServer_link_other different ..
      _ = pedida.link otro := pedida.setServer_link_other different ..
      _ = red.link otro := other.2

/-- A listing takes the client back to its menu. -/
theorem EnMenu.ronda_listado {red : Red ι} {cliente : ι} {resto : List Operacion}
    (enMenu : EnMenu red cliente (.listar :: resto)) :
    ∃ siguiente, Reachable Paso red siguiente ∧ EnMenu siguiente cliente resto ∧
      SoloCambia red siguiente cliente := by
  obtain ⟨media, reached, client, link, server, settled, same⟩ := enMenu.ronda
  have receives : Cliente.accion (media.client cliente) = .receive := by
    rw [client]
    rfl
  let leida := media.setClient cliente
    (Cliente.recibida (media.client cliente) (acuse red.server.tabla .listar)) .free
  have read : Paso media (.clientReceive cliente) leida := .clientReceive receives link
  have self := media.setClient_self cliente
    (Cliente.recibida (media.client cliente) (acuse red.server.tabla .listar)) .free
  have back : leida.client cliente = Cliente.recibida (media.client cliente)
      (acuse red.server.tabla .listar) := self.1
  refine ⟨leida, reached.tail read, ⟨?_, ?_, self.2, ?_, settled⟩, ?_⟩
  · rw [back, client]
    rfl
  · rw [back, client]
    rfl
  · exact congrArg Servidor.Estado.punto server
  · intro otro different
    have other := media.setClient_other different
      (Cliente.recibida (media.client cliente) (acuse red.server.tabla .listar)) .free
    exact ⟨other.1.trans (same otro different).1, other.2.trans (same otro different).2⟩

/-- A client can complete the listings at the head of its script alone. -/
theorem EnMenu.listados {red : Red ι} {cliente : ι} {resto : List Operacion}
    (listados : List Operacion) (onlyListings : ∀ operacion ∈ listados, operacion = .listar)
    (enMenu : EnMenu red cliente (listados ++ resto)) :
    ∃ siguiente, Reachable Paso red siguiente ∧ EnMenu siguiente cliente resto ∧
      SoloCambia red siguiente cliente := by
  induction listados generalizing red with
  | nil => exact ⟨red, Reachable.refl _ _, enMenu, fun _ _ => ⟨rfl, rfl⟩⟩
  | cons operacion otros ih =>
      obtain ⟨rfl, otherListings⟩ := List.forall_mem_cons.mp onlyListings
      obtain ⟨media, first, atMenu, sameFirst⟩ := enMenu.ronda_listado
      obtain ⟨siguiente, later, result, sameLater⟩ := ih otherListings atMenu
      refine ⟨siguiente, first.trans later, result, ?_⟩
      intro otro different
      rw [(sameLater otro different).1, (sameLater otro different).2]
      exact sameFirst otro different

omit [DecidableEq ι] in
/-- Only listings stand before the first operation of two requests. -/
theorem exists_primera {guion : List Operacion}
    (twoSteps : ∃ operacion ∈ guion, DosPasos operacion) :
    ∃ listados operacion resto, guion = listados ++ operacion :: resto ∧
      (∀ previa ∈ listados, previa = .listar) ∧ DosPasos operacion := by
  induction guion with
  | nil => simp at twoSteps
  | cons primera otras ih =>
      by_cases listing : primera = .listar
      · subst listing
        have later : ∃ operacion ∈ otras, DosPasos operacion := by
          simpa [DosPasos] using twoSteps
        obtain ⟨listados, operacion, resto, cut, onlyListings, isTwoSteps⟩ := ih later
        refine ⟨.listar :: listados, operacion, resto, ?_, ?_, isTwoSteps⟩
        · rw [cut, List.cons_append]
        · exact List.forall_mem_cons.mpr ⟨rfl, onlyListings⟩
      · exact ⟨[], primera, otras, rfl, by simp, listing⟩

/-- While one client is between the two requests of an exchange, the server can
take the option of another one. -/
theorem robo_posible {guiones : ι → List Operacion} (tabla : Tabla) {cliente otro : ι}
    (different : cliente ≠ otro) (twoSteps : ∃ operacion ∈ guiones cliente, DosPasos operacion)
    (busy : guiones otro ≠ []) :
    ∃ red, Reachable Paso (inicio guiones tabla) red ∧ ¬ Aislada red := by
  obtain ⟨listados, operacion, resto, script, onlyListings, isTwoSteps⟩ :=
    exists_primera twoSteps
  have start := enMenu_inicio guiones tabla cliente
  rw [script] at start
  obtain ⟨antes, before, atMenu, sameBefore⟩ := start.listados listados onlyListings
  obtain ⟨media, during, client, link, server, settled, same⟩ := atMenu.ronda
  obtain ⟨ajena, restoAjeno, otherScript⟩ := List.exists_cons_of_ne_nil busy
  have otherClient : media.client otro = Cliente.inicial (guiones otro) := by
    rw [(same otro different.symm).1, (sameBefore otro different.symm).1]
    rfl
  have otherLink : media.link otro = .free := by
    rw [(same otro different.symm).2, (sameBefore otro different.symm).2]
    rfl
  have otherSends : Cliente.accion (media.client otro) = .send (decimal ajena.opcion) := by
    rw [otherClient, otherScript]
    rfl
  let pedida := media.setClient otro (Cliente.enviada (media.client otro))
    (.request (decimal ajena.opcion))
  have asked : Paso media (.clientSend otro) pedida := .clientSend otherSends otherLink
  have self := media.setClient_self otro (Cliente.enviada (media.client otro))
    (.request (decimal ajena.opcion))
  have site : pedida.server = ⟨sitio operacion, antes.server.tabla⟩ := server
  have waits : Servidor.accion pedida.server = .receive ∧ pedida.server.punto ≠ .esperaOpcion := by
    rw [site]
    cases operacion with
    | listar => exact absurd rfl isTwoSteps
    | subir nombre ip puerto => exact ⟨rfl, nofun⟩
    | descargar nombre => exact ⟨rfl, nofun⟩
  have point : (pedida.client otro).punto = ajena.espera := by
    rw [self.1, otherClient, otherScript]
    rfl
  refine ⟨pedida, (before.trans during).tail asked, ?_⟩
  intro isolated
  have stolen := isolated otro _ (.serverReceive self.2
    (repStep_received_iff.mpr ⟨waits.1, settled, rfl, rfl, rfl⟩))
  unfold EnSuTurno at stolen
  rw [point] at stolen
  cases ajena <;> exact waits.2 stolen

/-- All runs are isolated and serial exactly when the scripts are compatible. -/
theorem sesiones_aisladas_iff (guiones : ι → List Operacion) (tabla : Tabla) :
    (∀ red, Reachable Paso (inicio guiones tabla) red →
      Aislada red ∧ Reachable PasoSerie ⟨tabla, fun _ => []⟩ (abstraccion red)) ↔
    ∀ cliente otro, cliente ≠ otro → (∃ operacion ∈ guiones cliente, DosPasos operacion) →
      guiones otro = [] := by
  constructor
  · intro isolated cliente otro different twoSteps
    by_contra busy
    obtain ⟨red, reached, stolen⟩ := robo_posible tabla different twoSteps busy
    exact stolen (isolated red reached).1
  · intro compatibles red reached
    exact aislada_of_compatibles compatibles reached

/-- Two clients that download: the option of the second one is looked up as the
name of the first one, whose name is then read as an option. -/
theorem descargas_se_mezclan :
    ∃ red siguiente,
      Reachable Paso (inicio (fun _ : Bool => [.descargar (ascii "f")])
        Collections.OrderedMap.empty) red ∧
      (red.client true).punto = .recibeDireccion (ascii "f") ∧
      Paso red (.serverReceive true) siguiente ∧ ¬ EnSuTurno red true ∧
      siguiente.server.punto = .terminado (.uncaught .invalidArgument) := by
  have executed : (((inicio (fun _ : Bool => [.descargar (ascii "f")])
      Collections.OrderedMap.empty).exec Cliente.proceso Servidor.proceso
        [.clientSend true, .serverReceive true, .serverSend true, .clientSend false,
          .serverReceive false, .serverSend false, .clientReceive true, .clientSend true]).bind
      fun red => (red.next Cliente.proceso Servidor.proceso (.serverReceive true)).map
        fun siguiente => ((red.client true).punto, red.server.punto, siguiente.server.punto)) =
      some (.recibeDireccion (ascii "f"), .esperaOpcion,
        .terminado (.uncaught .invalidArgument)) := by
    decide +kernel
  obtain ⟨red, run, rest⟩ := Option.bind_eq_some_iff.mp executed
  obtain ⟨siguiente, taken, observed⟩ := Option.map_eq_some_iff.mp rest
  simp only [Prod.mk.injEq] at observed
  refine ⟨red, siguiente, Network.reachable_of_exec run, observed.1,
    Network.step_of_next taken, ?_, observed.2.2⟩
  intro inTurn
  rw [EnSuTurno, observed.1] at inTurn
  cases observed.2.1.symm.trans inTurn.1

end DescargaP2P.Sistema
