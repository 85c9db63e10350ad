import DescargaP2P.Servidor.Bucle

/-!
# Shutdown of the server

`main` installs `sigint_handler`, loads the store and starts the thread of the
HTTP server.  `run` of that server adds SIGINT to a signal set, which replaces the
handler of the process; its own handler stops the server without saving, and the
destructor of the set leaves the default disposition.  A SIGINT is therefore
followed by a save only while the thread has not got that far.

The steps of `main`, of the HTTP thread and of the handlers interleave freely; it
is left open which thread takes a signal.  `guardadas` records the tables whose
text `salvar_datos` wrote in full.
-/

namespace DescargaP2P.Servidor.Apagado

open DescargaP2P.Almacen
open DescargaP2P.Collections
open DescargaP2P.Text
open DescargaP2P.Transition

/-- Dispositions of SIGINT. -/
inductive Manejador
  | sigintHandler
  | asio
  | defecto
  deriving DecidableEq, Repr

/-- Where the thread of the HTTP server is. -/
inductive FaseCrow
  /-- `main` has not started the thread. -/
  | noCreada
  /-- The thread has not reached `signal_add(SIGINT)` in `run`. -/
  | arrancando
  /-- The signal set is in force. -/
  | sirviendo
  /-- `Server::stop` has been called. -/
  | parada
  /-- `run` has returned and the application has been destroyed. -/
  | acabada
  deriving DecidableEq, Repr

/-- The server process from `recuperar_datos` on. -/
structure Estado where
  tabla : Tabla
  backup : Option Bytes
  guardadas : List Tabla
  manejador : Manejador
  crow : FaseCrow
  /-- The signal set has a signal to deliver. -/
  senalCrow : Bool
  /-- A thread is in `sigint_handler`, at `servidor_crow.join()`. -/
  enJoin : Bool
  fin : Bool
  deriving DecidableEq

/-- The process after loading a backup file. -/
def inicio (archivo : Option Bytes) : Estado where
  tabla := arranque archivo
  backup := archivo
  guardadas := []
  manejador := .sigintHandler
  crow := .noCreada
  senalCrow := false
  enJoin := false
  fin := false

/-- The call of `salvar_datos` in `sigint_handler`. -/
def guarda (salida : Salida) (estado : Estado) : Estado :=
  { estado with
    backup := (salvarDatos salida estado.backup estado.tabla).2
    guardadas :=
      if salvarDatos salida none estado.tabla = (true, some (textoDatos estado.tabla)) then
        estado.guardadas ++ [estado.tabla]
      else estado.guardadas }

/-- Arrival of a SIGINT.  `sigint_handler` saves before it blocks. -/
def recibeSigint (salida : Salida) (estado : Estado) : Estado :=
  match estado.manejador with
  | .sigintHandler => { guarda salida estado with enJoin := true }
  | .asio => { estado with senalCrow := true }
  | .defecto => { estado with fin := true }

/-- Steps of the process. -/
inductive Evento
  | registra (solicitud : Bytes)
  | creaHebra
  | registraSenales
  | sigint
  | paraCrow
  | acabaCrow
  | recvInterrumpido
  | joinFalla
  | sale
  | fallo
  deriving DecidableEq

/-- One step, while the process has not ended. -/
inductive Paso (salida : Salida) : Labelled Estado Evento
  /-- A registration by either front end. -/
  | registra {estado : Estado} {solicitud : Bytes} {resultado : Bool} {tabla : Tabla} :
      estado.fin = false → estado.crow ≠ .noCreada →
      agregarCliente estado.tabla solicitud = some (resultado, tabla) →
      Paso salida estado (.registra solicitud) { estado with tabla := tabla }
  /-- `servidor_crow = std::thread(servidor_crow_handler)`. -/
  | creaHebra {estado : Estado} :
      estado.fin = false → estado.crow = .noCreada →
      Paso salida estado .creaHebra { estado with crow := .arrancando }
  /-- `signal_add(SIGINT)`: `sigaction` without chaining. -/
  | registraSenales {estado : Estado} :
      estado.fin = false → estado.crow = .arrancando →
      Paso salida estado .registraSenales
        { estado with crow := .sirviendo, manejador := .asio }
  | sigint {estado : Estado} :
      estado.fin = false → Paso salida estado .sigint (recibeSigint salida estado)
  /-- The wait handler of the signal set calls `stop`. -/
  | paraCrow {estado : Estado} :
      estado.fin = false → estado.crow = .sirviendo → estado.senalCrow = true →
      Paso salida estado .paraCrow { estado with crow := .parada, senalCrow := false }
  /-- The destructor of the signal set restores the default disposition. -/
  | acabaCrow {estado : Estado} :
      estado.fin = false → estado.crow = .parada →
      Paso salida estado .acabaCrow { estado with crow := .acabada, manejador := .defecto }
  /-- The handler of the signal set interrupts `socket.recv`, which throws. -/
  | recvInterrumpido {estado : Estado} :
      estado.fin = false → estado.senalCrow = true →
      Paso salida estado .recvInterrumpido { estado with fin := true }
  /-- `join` throws if there is no thread to join or it is the thread itself. -/
  | joinFalla {estado : Estado} :
      estado.fin = false → estado.enJoin = true →
      Paso salida estado .joinFalla { estado with fin := true }
  /-- `exit(signal)` after the thread has been joined. -/
  | sale {estado : Estado} :
      estado.fin = false → estado.enJoin = true → estado.crow = .acabada →
      Paso salida estado .sale { estado with fin := true }
  /-- The process ends for a reason that is no signal. -/
  | fallo {estado : Estado} :
      estado.fin = false → Paso salida estado .fallo { estado with fin := true }

/-- The process has ended or its HTTP server has stopped. -/
def Parado (estado : Estado) : Prop :=
  estado.fin = true ∨ estado.crow = .parada ∨ estado.crow = .acabada

instance (estado : Estado) : Decidable (Parado estado) := inferInstanceAs (Decidable (_ ∨ _))

/-- The table held when a SIGINT arrives has been saved in full by the time the
process stops serving or ends, whatever happens after the signal. -/
def Duradero (salida : Salida) (estado : Estado) : Prop :=
  ∀ despues, Reachable (Paso salida) (recibeSigint salida estado) despues → Parado despues →
    estado.tabla ∈ despues.guardadas

/-! ## What a step changes -/

/-- No step forgets a saved table. -/
theorem guardadas_paso {salida : Salida} {estado siguiente : Estado} {evento : Evento}
    (paso : Paso salida estado evento siguiente) {tabla : Tabla}
    (saved : tabla ∈ estado.guardadas) : tabla ∈ siguiente.guardadas := by
  cases paso with
  | sigint =>
      unfold recibeSigint
      split
      · simp only [guarda]
        split
        · exact List.mem_append_left _ saved
        · exact saved
      · exact saved
      · exact saved
  | _ => exact saved

theorem guardadas_reachable {salida : Salida} {estado despues : Estado}
    (reachable : Reachable (Paso salida) estado despues) {tabla : Tabla}
    (saved : tabla ∈ estado.guardadas) : tabla ∈ despues.guardadas :=
  reachable.invariant (fun later => tabla ∈ later.guardadas) saved
    fun before step => guardadas_paso step before

/-! ## Which handler is in force -/

/-- The handler in force depends on how far the HTTP thread has got. -/
def manejadorDe : FaseCrow → Manejador
  | .noCreada | .arrancando => .sigintHandler
  | .sirviendo | .parada => .asio
  | .acabada => .defecto

theorem manejador_paso {salida : Salida} {estado siguiente : Estado} {evento : Evento}
    (inForce : estado.manejador = manejadorDe estado.crow)
    (paso : Paso salida estado evento siguiente) :
    siguiente.manejador = manejadorDe siguiente.crow := by
  cases paso with
  | creaHebra _ phase =>
      rw [phase] at inForce
      exact inForce
  | paraCrow _ phase _ =>
      rw [phase] at inForce
      exact inForce
  | registraSenales => rfl
  | acabaCrow => rfl
  | sigint =>
      unfold recibeSigint
      split
      · exact inForce
      · exact inForce
      · exact inForce
  | _ => exact inForce

theorem manejador_reachable {salida : Salida} {archivo : Option Bytes} {estado : Estado}
    (reachable : Reachable (Paso salida) (inicio archivo) estado) :
    estado.manejador = manejadorDe estado.crow :=
  reachable.invariant (fun later => later.manejador = manejadorDe later.crow) rfl manejador_paso

/-- While `sigint_handler` is in force, a SIGINT saves a table that fits. -/
theorem mem_guardadas_recibeSigint {salida : Salida} {estado : Estado}
    (inForce : estado.manejador = .sigintHandler)
    (enough : salida.Basta (textoDatos estado.tabla)) :
    estado.tabla ∈ (recibeSigint salida estado).guardadas := by
  have written := (salvarDatos_eq_iff salida estado.tabla).mpr enough
  simp only [recibeSigint, inForce, guarda, if_pos written]
  exact List.mem_append_right _ List.mem_cons_self

/-- Otherwise it saves nothing. -/
theorem guardadas_recibeSigint {salida : Salida} {estado : Estado}
    (notSaved : ¬ (estado.manejador = .sigintHandler ∧
      salida.Basta (textoDatos estado.tabla))) :
    (recibeSigint salida estado).guardadas = estado.guardadas := by
  unfold recibeSigint
  cases inForce : estado.manejador with
  | sigintHandler =>
      have notWritten : ¬ salvarDatos salida none estado.tabla =
          (true, some (textoDatos estado.tabla)) :=
        fun written => notSaved ⟨inForce, (salvarDatos_eq_iff salida estado.tabla).mp written⟩
      exact if_neg notWritten
  | asio => rfl
  | defecto => rfl

/-- After a SIGINT the service can always end with no further save. -/
theorem para_tras_sigint {salida : Salida} {estado : Estado} (alive : estado.fin = false)
    (inForce : estado.manejador = manejadorDe estado.crow) :
    ∃ despues, Reachable (Paso salida) (recibeSigint salida estado) despues ∧
      Parado despues ∧ despues.guardadas = (recibeSigint salida estado).guardadas := by
  have joinFails : estado.manejador = .sigintHandler →
      ∃ despues, Reachable (Paso salida) (recibeSigint salida estado) despues ∧
        Parado despues ∧ despues.guardadas = (recibeSigint salida estado).guardadas := by
    intro handler
    have step : Paso salida (recibeSigint salida estado) .joinFalla
        { recibeSigint salida estado with fin := true } := by
      apply Paso.joinFalla
      · simp only [recibeSigint, handler, guarda, alive]
      · simp only [recibeSigint, handler]
    exact ⟨_, Reachable.single step, .inl rfl, rfl⟩
  cases phase : estado.crow with
  | noCreada => exact joinFails (by rw [inForce, phase]; rfl)
  | arrancando => exact joinFails (by rw [inForce, phase]; rfl)
  | sirviendo =>
      rw [phase] at inForce
      have signalled : recibeSigint salida estado = { estado with senalCrow := true } := by
        simp only [recibeSigint, inForce, manejadorDe]
      have step : Paso salida (recibeSigint salida estado) .paraCrow
          { recibeSigint salida estado with crow := .parada, senalCrow := false } := by
        rw [signalled]
        exact Paso.paraCrow alive phase rfl
      exact ⟨_, Reachable.single step, .inr (.inl rfl), rfl⟩
  | parada =>
      rw [phase] at inForce
      have signalled : recibeSigint salida estado = { estado with senalCrow := true } := by
        simp only [recibeSigint, inForce, manejadorDe]
      have stopped : Parado (recibeSigint salida estado) := by
        rw [signalled]
        exact .inr (.inl phase)
      exact ⟨_, Reachable.refl _ _, stopped, rfl⟩
  | acabada =>
      rw [phase] at inForce
      have killed : recibeSigint salida estado = { estado with fin := true } := by
        simp only [recibeSigint, inForce, manejadorDe]
      have stopped : Parado (recibeSigint salida estado) := by
        rw [killed]
        exact .inl rfl
      exact ⟨_, Reachable.refl _ _, stopped, rfl⟩

/-! ## Durability -/

/-- At any moment of any run, a SIGINT is followed by a save of the table held
then exactly when the HTTP thread has not reached `signal_add(SIGINT)` and the
path takes the text, or that table has been saved before. -/
theorem sigint_duradero_iff {salida : Salida} {archivo : Option Bytes} {estado : Estado}
    (reachable : Reachable (Paso salida) (inicio archivo) estado) (alive : estado.fin = false) :
    Duradero salida estado ↔
      ((estado.crow = .noCreada ∨ estado.crow = .arrancando) ∧
          salida.Basta (textoDatos estado.tabla)) ∨
        estado.tabla ∈ estado.guardadas := by
  have inForce := manejador_reachable reachable
  have handlerIff : estado.manejador = .sigintHandler ↔
      estado.crow = .noCreada ∨ estado.crow = .arrancando := by
    rw [inForce]
    cases estado.crow <;> simp [manejadorDe]
  constructor
  · intro durable
    by_contra neither
    rcases not_or.mp neither with ⟨notSaved, notBefore⟩
    rw [← handlerIff] at notSaved
    obtain ⟨despues, reached, stopped, same⟩ := para_tras_sigint alive inForce
    have saved := durable despues reached stopped
    rw [same, guardadas_recibeSigint notSaved] at saved
    exact notBefore saved
  · rintro (⟨phase, enough⟩ | before) despues reached _
    · exact guardadas_reachable reached
        (mem_guardadas_recibeSigint (handlerIff.mpr phase) enough)
    · exact guardadas_reachable reached (guardadas_paso (Paso.sigint alive) before)

/-- A table with one registration. -/
def unaRegistrada : Tabla := ⟨[(ascii "a", [(0x04030201, 0x5000)])], by decide⟩

theorem registra_una : agregarCliente (arranque none) (ascii "a</>1.2.3.4</>80</>") =
    some (true, unaRegistrada) := by
  decide +kernel

/-- A SIGINT between the start of the thread and `signal_add`. -/
theorem sigint_duradero_al_arrancar :
    Duradero .sana { inicio none with crow := .arrancando, tabla := unaRegistrada } := by
  have started : Reachable (Paso .sana) (inicio none) { inicio none with crow := .arrancando } :=
    Reachable.single (Paso.creaHebra rfl rfl)
  have registered := started.tail (Paso.registra rfl nofun registra_una)
  exact (sigint_duradero_iff registered rfl).mpr (.inl ⟨.inr rfl, rfl, nofun⟩)

/-- With the HTTP server up, a SIGINT stops it and the registration is not saved. -/
theorem sigint_sin_guardar_con_crow :
    Reachable (Paso .sana) (inicio none)
        { inicio none with crow := .sirviendo, manejador := .asio, tabla := unaRegistrada } ∧
      ¬ Duradero .sana
        { inicio none with crow := .sirviendo, manejador := .asio, tabla := unaRegistrada } := by
  have started : Reachable (Paso .sana) (inicio none) { inicio none with crow := .arrancando } :=
    Reachable.single (Paso.creaHebra rfl rfl)
  have serving := started.tail (Paso.registraSenales rfl rfl)
  constructor
  · exact serving.tail (Paso.registra rfl nofun registra_una)
  · intro durable
    have stopped : Reachable (Paso .sana)
        (recibeSigint .sana
          { inicio none with crow := .sirviendo, manejador := .asio, tabla := unaRegistrada })
        { inicio none with crow := .parada, manejador := .asio, tabla := unaRegistrada } :=
      Reachable.single (Paso.paraCrow rfl rfl rfl)
    have saved := durable _ stopped (.inr (.inl rfl))
    exact absurd saved List.not_mem_nil

end DescargaP2P.Servidor.Apagado
