import DescargaP2P.Cliente.Servicio
import DescargaP2P.Transition.Fairness

/-!
# The listener of a file

`hebra_servidora_ficheros` runs one `io_context` for the accepts and for every
transfer.  A state is the state between two handlers.  Downloaders connect and
disconnect at any time; the handlers whose operation has completed run in any order.

A synchronous write completes if the downloader is connected, and throws if it has
disconnected.  Nothing in a handler catches it, so it leaves `io.run()`, and the `catch`
around it ends the thread with everything it served.
-/

namespace DescargaP2P.Cliente

open DescargaP2P.Cpp
open DescargaP2P.Text
open DescargaP2P.Transition

/-- What the listener does for a connection: it has not been accepted, it was closed
without a service, a read of the file is pending for it, or its service has ended. -/
inductive Atencion
  | enCola
  | rechazada
  | leyendo (servicio : FileService)
  | terminada (servicio : FileService)

/-- A downloader, with what has been written to its connection. -/
structure Descargador where
  conectado : Bool
  recibido : Bytes
  atencion : Atencion

/-- The thread between two handlers: whether `io.run()` goes on, the services whose
accept is pending, and the downloaders in the order of their connections. -/
structure Escucha where
  corriendo : Bool
  aceptando : List FileService
  descargadores : List Descargador

/-- Downloaders come and go; the other events are executions of a handler. -/
inductive Suceso
  | conecta
  | desconecta (numero : Nat)
  | acepta (numero : Nat) (datos : Datos)
  | rechaza (numero : Nat) (datos : Datos)
  | lee (numero : Nat) (trozo : Trozo)
  | finFichero (numero : Nat)

namespace Escucha

/-- Record what is done for a downloader. -/
def pon (escucha : Escucha) (numero : Nat) (descargador : Descargador) : Escucha :=
  { escucha with descargadores := escucha.descargadores.set numero descargador }

/-- `do_accept`: its handler keeps the only reference to the new service. -/
def doAccept (escucha : Escucha) (datos : Datos) : Escucha :=
  { escucha with
    aceptando := escucha.aceptando ++ [(FileService.create datos).getPtr.suelta] }

end Escucha

/-- The connection of a downloader after the `io_context` and the acceptor are gone. -/
def Descargador.abandonado (descargador : Descargador) : Descargador :=
  match descargador.atencion with
  | .enCola => { descargador with atencion := .rechazada }
  | .leyendo servicio => { descargador with atencion := .terminada servicio.suelta }
  | .rechazada | .terminada _ => descargador

namespace Escucha

/-- An exception leaves `io.run()`. -/
def abandona (escucha : Escucha) : Escucha where
  corriendo := false
  aceptando := []
  descargadores := escucha.descargadores.map Descargador.abandonado

/-- The handler of `async_accept` for the first pending accept.  Without an error it
calls `do_read`; it calls `do_accept` in any case. -/
def manejaAccept (escucha : Escucha) (numero : Nat) (descargador : Descargador)
    (aceptado : Bool) (servicio : FileService) (otros : List FileService) (datos : Datos) :
    Escucha :=
  let atencion := if aceptado then .leyendo servicio.getPtr.suelta else .rechazada
  let atendida := { escucha with aceptando := otros }.pon numero
    { descargador with atencion := atencion }
  atendida.doAccept datos

/-- The handler of `do_read` without an error: `write` to the connection and the next
read, or the exception of the write. -/
def manejaLectura (escucha : Escucha) (numero : Nat) (descargador : Descargador)
    (servicio : FileService) (trozo : Trozo) : Escucha :=
  let leido := (servicio.llena trozo).avanza trozo.bytes.length
  if descargador.conectado then
    escucha.pon numero
      { descargador with
        recibido := descargador.recibido ++ leido.pendiente trozo.bytes.length 0
        atencion := .leyendo leido.getPtr.suelta }
  else (escucha.pon numero { descargador with atencion := .leyendo leido }).abandona

/-- The handler of `do_read` at the end of the file, which does nothing. -/
def manejaFin (escucha : Escucha) (numero : Nat) (descargador : Descargador)
    (servicio : FileService) : Escucha :=
  escucha.pon numero { descargador with atencion := .terminada servicio.suelta }

end Escucha

/-- `hebra_servidora_ficheros` after the bind, when it enters `io.run()`. -/
def escuchaInicial (datos : Datos) : Escucha :=
  Escucha.doAccept ⟨true, [], []⟩ datos

/-- One event, for a served file that stays readable. -/
inductive PasoEscucha (fichero : Bytes) : Labelled Escucha Suceso
  | conecta {escucha} (listens : escucha.corriendo = true) :
      PasoEscucha fichero escucha .conecta
        { escucha with descargadores := escucha.descargadores ++ [⟨true, [], .enCola⟩] }
  | desconecta {escucha descargador} (numero : Nat)
      (hallado : escucha.descargadores[numero]? = some descargador) :
      PasoEscucha fichero escucha (.desconecta numero)
        (escucha.pon numero { descargador with conectado := false })
  | acepta {escucha descargador servicio otros} (numero : Nat) (datos : Datos)
      (armado : escucha.aceptando = servicio :: otros)
      (hallado : escucha.descargadores[numero]? = some descargador)
      (enCola : descargador.atencion = .enCola) :
      PasoEscucha fichero escucha (.acepta numero datos)
        (escucha.manejaAccept numero descargador true servicio otros datos)
  -- `async_accept` may fail for a connection that was closed before.
  | rechaza {escucha descargador servicio otros} (numero : Nat) (datos : Datos)
      (armado : escucha.aceptando = servicio :: otros)
      (hallado : escucha.descargadores[numero]? = some descargador)
      (enCola : descargador.atencion = .enCola) (ido : descargador.conectado = false) :
      PasoEscucha fichero escucha (.rechaza numero datos)
        (escucha.manejaAccept numero descargador false servicio otros datos)
  | lee {escucha descargador servicio} (numero : Nat) (trozo : Trozo)
      (hallado : escucha.descargadores[numero]? = some descargador)
      (leyendo : descargador.atencion = .leyendo servicio)
      (hay : trozo.bytes <+: fichero.drop servicio.posicion) :
      PasoEscucha fichero escucha (.lee numero trozo)
        (escucha.manejaLectura numero descargador servicio trozo)
  | finFichero {escucha descargador servicio} (numero : Nat)
      (hallado : escucha.descargadores[numero]? = some descargador)
      (leyendo : descargador.atencion = .leyendo servicio)
      (acaba : fichero.drop servicio.posicion = []) :
      PasoEscucha fichero escucha (.finFichero numero)
        (escucha.manejaFin numero descargador servicio)

/-! ## What the listener owes its downloaders -/

/-- A downloader is waiting for the accept, or is being sent the rest of the file, or
has all of it and its connection has been closed. -/
def Descargador.Atendido (fichero : Bytes) (descargador : Descargador) : Prop :=
  match descargador.atencion with
  | .enCola => descargador.recibido = []
  | .rechazada => False
  | .leyendo servicio =>
      descargador.recibido ++ fichero.drop servicio.posicion = fichero ∧ servicio.Compartido 1
  | .terminada servicio => descargador.recibido = fichero ∧ servicio.Compartido 0

theorem Descargador.Atendido.leyendo {fichero : Bytes} {descargador : Descargador}
    {servicio : FileService} (atendido : descargador.Atendido fichero)
    (leyendo : descargador.atencion = .leyendo servicio) :
    descargador.recibido ++ fichero.drop servicio.posicion = fichero ∧ servicio.Compartido 1 := by
  rwa [Descargador.Atendido, leyendo] at atendido

/-- One accept is pending, and every downloader that has not disconnected is attended. -/
structure Escucha.Sobrevive (fichero : Bytes) (escucha : Escucha) : Prop where
  unAccept : escucha.aceptando.length = 1
  atendidos : ∀ descargador ∈ escucha.descargadores, descargador.conectado = true →
    descargador.Atendido fichero

/-- No bytes of the file are read for a downloader that has disconnected. -/
def SinCorte (escucha : Escucha) : Suceso → Prop
  | .lee numero _ => ∀ descargador : Descargador,
      escucha.descargadores[numero]? = some descargador → descargador.conectado = true
  | .conecta | .desconecta _ | .acepta .. | .rechaza .. | .finFichero _ => True

/-! ## While nothing is cut -/

/-- The services whose accept is pending have read nothing. -/
structure Escucha.Viva (fichero : Bytes) (escucha : Escucha) : Prop where
  sobrevive : escucha.Sobrevive fichero
  nuevos : ∀ servicio ∈ escucha.aceptando, servicio.posicion = 0 ∧ servicio.Compartido 1

/-- The event is a handler executed for a downloader. -/
def Suceso.Atiende (numero : Nat) : Suceso → Prop
  | .acepta otro _ | .rechaza otro _ | .lee otro _ | .finFichero otro => otro = numero
  | .conecta | .desconecta _ => False

/-- Executions of handlers that are left at most. -/
def Descargador.faltan (fichero : Bytes) (descargador : Descargador) : Nat :=
  match descargador.atencion with
  | .enCola => fichero.length + 2
  | .leyendo servicio => (fichero.drop servicio.posicion).length + 1
  | .rechazada | .terminada _ => 0

namespace Escucha

variable {fichero : Bytes} {escucha : Escucha}

theorem pon_atendidos {descargadores : List Descargador} {numero : Nat}
    {descargador : Descargador}
    (atendidos : ∀ otro ∈ descargadores, otro.conectado = true → otro.Atendido fichero)
    (suyo : descargador.conectado = true → descargador.Atendido fichero) :
    ∀ otro ∈ descargadores.set numero descargador,
      otro.conectado = true → otro.Atendido fichero := by
  intro otro inside
  rcases List.mem_or_eq_of_mem_set inside with old | rfl
  · exact atendidos otro old
  · exact suyo

/-- A record may change for any downloader that stays attended. -/
theorem Viva.pon (viva : escucha.Viva fichero) (numero : Nat) {descargador : Descargador}
    (suyo : descargador.conectado = true → descargador.Atendido fichero) :
    (escucha.pon numero descargador).Viva fichero :=
  ⟨⟨viva.sobrevive.unAccept, pon_atendidos viva.sobrevive.atendidos suyo⟩, viva.nuevos⟩

/-- The handler of the accept arms the next one. -/
theorem Viva.manejaAccept (viva : escucha.Viva fichero) {numero : Nat}
    {descargador : Descargador} {aceptado : Bool} {servicio : FileService}
    {otros : List FileService} {datos : Datos}
    (armado : escucha.aceptando = servicio :: otros)
    (vacio : descargador.conectado = true → descargador.recibido = [])
    (rechazo : aceptado = false → descargador.conectado = false) :
    (escucha.manejaAccept numero descargador aceptado servicio otros datos).Viva fichero := by
  have only := viva.sobrevive.unAccept
  rw [armado, List.length_cons, Nat.add_eq_right, List.length_eq_zero_iff] at only
  subst only
  have fresh := viva.nuevos servicio (armado ▸ List.mem_singleton_self servicio)
  refine ⟨⟨rfl, pon_atendidos viva.sobrevive.atendidos ?_⟩, ?_⟩
  · intro connected
    cases aceptado with
    | false => exact absurd connected (by simp [rechazo rfl])
    | true =>
        refine ⟨?_, fresh.2.getPtr.suelta⟩
        change descargador.recibido ++ fichero.drop servicio.posicion = fichero
        rw [vacio connected, fresh.1]
        rfl
  · intro otro inside
    cases List.mem_singleton.mp inside
    exact ⟨rfl, (FileService.compartido_create datos).getPtr.suelta⟩

/-- Every event but a cut keeps the listener alive. -/
theorem Viva.paso {suceso : Suceso} {siguiente : Escucha} (viva : escucha.Viva fichero)
    (entero : SinCorte escucha suceso) (paso : PasoEscucha fichero escucha suceso siguiente) :
    siguiente.Viva fichero := by
  cases paso with
  | conecta listens =>
      refine ⟨⟨viva.sobrevive.unAccept, ?_⟩, viva.nuevos⟩
      intro otro inside
      rcases List.mem_append.mp inside with old | last
      · exact viva.sobrevive.atendidos otro old
      · cases List.mem_singleton.mp last
        exact fun _ => rfl
  | desconecta numero hallado =>
      exact viva.pon _ fun connected => absurd connected Bool.false_ne_true
  | acepta numero datos armado hallado enCola =>
      apply viva.manejaAccept armado _ (fun other => Bool.noConfusion other)
      intro connected
      have waits := viva.sobrevive.atendidos _ (List.mem_of_getElem? hallado) connected
      rwa [Descargador.Atendido, enCola] at waits
  | rechaza numero datos armado hallado enCola ido =>
      apply viva.manejaAccept armado _ (fun _ => ido)
      intro connected
      exact absurd connected (by simp [ido])
  | @lee _ descargador servicio numero trozo hallado leyendo hay =>
      have connected := entero descargador hallado
      have atendido := viva.sobrevive.atendidos _ (List.mem_of_getElem? hallado) connected
      have sent := atendido.leyendo leyendo
      have taken := List.prefix_iff_eq_append.mp hay
      rw [List.drop_drop] at taken
      rw [manejaLectura, if_pos connected]
      refine viva.pon numero fun _ => ⟨?_, (sent.2.llena trozo).getPtr.suelta⟩
      change descargador.recibido ++ (servicio.llena trozo).pendiente trozo.bytes.length 0 ++
        fichero.drop (servicio.posicion + trozo.bytes.length) = fichero
      rw [servicio.pendiente_llena, List.append_assoc, taken]
      exact sent.1
  | finFichero numero hallado leyendo acaba =>
      refine viva.pon _ fun connected => ?_
      have atendido := viva.sobrevive.atendidos _ (List.mem_of_getElem? hallado) connected
      have sent := atendido.leyendo leyendo
      rw [acaba, List.append_nil] at sent
      exact ⟨sent.1, sent.2.suelta⟩

theorem viva_inicial (fichero : Bytes) (datos : Datos) : (escuchaInicial datos).Viva fichero := by
  refine ⟨⟨rfl, fun _ inside => absurd inside List.not_mem_nil⟩, ?_⟩
  intro servicio inside
  cases List.mem_singleton.mp inside
  exact ⟨rfl, (FileService.compartido_create datos).getPtr.suelta⟩

theorem viva_of_run {datos : Datos} {sucesos : List Suceso}
    (uncut : Run (PasoEscucha fichero) SinCorte (escuchaInicial datos) sucesos escucha) :
    escucha.Viva fichero :=
  uncut.invariant (Escucha.Viva fichero) (viva_inicial fichero datos)
    fun holds entero step => holds.paso entero step

/-! ## After a cut -/

/-- The thread has ended: nothing is pending and nothing listens. -/
structure Muerta (escucha : Escucha) : Prop where
  corriendo : escucha.corriendo = false
  aceptando : escucha.aceptando = []
  leyendo : ∀ descargador ∈ escucha.descargadores, ∀ servicio,
    descargador.atencion ≠ .leyendo servicio

theorem muerta_abandona (escucha : Escucha) : escucha.abandona.Muerta := by
  refine ⟨rfl, rfl, ?_⟩
  intro descargador inside servicio reading
  obtain ⟨antes, _, rfl⟩ := List.mem_map.mp inside
  rcases antes with ⟨conectado, recibido, atencion⟩
  cases atencion <;> cases reading

/-- Nobody receives anything more. -/
theorem Muerta.paso {suceso : Suceso} {siguiente : Escucha} (muerta : escucha.Muerta)
    (paso : PasoEscucha fichero escucha suceso siguiente) :
    siguiente.Muerta ∧ siguiente.descargadores.map Descargador.recibido =
      escucha.descargadores.map Descargador.recibido := by
  cases paso with
  | conecta listens => exact absurd listens (by simp [muerta.corriendo])
  | acepta numero datos armado => exact absurd armado (by simp [muerta.aceptando])
  | rechaza numero datos armado => exact absurd armado (by simp [muerta.aceptando])
  | lee numero trozo hallado leyendo =>
      exact absurd leyendo (muerta.leyendo _ (List.mem_of_getElem? hallado) _)
  | finFichero numero hallado leyendo =>
      exact absurd leyendo (muerta.leyendo _ (List.mem_of_getElem? hallado) _)
  | @desconecta _ descargador numero hallado =>
      refine ⟨⟨muerta.corriendo, muerta.aceptando, ?_⟩, ?_⟩
      · intro otro inside
        rcases List.mem_or_eq_of_mem_set inside with old | rfl
        · exact muerta.leyendo otro old
        · exact muerta.leyendo descargador (List.mem_of_getElem? hallado)
      · obtain ⟨inside, rfl⟩ := List.getElem?_eq_some_iff.mp hallado
        have here : numero < (escucha.descargadores.map Descargador.recibido).length := by
          rwa [List.length_map]
        have same := List.set_getElem_self here
        rw [List.getElem_map] at same
        rwa [pon, List.map_set]

/-- A cut ends the thread. -/
theorem muerta_of_corte {suceso : Suceso} {siguiente : Escucha}
    (corte : ¬ SinCorte escucha suceso)
    (paso : PasoEscucha fichero escucha suceso siguiente) : siguiente.Muerta := by
  cases paso with
  | @lee _ descargador servicio numero trozo hallado leyendo hay =>
      have gone : ¬ descargador.conectado = true := by
        intro connected
        apply corte
        intro otro found
        rw [hallado, Option.some.injEq] at found
        exact found ▸ connected
      rw [manejaLectura, if_neg gone]
      exact muerta_abandona _
  | conecta => exact absurd trivial corte
  | desconecta => exact absurd trivial corte
  | acepta => exact absurd trivial corte
  | rechaza => exact absurd trivial corte
  | finFichero => exact absurd trivial corte

/-- A run is uncut, or the thread has ended. -/
theorem uncut_or_muerta {datos : Datos} {sucesos : List Suceso}
    (run : Run (PasoEscucha fichero) (fun _ _ => True) (escuchaInicial datos) sucesos escucha) :
    Run (PasoEscucha fichero) SinCorte (escuchaInicial datos) sucesos escucha ∨
      escucha.Muerta := by
  induction run with
  | refl => exact Or.inl Run.refl
  | @tail _ middle _ event before _ last ih =>
      rcases ih with uncut | muerta
      · by_cases entero : SinCorte middle event
        · exact Or.inl (Run.tail uncut entero last)
        · exact Or.inr (muerta_of_corte entero last)
      · exact Or.inr (muerta.paso last).1

/-! ## A downloader that stays -/

/-- A downloader has connected and not disconnected. -/
def Presente (escucha : Escucha) (numero : Nat) : Prop :=
  ∃ descargador, escucha.descargadores[numero]? = some descargador ∧
    descargador.conectado = true

/-- A downloader has received the whole file, and its connection has been closed. -/
def Servido (fichero : Bytes) (escucha : Escucha) (numero : Nat) : Prop :=
  ∃ descargador servicio, escucha.descargadores[numero]? = some descargador ∧
    descargador.recibido = fichero ∧ descargador.atencion = .terminada servicio ∧
    servicio.abierto = false

/-- Executions of handlers for a downloader that are left at most. -/
def faltan (fichero : Bytes) (escucha : Escucha) (numero : Nat) : Nat :=
  match escucha.descargadores[numero]? with
  | none => 0
  | some descargador => descargador.faltan fichero

theorem faltan_of_getElem? {numero : Nat} {descargador : Descargador}
    (hallado : escucha.descargadores[numero]? = some descargador) :
    escucha.faltan fichero numero = descargador.faltan fichero := by
  rw [faltan, hallado]

theorem getElem?_pon_self {numero : Nat} {antes descargador : Descargador}
    (hallado : escucha.descargadores[numero]? = some antes) :
    (escucha.pon numero descargador).descargadores[numero]? = some descargador := by
  obtain ⟨inside, _⟩ := List.getElem?_eq_some_iff.mp hallado
  exact List.getElem?_set_self inside

theorem getElem?_pon_ne {numero otro : Nat} (different : numero ≠ otro)
    (descargador : Descargador) :
    (escucha.pon numero descargador).descargadores[otro]? = escucha.descargadores[otro]? :=
  List.getElem?_set_ne different

/-- A handler of one downloader brings that one nearer to its end and leaves the others
where they are. -/
theorem faltan_pon {numero otro : Nat} {antes despues : Descargador}
    (hallado : escucha.descargadores[numero]? = some antes)
    (menos : despues.faltan fichero < antes.faltan fichero) :
    (escucha.pon numero despues).faltan fichero otro ≤ escucha.faltan fichero otro ∧
      (numero = otro →
        (escucha.pon numero despues).faltan fichero otro < escucha.faltan fichero otro) := by
  by_cases same : numero = otro
  · subst same
    rw [faltan_of_getElem? hallado, faltan_of_getElem? (getElem?_pon_self hallado)]
    exact ⟨Nat.le_of_lt menos, fun _ => menos⟩
  · refine ⟨Nat.le_of_eq ?_, fun other => absurd other same⟩
    rw [faltan, faltan, getElem?_pon_ne same]

/-- While nothing is cut, no step sets a downloader back, and its own handlers bring it
forward. -/
theorem faltan_paso {numero : Nat} {suceso : Suceso} {siguiente : Escucha}
    (entero : SinCorte escucha suceso) (paso : PasoEscucha fichero escucha suceso siguiente)
    (antes : escucha.Presente numero) (despues : siguiente.Presente numero) :
    siguiente.faltan fichero numero ≤ escucha.faltan fichero numero ∧
      (suceso.Atiende numero →
        siguiente.faltan fichero numero < escucha.faltan fichero numero) := by
  cases paso with
  | conecta listens =>
      refine ⟨Nat.le_of_eq ?_, False.elim⟩
      rcases antes with ⟨descargador, here, _⟩
      obtain ⟨inside, _⟩ := List.getElem?_eq_some_iff.mp here
      rw [faltan, faltan, List.getElem?_append_left inside]
  | @desconecta _ descargador otro hallado =>
      refine ⟨Nat.le_of_eq ?_, False.elim⟩
      by_cases same : otro = numero
      · subst same
        rcases despues with ⟨gone, here, connected⟩
        rw [getElem?_pon_self hallado, Option.some.injEq] at here
        subst here
        exact absurd connected Bool.false_ne_true
      · rw [faltan, faltan, getElem?_pon_ne same]
  | @acepta _ descargador servicio otros otro datos armado hallado enCola =>
      apply faltan_pon hallado
      have shorter : (fichero.drop servicio.posicion).length ≤ fichero.length := by
        rw [List.length_drop]
        exact Nat.sub_le _ _
      simp only [Descargador.faltan, enCola, if_true]
      exact Nat.succ_lt_succ (Nat.lt_succ_of_le shorter)
  | rechaza numero datos armado hallado enCola ido =>
      apply faltan_pon hallado
      rw [Descargador.faltan, Descargador.faltan, enCola]
      exact Nat.succ_pos _
  | @lee _ descargador servicio otro trozo hallado leyendo hay =>
      rw [manejaLectura, if_pos (entero descargador hallado)]
      apply faltan_pon hallado
      have some_byte := List.length_pos_of_ne_nil trozo.noVacio
      have inside := hay.length_le
      rw [List.length_drop] at inside
      simp only [Descargador.faltan, leyendo, List.length_drop, FileService.getPtr,
        FileService.suelta, FileService.avanza, FileService.llena]
      omega
  | finFichero numero hallado leyendo acaba =>
      apply faltan_pon hallado
      rw [Descargador.faltan, Descargador.faltan, leyendo]
      exact Nat.succ_pos _

/-- Until a downloader that is connected has everything, some handler can be executed
for it. -/
theorem Viva.enabled (viva : escucha.Viva fichero) {numero : Nat}
    (presente : escucha.Presente numero) (pending : escucha.faltan fichero numero ≠ 0) :
    Enabled (PasoEscucha fichero) SinCorte (Suceso.Atiende numero) escucha := by
  rcases presente with ⟨descargador, hallado, connected⟩
  have atendido := viva.sobrevive.atendidos _ (List.mem_of_getElem? hallado) connected
  rw [faltan_of_getElem? hallado, Descargador.faltan] at pending
  rw [Descargador.Atendido] at atendido
  cases stage : descargador.atencion with
  | enCola =>
      obtain ⟨servicio, armado⟩ := List.length_eq_one_iff.mp viva.sobrevive.unAccept
      exact ⟨.acepta numero servicio.datos, _, rfl, trivial, .acepta numero _ armado hallado stage⟩
  | rechazada =>
      rw [stage] at atendido
      exact atendido.elim
  | terminada servicio =>
      rw [stage] at pending
      exact absurd rfl pending
  | leyendo servicio =>
      cases left : fichero.drop servicio.posicion with
      | nil => exact ⟨.finFichero numero, _, rfl, trivial, .finFichero numero hallado stage left⟩
      | cons byte resto =>
          have first : (Trozo.deUno byte).bytes <+: fichero.drop servicio.posicion :=
            ⟨resto, left.symm⟩
          refine ⟨.lee numero (.deUno byte), _, rfl, ?_, .lee numero _ hallado stage first⟩
          intro otro found
          rw [hallado, Option.some.injEq] at found
          exact found ▸ connected

/-- A downloader that is connected and has nothing left to wait for has the file. -/
theorem Viva.servido (viva : escucha.Viva fichero) {numero : Nat}
    (presente : escucha.Presente numero) (ended : escucha.faltan fichero numero = 0) :
    escucha.Servido fichero numero := by
  rcases presente with ⟨descargador, hallado, connected⟩
  have atendido := viva.sobrevive.atendidos _ (List.mem_of_getElem? hallado) connected
  rw [faltan_of_getElem? hallado, Descargador.faltan] at ended
  rw [Descargador.Atendido] at atendido
  cases stage : descargador.atencion with
  | enCola => simp [stage] at ended
  | leyendo servicio => simp [stage] at ended
  | rechazada =>
      rw [stage] at atendido
      exact atendido.elim
  | terminada servicio =>
      rw [stage] at atendido
      exact ⟨descargador, servicio, hallado, atendido.1, stage, atendido.2.2⟩

end Escucha

/-! ## The listener survives its clients unless one is cut -/

/-- In every run the listener has one accept pending and attends every downloader that
has not disconnected exactly if no bytes of the file were ever read for one that had.
As long as that is so, a downloader that stays connected, and whose handlers are not
put off for ever, receives the whole file. -/
theorem escucha_sobrevive_iff (fichero : Bytes) (datos : Datos) :
    (∀ {sucesos : List Suceso} {escucha : Escucha},
      Run (PasoEscucha fichero) (fun _ _ => True) (escuchaInicial datos) sucesos escucha →
      (escucha.Sobrevive fichero ↔
        Run (PasoEscucha fichero) SinCorte (escuchaInicial datos) sucesos escucha)) ∧
    ∀ (estado : Nat → Escucha) (numero inicio : Nat), estado 0 = escuchaInicial datos →
      Execution (PasoEscucha fichero) SinCorte estado →
      WeaklyFair (PasoEscucha fichero) SinCorte (Suceso.Atiende numero) estado →
      (∀ momento, inicio ≤ momento → (estado momento).Presente numero) →
      ∃ momento, inicio ≤ momento ∧ (estado momento).Servido fichero numero := by
  constructor
  · intro sucesos escucha run
    constructor
    · intro sobrevive
      rcases Escucha.uncut_or_muerta run with uncut | muerta
      · exact uncut
      · have one := sobrevive.unAccept
        rw [muerta.aceptando] at one
        exact absurd one Nat.zero_ne_one
    · intro uncut
      exact (Escucha.viva_of_run uncut).sobrevive
  · intro estado numero inicio start execution fair stays
    have vivas : ∀ momento, (estado momento).Viva fichero := by
      intro momento
      obtain ⟨sucesos, uncut⟩ := execution.run momento
      rw [start] at uncut
      exact Escucha.viva_of_run uncut
    obtain ⟨momento, after, ended⟩ := execution.eventually_zero fair
      (fun escucha => Escucha.faltan fichero escucha numero)
      (fun escucha => escucha.Viva fichero ∧ escucha.Presente numero)
      (fun momento after => ⟨vivas momento, stays momento after⟩)
      (fun here pending => here.1.enabled here.2 pending)
      (fun here there entero step => Escucha.faltan_paso entero step here.2 there.2)
    exact ⟨momento, after, (vivas momento).servido (stays momento after) ended⟩

/-- The listener at the moments of one service: a connection, the accept, a read of one
byte, the end of the file, and nothing more. -/
def servicioDeUno (datos : Datos) (momento : Nat) : Escucha :=
  let servicio := (FileService.create datos).getPtr.suelta
  let leyendo := servicio.getPtr.suelta
  let leido := (leyendo.llena (.deUno 65)).avanza 1
  let conectado := { escuchaInicial datos with descargadores := [⟨true, [], .enCola⟩] }
  let aceptado := conectado.manejaAccept 0 ⟨true, [], .enCola⟩ true servicio [] datos
  let enviado := aceptado.manejaLectura 0 ⟨true, [], .leyendo leyendo⟩ leyendo (.deUno 65)
  match momento with
  | 0 => escuchaInicial datos
  | 1 => conectado
  | 2 => aceptado
  | 3 => enviado
  | _ => enviado.manejaFin 0 ⟨true, leido.pendiente 1 0, .leyendo leido.getPtr.suelta⟩
      leido.getPtr.suelta

theorem execution_servicioDeUno (datos : Datos) :
    Execution (PasoEscucha (ascii "A")) SinCorte (servicioDeUno datos) := by
  intro momento
  match momento with
  | 0 => exact Or.inr ⟨.conecta, trivial, .conecta rfl⟩
  | 1 => exact Or.inr ⟨.acepta 0 datos, trivial, .acepta 0 datos rfl rfl rfl⟩
  | 2 =>
      have lee : PasoEscucha (ascii "A") (servicioDeUno datos 2) (.lee 0 (.deUno 65)) _ :=
        .lee 0 (.deUno 65) rfl rfl (List.prefix_refl _)
      exact Or.inr ⟨_, by rintro _ ⟨⟩; rfl, lee⟩
  | 3 => exact Or.inr ⟨.finFichero 0, trivial, .finFichero 0 rfl rfl rfl⟩
  | _ + 4 => exact Or.inl rfl

theorem presente_servicioDeUno (datos : Datos) {momento : Nat} (conectado : 1 ≤ momento) :
    (servicioDeUno datos momento).Presente 0 := by
  match momento with
  | 1 | 2 | 3 | _ + 4 => exact ⟨_, rfl, rfl⟩

/-- Its handlers are never put off: after the last one there is none to execute. -/
theorem fair_servicioDeUno (datos : Datos) :
    WeaklyFair (PasoEscucha (ascii "A")) SinCorte (Suceso.Atiende 0) (servicioDeUno datos) := by
  apply weaklyFair_of_disabled 4
  intro later beyond
  obtain ⟨pasados, rfl⟩ := Nat.exists_eq_add_of_le' beyond
  rintro ⟨suceso, siguiente, own, _, paso⟩
  cases paso with
  | conecta => exact own
  | desconecta => exact own
  | acepta numero datos armado hallado enCola =>
      obtain rfl : numero = 0 := own
      cases hallado
      cases enCola
  | rechaza numero datos armado hallado enCola =>
      obtain rfl : numero = 0 := own
      cases hallado
      cases enCola
  | lee numero trozo hallado leyendo =>
      obtain rfl : numero = 0 := own
      cases hallado
      cases leyendo
  | finFichero numero hallado leyendo =>
      obtain rfl : numero = 0 := own
      cases hallado
      cases leyendo

/-- A listener with one downloader served and gone and another one waiting; and the fair
service of one downloader that stays. -/
theorem escucha_sobrevive_a_un_servido : ∃ datos,
    (∃ sucesos escucha, Run (PasoEscucha (ascii "A")) (fun _ _ => True)
      (escuchaInicial datos) sucesos escucha ∧ Suceso.desconecta 0 ∈ sucesos ∧
      escucha.Presente 1 ∧ escucha.Sobrevive (ascii "A")) ∧
    ∃ momento, 1 ≤ momento ∧ (servicioDeUno datos momento).Servido (ascii "A") 0 := by
  let datos : Datos := ⟨List.replicate 1024 0, List.length_replicate⟩
  obtain ⟨survives, serves⟩ := escucha_sobrevive_iff (ascii "A") datos
  refine ⟨datos, ?_, ?_⟩
  · have start : Run (PasoEscucha (ascii "A")) SinCorte (escuchaInicial datos) [] _ := Run.refl
    have first := Run.tail start (by trivial) (.conecta rfl)
    have accepted := Run.tail first (by trivial) (.acepta 0 datos rfl rfl rfl)
    have sent := Run.tail accepted (by rintro _ ⟨⟩; rfl)
      (.lee 0 (.deUno 65) rfl rfl (List.prefix_refl _))
    have ended := Run.tail sent (by trivial) (.finFichero 0 rfl rfl rfl)
    have gone := Run.tail ended (by trivial) (.desconecta 0 rfl)
    have second := Run.tail gone (by trivial) (.conecta rfl)
    have plain := second.mono fun _ => trivial
    refine ⟨_, _, plain, ?_, ⟨_, rfl, rfl⟩, ?_⟩
    · simp
    · exact (survives plain).mpr second
  · exact serves (servicioDeUno datos) 0 1 rfl (execution_servicioDeUno datos)
      (fair_servicioDeUno datos) (fun _ conectado => presente_servicioDeUno datos conectado)

/-- Two downloaders are being served and the first one disconnects.  The next read for
it ends the listener, and the second one never receives anything. -/
theorem un_abandono_acaba_con_la_escucha :
    ∃ datos sucesos escucha, Run (PasoEscucha (ascii "A")) (fun _ _ => True)
      (escuchaInicial datos) sucesos escucha ∧ Suceso.desconecta 1 ∉ sucesos ∧
      escucha.Presente 1 ∧ ¬ escucha.Sobrevive (ascii "A") ∧
      ∀ later final, Run (PasoEscucha (ascii "A")) (fun _ _ => True) escucha later final →
        final.aceptando = [] ∧ final.descargadores.map Descargador.recibido = [[], []] := by
  let datos : Datos := ⟨List.replicate 1024 0, List.length_replicate⟩
  have start : Run (PasoEscucha (ascii "A")) (fun _ _ => True) (escuchaInicial datos) [] _ :=
    Run.refl
  have first := Run.tail start trivial (.conecta rfl)
  have second := Run.tail first trivial (.conecta rfl)
  have accepted := Run.tail second trivial (.acepta 0 datos rfl rfl rfl)
  have both := Run.tail accepted trivial (.acepta 1 datos rfl rfl rfl)
  have gone := Run.tail both trivial (.desconecta 0 rfl)
  have cut := Run.tail gone trivial (.lee 0 (.deUno 65) rfl rfl (List.prefix_refl _))
  refine ⟨datos, _, _, cut, ?_, ⟨_, rfl, rfl⟩, ?_, ?_⟩
  · simp
  · intro sobrevive
    exact absurd sobrevive.unAccept Nat.zero_ne_one
  · intro later final run
    have ended : final.Muerta ∧ final.descargadores.map Descargador.recibido = [[], []] :=
      run.invariant
        (fun escucha => escucha.Muerta ∧ escucha.descargadores.map Descargador.recibido = [[], []])
        ⟨Escucha.muerta_abandona _, rfl⟩
        (fun holds _ step => ⟨(holds.1.paso step).1, (holds.1.paso step).2.trans holds.2⟩)
    exact ⟨ended.1.aceptando, ended.2⟩

end DescargaP2P.Cliente
