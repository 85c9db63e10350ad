import DescargaP2P.Cliente.Servicio

/-!
# The transfer of a file

A listener that accepts and a download that connects, joined by a stream of bytes.
Each side takes its own steps, in any order.  The stream keeps order and holds a
limited number of bytes; the pieces in which it takes and delivers them are free.  No
operation fails: reads end at the end of the file, or at the end of the stream once the
sender's service has been destroyed and everything has been received.
-/

namespace DescargaP2P.Cliente

open DescargaP2P.Cpp
open DescargaP2P.Text
open DescargaP2P.Transition

/-- The sender: `async_accept` is pending, its handler has called `do_read`, or the
handler has returned and the chain of `do_read` runs. -/
inductive Emisor
  | escucha (servicio : FileService)
  | aceptado (servicio : FileService)
  | transfiere (servicio : FileService) (cadena : Cadena)

/-- The receiver: the points of `do_connect`, and then the chain of `do_write`. -/
inductive Receptor
  | inicio
  | vaciado
  | creado (servicio : FileService)
  | conectado (servicio : FileService)
  | transfiere (servicio : FileService) (cadena : Cadena)

/-- Both sides, the bytes in the stream, and the local file of the receiver. -/
structure Transferencia where
  emisor : Emisor
  receptor : Receptor
  enVuelo : Bytes
  fichero : Bytes

/-- Steps of the two sides. -/
inductive Accion
  | vacia
  | crea
  | conecta
  | retornaConnect
  | acepta
  | retornaAccept
  | doRead (movimiento : Movimiento)
  | doWrite (movimiento : Movimiento)

def Emisor.servicio : Emisor → FileService
  | .escucha servicio | .aceptado servicio | .transfiere servicio _ => servicio

/-- The connection has been made. -/
def Receptor.establecida : Receptor → Bool
  | .inicio | .vaciado | .creado _ => false
  | .conectado _ | .transfiere .. => true

/-- The local file after a step of `do_write`. -/
def Movimiento.guarda (movimiento : Movimiento) (fichero : Bytes) (posicion : Nat) : Bytes :=
  match movimiento with
  | .escribe bytes => overwrite fichero posicion bytes
  | .lee _ | .interno | .fin => fichero

/-- `do_accept` has armed the accept and returned, which leaves the reference of its
handler; the download has not begun. -/
def inicioTransferencia (datos : Datos) (previo : Bytes) : Transferencia where
  emisor := .escucha (FileService.create datos).getPtr.suelta
  receptor := .inicio
  enVuelo := []
  fichero := previo

/-- One step of either side, for a served file and a capacity of the stream. -/
inductive PasoTransferencia (servido : Bytes) (ventana : Nat) :
    Labelled Transferencia Accion
  -- `std::ofstream outfile(nombre_fichero)` truncates the file.
  | vacia {emisor enVuelo fichero} :
      PasoTransferencia servido ventana ⟨emisor, .inicio, enVuelo, fichero⟩ .vacia
        ⟨emisor, .vaciado, enVuelo, []⟩
  | crea {emisor enVuelo fichero} (datos : Datos) :
      PasoTransferencia servido ventana ⟨emisor, .vaciado, enVuelo, fichero⟩ .crea
        ⟨emisor, .creado (FileService.create datos), enVuelo, fichero⟩
  | conecta {emisor servicio enVuelo fichero} :
      PasoTransferencia servido ventana ⟨emisor, .creado servicio, enVuelo, fichero⟩ .conecta
        ⟨emisor, .conectado servicio.getPtr, enVuelo, fichero⟩
  | retornaConnect {emisor servicio enVuelo fichero} :
      PasoTransferencia servido ventana ⟨emisor, .conectado servicio, enVuelo, fichero⟩
        .retornaConnect ⟨emisor, .transfiere servicio.suelta .lee, enVuelo, fichero⟩
  | acepta {servicio receptor enVuelo fichero} (establecida : receptor.establecida = true) :
      PasoTransferencia servido ventana ⟨.escucha servicio, receptor, enVuelo, fichero⟩ .acepta
        ⟨.aceptado servicio.getPtr, receptor, enVuelo, fichero⟩
  | retornaAccept {servicio receptor enVuelo fichero} :
      PasoTransferencia servido ventana ⟨.aceptado servicio, receptor, enVuelo, fichero⟩
        .retornaAccept ⟨.transfiere servicio.suelta .lee, receptor, enVuelo, fichero⟩
  -- Reads the served file from the offset, writes to the stream what there is room for.
  | doRead {servicio servicio' cadena cadena' movimiento receptor enVuelo fichero}
      (paso : PasoCadena (servicio, cadena) movimiento (servicio', cadena'))
      (hay : movimiento.tomado <+: servido.drop servicio.posicion)
      (cabe : movimiento.dado.length ≤ ventana - enVuelo.length)
      (acaba : movimiento = .fin → servido.drop servicio.posicion = []) :
      PasoTransferencia servido ventana ⟨.transfiere servicio cadena, receptor, enVuelo, fichero⟩
        (.doRead movimiento)
        ⟨.transfiere (servicio'.avanza movimiento.tomado.length) cadena', receptor,
          enVuelo ++ movimiento.dado, fichero⟩
  -- Reads the stream, whose end is the closed socket, and writes at the offset.
  | doWrite {emisor servicio servicio' cadena cadena' movimiento enVuelo fichero}
      (paso : PasoCadena (servicio, cadena) movimiento (servicio', cadena'))
      (hay : movimiento.tomado <+: enVuelo)
      (acaba : movimiento = .fin → enVuelo = [] ∧ emisor.servicio.abierto = false) :
      PasoTransferencia servido ventana ⟨emisor, .transfiere servicio cadena, enVuelo, fichero⟩
        (.doWrite movimiento)
        ⟨emisor, .transfiere (servicio'.avanza movimiento.dado.length) cadena',
          enVuelo.drop movimiento.tomado.length,
          movimiento.guarda fichero servicio.posicion⟩

/-! ## Where the bytes are -/

/-- What the sender has read and not sent, and what it has not read. -/
def Emisor.porEnviar (servido : Bytes) : Emisor → Bytes
  | .escucha servicio | .aceptado servicio => servido.drop servicio.posicion
  | .transfiere servicio cadena => cadena.retenido servicio ++ servido.drop servicio.posicion

/-- What the receiver has read and not written. -/
def Receptor.retenido : Receptor → Bytes
  | .transfiere servicio cadena => cadena.retenido servicio
  | .inicio | .vaciado | .creado _ | .conectado _ => []

/-- What the receiver has written: before it truncates the file, nothing. -/
def Receptor.escrito (fichero : Bytes) : Receptor → Bytes
  | .inicio => []
  | .vaciado | .creado _ | .conectado _ | .transfiere .. => fichero

def Emisor.Sano (servido : Bytes) : Emisor → Prop
  | .escucha servicio => servicio.Compartido 1
  | .aceptado servicio => servicio.Compartido 2
  | .transfiere servicio cadena =>
      cadena.Sana servicio ∧ (cadena = .fin → servido.drop servicio.posicion = [])

/-- The references are those of the handlers, and the receiver writes at the end. -/
def Receptor.Sano (fichero : Bytes) : Receptor → Prop
  | .inicio => True
  | .vaciado => fichero = []
  | .creado servicio => servicio.Compartido 1 ∧ servicio.posicion = fichero.length
  | .conectado servicio => servicio.Compartido 2 ∧ servicio.posicion = fichero.length
  | .transfiere servicio cadena => cadena.Sana servicio ∧ servicio.posicion = fichero.length

/-- Steps of the sender that are left when its file is at the end. -/
def Emisor.faltan : Emisor → Nat
  | .escucha _ => 3
  | .aceptado _ => 2
  | .transfiere servicio cadena => cadena.faltan servicio

/-- Steps of the receiver that are left when no more bytes come. -/
def Receptor.faltan : Receptor → Nat
  | .inicio => 5
  | .vaciado => 4
  | .creado _ => 3
  | .conectado _ => 2
  | .transfiere servicio cadena => cadena.faltan servicio

/-- Every byte of the served file is in one place, in order, and the receiver ends only
after the sender. -/
structure Transferencia.Integra (servido : Bytes) (estado : Transferencia) : Prop where
  emisor : estado.emisor.Sano servido
  receptor : estado.receptor.Sano estado.fichero
  entero : estado.receptor.escrito estado.fichero ++ estado.receptor.retenido ++
    estado.enVuelo ++ estado.emisor.porEnviar servido = servido
  establecida : estado.receptor.establecida = true ∨ ∃ servicio, estado.emisor = .escucha servicio
  acabado : ∀ servicio, estado.receptor = .transfiere servicio .fin →
    estado.enVuelo = [] ∧ ∃ otro, estado.emisor = .transfiere otro .fin

theorem integra_inicio (datos : Datos) (servido previo : Bytes) :
    (inicioTransferencia datos previo).Integra servido where
  emisor := (FileService.compartido_create datos).getPtr.suelta
  receptor := trivial
  entero := rfl
  establecida := Or.inr ⟨_, rfl⟩
  acabado := fun _ other => Receptor.noConfusion other

theorem Movimiento.guarda_at_end (movimiento : Movimiento) (fichero : Bytes) :
    movimiento.guarda fichero fichero.length = fichero ++ movimiento.dado := by
  cases movimiento with
  | escribe bytes => exact overwrite_at_end fichero bytes
  | lee trozo => exact (List.append_nil _).symm
  | interno => exact (List.append_nil _).symm
  | fin => exact (List.append_nil _).symm

/-- Only a destroyed service of the sender has closed its socket. -/
theorem Emisor.Sano.fin_of_cerrado {servido : Bytes} {emisor : Emisor}
    (sano : emisor.Sano servido) (cerrado : emisor.servicio.abierto = false) :
    ∃ servicio, emisor = .transfiere servicio .fin := by
  cases emisor with
  | escucha servicio => exact absurd (sano.eq_zero cerrado) Nat.one_ne_zero
  | aceptado servicio => exact absurd (sano.eq_zero cerrado) (Nat.succ_ne_zero 1)
  | transfiere servicio cadena =>
      cases sano.1.eq_fin cerrado
      exact ⟨servicio, rfl⟩

namespace Transferencia

variable {servido : Bytes} {ventana : Nat} {estado siguiente : Transferencia} {accion : Accion}

/-- A step of `do_read` moves bytes from the served file to the stream. -/
theorem Integra.doRead {servicio servicio' : FileService} {cadena cadena' : Cadena}
    {movimiento : Movimiento} {receptor : Receptor} {enVuelo fichero : Bytes}
    (integra : Integra servido ⟨.transfiere servicio cadena, receptor, enVuelo, fichero⟩)
    (paso : PasoCadena (servicio, cadena) movimiento (servicio', cadena'))
    (hay : movimiento.tomado <+: servido.drop servicio.posicion)
    (acaba : movimiento = .fin → servido.drop servicio.posicion = []) :
    Integra servido ⟨.transfiere (servicio'.avanza movimiento.tomado.length) cadena', receptor,
      enVuelo ++ movimiento.dado, fichero⟩ := by
  have moved := paso.conserva_fuente hay
  rw [List.drop_drop] at moved
  refine ⟨⟨?_, ?_⟩, integra.receptor, ?_, ?_, ?_⟩
  · rw [Cadena.sana_avanza]
    exact paso.sana integra.emisor.1
  · rintro rfl
    have ended := paso.eq_fin
    subst ended
    rw [FileService.posicion_avanza, paso.posicion]
    exact acaba rfl
  · apply Eq.trans _ integra.entero
    simp only [Emisor.porEnviar, Cadena.retenido_avanza, FileService.posicion_avanza,
      paso.posicion, List.append_assoc, moved]
  · exact integra.establecida.imp_right fun waits => nomatch waits
  · intro _ ended
    obtain ⟨_, last⟩ := (integra.acabado _ ended).2
    cases last
    exact absurd rfl paso.ne_fin

/-- A step of `do_write` moves bytes from the stream to the end of the local file. -/
theorem Integra.doWrite {emisor : Emisor} {servicio servicio' : FileService}
    {cadena cadena' : Cadena} {movimiento : Movimiento} {enVuelo fichero : Bytes}
    (integra : Integra servido ⟨emisor, .transfiere servicio cadena, enVuelo, fichero⟩)
    (paso : PasoCadena (servicio, cadena) movimiento (servicio', cadena'))
    (hay : movimiento.tomado <+: enVuelo)
    (acaba : movimiento = .fin → enVuelo = [] ∧ emisor.servicio.abierto = false) :
    Integra servido ⟨emisor, .transfiere (servicio'.avanza movimiento.dado.length) cadena',
      enVuelo.drop movimiento.tomado.length,
      movimiento.guarda fichero servicio.posicion⟩ := by
  have moved := paso.conserva_fuente hay
  have atEnd : servicio.posicion = fichero.length := integra.receptor.2
  have stored := movimiento.guarda_at_end fichero
  rw [← atEnd] at stored
  refine ⟨integra.emisor, ⟨?_, ?_⟩, ?_, Or.inl rfl, ?_⟩
  · rw [Cadena.sana_avanza]
    exact paso.sana integra.receptor.1
  · change servicio'.posicion + movimiento.dado.length =
      (movimiento.guarda fichero servicio.posicion).length
    rw [stored, List.length_append, paso.posicion, atEnd]
  · apply Eq.trans _ integra.entero
    simp only [Receptor.escrito, Receptor.retenido, Cadena.retenido_avanza, stored,
      List.append_assoc]
    rw [← List.append_assoc (cadena'.retenido servicio'), ← List.append_assoc movimiento.dado,
      moved, List.append_assoc]
  · intro _ ended
    cases ended
    have last := paso.eq_fin
    subst last
    obtain ⟨rfl, closed⟩ := acaba rfl
    exact ⟨rfl, integra.emisor.fin_of_cerrado closed⟩

/-- No step of either side loses, repeats or reorders a byte. -/
theorem Integra.paso (integra : estado.Integra servido)
    (paso : PasoTransferencia servido ventana estado accion siguiente) :
    siguiente.Integra servido := by
  cases paso with
  | doRead paso hay cabe acaba => exact integra.doRead paso hay acaba
  | doWrite paso hay acaba => exact integra.doWrite paso hay acaba
  | vacia =>
      exact ⟨integra.emisor, rfl, integra.entero, integra.establecida,
        fun _ other => nomatch other⟩
  | crea datos =>
      rcases integra with ⟨emisorSano, empty, entero, establecida, _⟩
      cases (empty : _ = [])
      exact ⟨emisorSano, ⟨FileService.compartido_create datos, rfl⟩, entero, establecida,
        fun _ other => nomatch other⟩
  | conecta =>
      exact ⟨integra.emisor, ⟨integra.receptor.1.getPtr, integra.receptor.2⟩, integra.entero,
        Or.inl rfl, fun _ other => nomatch other⟩
  | retornaConnect =>
      exact ⟨integra.emisor, ⟨integra.receptor.1.suelta, integra.receptor.2⟩, integra.entero,
        Or.inl rfl, fun _ other => nomatch other⟩
  | acepta connected =>
      refine ⟨integra.emisor.getPtr, integra.receptor, integra.entero, Or.inl connected, ?_⟩
      intro _ ended
      exact nomatch (integra.acabado _ ended).2
  | retornaAccept =>
      refine ⟨⟨integra.emisor.suelta, fun other => nomatch other⟩, integra.receptor,
        integra.entero, ?_, ?_⟩
      · exact integra.establecida.imp_right fun waits => nomatch waits
      · intro _ ended
        exact nomatch (integra.acabado _ ended).2

theorem integra_of_run {datos : Datos} {previo : Bytes} {acciones : List Accion}
    (run : Run (PasoTransferencia servido ventana) (fun _ _ => True)
      (inicioTransferencia datos previo) acciones estado) : estado.Integra servido :=
  run.invariant (Integra servido) (integra_inicio datos servido previo)
    fun holds _ step => holds.paso step

/-! ## The end of the transfer -/

/-- Every byte is paid for once at each side. -/
def medida (servido : Bytes) (estado : Transferencia) : Nat :=
  4 * (servido.drop estado.emisor.servicio.posicion).length + estado.emisor.faltan +
    (4 * (estado.enVuelo ++ estado.emisor.porEnviar servido).length + estado.receptor.faltan)

theorem Integra.medida_lt (integra : estado.Integra servido)
    (paso : PasoTransferencia servido ventana estado accion siguiente) :
    siguiente.medida servido < estado.medida servido := by
  cases paso with
  | vacia => exact Nat.lt_succ_self _
  | crea datos => exact Nat.lt_succ_self _
  | conecta => exact Nat.lt_succ_self _
  | retornaConnect => exact Nat.lt_succ_self _
  | acepta connected =>
      simp [medida, Emisor.faltan, Emisor.porEnviar, Emisor.servicio, FileService.getPtr]
  | retornaAccept =>
      simp [medida, Emisor.faltan, Emisor.porEnviar, Emisor.servicio, FileService.suelta,
        Cadena.faltan, Cadena.retenido]
  | @doRead servicio servicio' cadena cadena' movimiento _ _ _ paso hay cabe acaba =>
      have kept := congrArg List.length paso.conserva
      have taken := congrArg List.length (List.prefix_iff_eq_append.mp hay)
      have lower := paso.faltan_lt integra.emisor.1
      rw [List.drop_drop] at taken
      rw [List.length_append, List.length_append] at kept
      rw [List.length_append] at taken
      simp only [medida, Emisor.faltan, Emisor.porEnviar, Emisor.servicio, Cadena.retenido_avanza,
        Cadena.faltan_avanza, FileService.posicion_avanza, paso.posicion, List.length_append]
      omega
  | @doWrite emisor servicio servicio' cadena cadena' movimiento enVuelo fichero paso hay acaba =>
      have lower := paso.faltan_lt integra.receptor.1
      have inside := hay.length_le
      simp only [medida, Receptor.faltan, Cadena.faltan_avanza, List.length_append,
        List.length_drop]
      omega

/-- Both sides have ended: the local file is the served one, nothing is under way, and
both services have been destroyed. -/
def Completa (servido : Bytes) (estado : Transferencia) : Prop :=
  estado.fichero = servido ∧ estado.enVuelo = [] ∧
    (∃ servicio, estado.emisor = .transfiere servicio .fin ∧ servicio.referencias = 0 ∧
      servicio.abierto = false) ∧
    ∃ servicio, estado.receptor = .transfiere servicio .fin ∧ servicio.referencias = 0 ∧
      servicio.abierto = false

/-- The sender can act while the stream is empty, until it has ended. -/
theorem exists_doRead {servicio : FileService} {cadena : Cadena} (abierta : 0 < ventana)
    (sana : cadena.Sana servicio) (receptor : Receptor) (fichero : Bytes) :
    cadena = .fin ∨ ∃ movimiento siguiente, PasoTransferencia servido ventana
      ⟨.transfiere servicio cadena, receptor, [], fichero⟩ (.doRead movimiento) siguiente := by
  rcases PasoCadena.exists_of_ne servicio cadena sana with rfl | ended | inner
  · right
    cases left : servido.drop servicio.posicion with
    | nil =>
        exact ⟨_, _, .doRead (.error servicio) (List.nil_prefix) (Nat.zero_le _) fun _ => left⟩
    | cons byte resto =>
        have first : (Trozo.deUno byte).bytes <+: servido.drop servicio.posicion :=
          ⟨resto, left.symm⟩
        exact ⟨_, _, .doRead (.lee servicio (.deUno byte)) first (Nat.zero_le _)
          fun other => nomatch other⟩
  · exact Or.inl ended
  · obtain ⟨movimiento, ⟨servicio', cadena'⟩, paso, running, nothing, small⟩ := inner
    have none_taken : movimiento.tomado <+: servido.drop servicio.posicion := by
      rw [nothing]
      exact List.nil_prefix
    exact Or.inr ⟨_, _, .doRead paso none_taken (Nat.le_trans small abierta)
      fun ended => absurd ended running⟩

/-- A transfer that has not ended can go on. -/
theorem Integra.completa_or_paso (integra : estado.Integra servido) (abierta : 0 < ventana) :
    estado.Completa servido ∨
      ∃ accion siguiente, PasoTransferencia servido ventana estado accion siguiente := by
  rcases estado with ⟨emisor, receptor, enVuelo, fichero⟩
  cases receptor with
  | inicio => exact Or.inr ⟨_, _, .vacia⟩
  | vaciado => exact Or.inr ⟨_, _, .crea emisor.servicio.datos⟩
  | creado servicio => exact Or.inr ⟨_, _, .conecta⟩
  | conectado servicio => exact Or.inr ⟨_, _, .retornaConnect⟩
  | transfiere servicio cadena =>
      rcases PasoCadena.exists_of_ne servicio cadena integra.receptor.1 with rfl | rfl | inner
      · cases enVuelo with
        | cons byte resto =>
            -- The receiver takes what there is before the sender is asked for more.
            have first : (Trozo.deUno byte).bytes <+: byte :: resto := ⟨resto, rfl⟩
            exact Or.inr ⟨_, _, .doWrite (.lee servicio (.deUno byte)) first
              fun other => nomatch other⟩
        | nil =>
            right
            cases emisor with
            | escucha otro => exact ⟨_, _, .acepta rfl⟩
            | aceptado otro => exact ⟨_, _, .retornaAccept⟩
            | transfiere otro suya =>
                rcases exists_doRead abierta integra.emisor.1 (.transfiere servicio .lee) fichero
                  with rfl | ⟨movimiento, next, step⟩
                · have closed : otro.abierto = false := integra.emisor.1.2
                  exact ⟨_, _, .doWrite (.error servicio) List.nil_prefix fun _ => ⟨rfl, closed⟩⟩
                · exact ⟨_, _, step⟩
      · left
        obtain ⟨rfl, otro, rfl⟩ := integra.acabado servicio rfl
        have all := integra.entero
        have read : servido.drop otro.posicion = [] := integra.emisor.2 rfl
        simp only [Receptor.escrito, Receptor.retenido, Emisor.porEnviar, Cadena.retenido,
          read, List.append_nil] at all
        exact ⟨all, rfl, ⟨otro, rfl, integra.emisor.1⟩, servicio, rfl, integra.receptor.1⟩
      · right
        obtain ⟨movimiento, ⟨servicio', cadena'⟩, paso, running, nothing, _⟩ := inner
        have none_taken : movimiento.tomado <+: enVuelo := by
          rw [nothing]
          exact List.nil_prefix
        exact ⟨_, _, .doWrite paso none_taken fun ended => absurd ended running⟩

/-- However the reads, the writes and the stream split the bytes and however the two
sides are interleaved, a transfer takes a bounded number of steps, has every byte of the
served file in one place at each of them, and comes to a halt only when the local file,
whatever it held before, is the served file and both services have been destroyed. -/
theorem transferencia_exacta (servido previo : Bytes) (datos : Datos) {ventana : Nat}
    (abierta : 0 < ventana) {acciones : List Accion} {estado : Transferencia}
    (run : Run (PasoTransferencia servido ventana) (fun _ _ => True)
      (inicioTransferencia datos previo) acciones estado) :
    acciones.length ≤ 8 * servido.length + 8 ∧
    estado.receptor.escrito estado.fichero ++ estado.receptor.retenido ++ estado.enVuelo ++
      estado.emisor.porEnviar servido = servido ∧
    ((∀ accion siguiente, ¬ PasoTransferencia servido ventana estado accion siguiente) →
      estado.Completa servido) := by
  have integra := integra_of_run run
  refine ⟨?_, integra.entero, ?_⟩
  · have bounded := run.length_add_le (medida servido) (Integra servido)
      (integra_inicio datos servido previo)
      (fun holds _ step => holds.paso step) (fun holds _ step => holds.medida_lt step)
    have cost : (inicioTransferencia datos previo).medida servido = 8 * servido.length + 8 := by
      simp only [medida, inicioTransferencia, Emisor.servicio, Emisor.faltan, Receptor.faltan,
        Emisor.porEnviar, FileService.suelta, FileService.getPtr, FileService.create,
        List.drop_zero, List.nil_append]
      omega
    omega
  · intro stuck
    apply (integra.completa_or_paso abierta).resolve_right
    rintro ⟨accion, siguiente, step⟩
    exact stuck accion siguiente step

/-- Such a transfer exists, here over a longer file and through a stream of four bytes. -/
theorem transferencia_exacta_sobre_otro :
    ∃ acciones estado, Run (PasoTransferencia (ascii "nuevo") 4) (fun _ _ => True)
      (inicioTransferencia ⟨List.replicate 1024 0, List.length_replicate⟩
        (ascii "el fichero viejo")) acciones estado ∧ estado.fichero = ascii "nuevo" := by
  let datos : Datos := ⟨List.replicate 1024 0, List.length_replicate⟩
  have start := integra_inicio datos (ascii "nuevo") (ascii "el fichero viejo")
  have idle : Run (PasoTransferencia (ascii "nuevo") 4) (fun _ _ => True)
      (inicioTransferencia datos (ascii "el fichero viejo")) [] _ := Run.refl
  obtain ⟨acciones, estado, run, stuck⟩ :=
    idle.exists_stuck (medida (ascii "nuevo")) (Integra (ascii "nuevo"))
      (fun holds _ step => holds.paso step) (fun holds _ step => holds.medida_lt step) start
  have exacta := transferencia_exacta (ascii "nuevo") (ascii "el fichero viejo") datos
    (Nat.succ_pos 3) run
  exact ⟨_, estado, run, (exacta.2.2 fun accion next => stuck accion next trivial).1⟩

end Transferencia

/-! ## The download as a list of reads -/

theorem guardados_completas (trozos : List Trozo) :
    guardados (trozos.map (Lectura.datos · .completa)) = trozos.flatMap Trozo.bytes := by
  induction trozos with
  | nil => rfl
  | cons trozo resto ih => rw [List.map_cons, guardados, ih, List.flatMap_cons]

/-- The reads of a step of the receiver. -/
def Accion.lecturas : Accion → List Trozo
  | .doWrite (.lee trozo) => [trozo]
  | _ => []

namespace Transferencia

variable {servido : Bytes} {ventana : Nat} {estado siguiente : Transferencia} {accion : Accion}

theorem Integra.recibe (integra : estado.Integra servido)
    (paso : PasoTransferencia servido ventana estado accion siguiente) :
    siguiente.receptor.escrito siguiente.fichero ++ siguiente.receptor.retenido =
      estado.receptor.escrito estado.fichero ++ estado.receptor.retenido ++
        accion.lecturas.flatMap Trozo.bytes := by
  cases paso with
  | vacia => rfl
  | crea datos => simp [Receptor.escrito, Receptor.retenido, Accion.lecturas]
  | conecta => simp [Receptor.escrito, Receptor.retenido, Accion.lecturas]
  | retornaConnect =>
      simp [Receptor.escrito, Receptor.retenido, Cadena.retenido, Accion.lecturas]
  | acepta connected => simp [Accion.lecturas]
  | retornaAccept => simp [Accion.lecturas]
  | doRead paso hay cabe acaba => simp [Accion.lecturas]
  | @doWrite emisor servicio servicio' cadena cadena' movimiento enVuelo fichero paso hay acaba =>
      have stored := movimiento.guarda_at_end fichero
      have atEnd : servicio.posicion = fichero.length := integra.receptor.2
      have taken : (Accion.doWrite movimiento).lecturas.flatMap Trozo.bytes =
          movimiento.tomado := by
        cases movimiento with
        | lee trozo => exact List.flatMap_singleton _ _
        | escribe bytes => rfl
        | interno => rfl
        | fin => rfl
      rw [taken]
      simp only [Receptor.escrito, Receptor.retenido, Cadena.retenido_avanza, atEnd, stored]
      rw [List.append_assoc, ← paso.conserva, List.append_assoc]

/-- The receiver's reads, in whatever order the sides took their steps, are those of
`do_write` over an empty file: it has stored what the receiver has written, and what is
still in its array. -/
theorem doWrite_lecturas (datos : Datos) (previo : Bytes) {acciones : List Accion}
    (run : Run (PasoTransferencia servido ventana) (fun _ _ => True)
      (inicioTransferencia datos previo) acciones estado) :
    (doWrite [] ((acciones.flatMap Accion.lecturas).map (Lectura.datos · .completa))).1 =
      estado.receptor.escrito estado.fichero ++ estado.receptor.retenido := by
  rw [doWrite_contenido, List.nil_append, guardados_completas]
  induction run with
  | refl => rfl
  | tail before _ last ih =>
      rw [(integra_of_run before).recibe last, List.flatMap_append, List.flatMap_append, ih,
        List.flatMap_singleton]

end Transferencia

end DescargaP2P.Cliente
