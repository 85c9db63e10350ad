import DescargaP2P.Cliente.Core
import DescargaP2P.Cpp.StandardInput
import DescargaP2P.Transition.Iteration

/-!
# The menu and the standard input

`main` of the client takes the options of its menu and their words from `std::cin`,
which it never checks.  One iteration of its loop reads one order and performs the
exchange with the server.  The variables `nombre`, `ip` and `puerto` live outside the
loop; `opcion` is 0 at the start of every iteration, and 0 is a valid option.
-/

namespace DescargaP2P.Cliente

open DescargaP2P.Cpp
open DescargaP2P.Text
open DescargaP2P.Transition

/-! ## The loop -/

/-- `std::cin` and the variables that keep their value from one iteration to the next. -/
structure Teclado where
  cin : Istream
  nombre : Bytes
  ip : Bytes
  puerto : Bytes
  deriving DecidableEq, Repr

/-- The client at the head of the loop: what it has sent, and the arguments of the
threads it has started. -/
structure Menu where
  teclado : Teclado
  enviadas : List Bytes
  servidorasEscuchando : List (UInt16 × Bytes)
  descargas : List (Bytes × Bytes)
  deriving DecidableEq, Repr

/-- What an iteration does to the loop: another one, the `default` branch, or the end of
the process. -/
inductive Vuelta
  | sigue (menu : Menu)
  | sale
  | termina (causa : Termination)
  deriving DecidableEq, Repr

/-- A server that answers every request, whatever the client has sent so far. -/
abbrev Respondedor := List Bytes → Bytes

/-- `int opcion = 0` and `std::cin >> opcion`. -/
def Teclado.leeOpcion (teclado : Teclado) : Int × Teclado :=
  let opcion := readInt teclado.cin 0
  (opcion.1, { teclado with cin := opcion.2 })

/-- `std::cin >> nombre`, `>> ip` and `>> puerto`. -/
def Teclado.leeCampos (teclado : Teclado) : Teclado :=
  let nombre := readWord teclado.cin teclado.nombre
  let ip := readWord nombre.2 teclado.ip
  let puerto := readWord ip.2 teclado.puerto
  ⟨puerto.2, nombre.1, ip.1, puerto.1⟩

def Menu.envia (menu : Menu) (mensaje : Bytes) : Menu :=
  { menu with enviadas := menu.enviadas ++ [mensaje] }

/-- `case 1`. -/
def subir (servidor : Respondedor) (menu : Menu) : Vuelta :=
  let pedido := menu.envia (decimal 1)
  if servidor pedido.enviadas = ack then
    let teclado := menu.teclado.leeCampos
    let subido := { pedido with teclado := teclado }.envia
      (solicitud teclado.nombre teclado.ip teclado.puerto)
    if servidor subido.enviadas = ack then
      match stoi teclado.puerto with
      | .error causa => .termina (.uncaught causa)
      | .ok numero =>
          .sigue { subido with
            servidorasEscuchando :=
              subido.servidorasEscuchando ++ [(narrow16 numero, teclado.nombre)] }
    else .termina .exitFailure
  else .termina .exitFailure

/-- `case 2`.  The name is read into `solicitud`, which is empty in every iteration. -/
def descargar (servidor : Respondedor) (menu : Menu) : Vuelta :=
  let pedido := menu.envia (decimal 2)
  if servidor pedido.enviadas = ack then
    let nombre := readWord menu.teclado.cin []
    let consultado := { pedido with teclado := { menu.teclado with cin := nombre.2 } }.envia nombre.1
    let reply := servidor consultado.enviadas
    if reply = ascii "EMPTY" then .sigue consultado
    else .sigue { consultado with descargas := consultado.descargas ++ [(nombre.1, reply)] }
  else .termina .exitFailure

/-- One iteration of `while (noFin)`. -/
def vuelta (servidor : Respondedor) (menu : Menu) : Vuelta :=
  let leido := { menu with teclado := menu.teclado.leeOpcion.2 }
  match menu.teclado.leeOpcion.1 with
  | 0 => .sigue (leido.envia (decimal 0))
  | 1 => subir servidor leido
  | 2 => descargar servidor leido
  | _ => .sale

/-- The head of the next iteration, if there is one. -/
def siguiente (servidor : Respondedor) (menu : Menu) : Option Menu :=
  match vuelta servidor menu with
  | .sigue proximo => some proximo
  | _ => none

/-- `main` before its first iteration. -/
def alEmpezar (entrada : Bytes) : Menu :=
  ⟨⟨Istream.ofText entrada, [], [], []⟩, [], [], []⟩

/-- The loop performs finitely many iterations on this input. -/
def MenuTermina (servidor : Respondedor) (entrada : Bytes) : Prop :=
  Terminates (siguiente servidor) (alEmpezar entrada)

/-! ## The orders of an input -/

/-- What one iteration reads. -/
inductive Orden
  | ilegible
  | otra
  | pide (operacion : Operacion)
  deriving DecidableEq, Repr

/-- The next order of the input.  An option that cannot be read leaves 0. -/
def Teclado.lee (teclado : Teclado) : Orden × Teclado :=
  let leido := teclado.leeOpcion.2
  match teclado.leeOpcion.1 with
  | 0 => if leido.cin.failed then (.ilegible, leido) else (.pide .listar, leido)
  | 1 =>
      let campos := leido.leeCampos
      (.pide (.subir campos.nombre campos.ip campos.puerto), campos)
  | 2 =>
      let nombre := readWord leido.cin []
      (.pide (.descargar nombre.1), { leido with cin := nombre.2 })
  | _ => (.otra, leido)

/-- The operations of an input up to the first order that is none, and whether that one
is an option without a case.  The fuel bounds their number. -/
def leeOrdenes : Nat → Teclado → List Operacion × Bool
  | 0, _ => ([], false)
  | fuel + 1, teclado =>
      match teclado.lee with
      | (.ilegible, _) => ([], false)
      | (.otra, _) => ([], true)
      | (.pide operacion, resto) =>
          let ordenes := leeOrdenes fuel resto
          (operacion :: ordenes.1, ordenes.2)

/-- The orders of an input.  Each consumes a byte, so its length bounds their number. -/
def ordenes (entrada : Bytes) : List Operacion × Bool :=
  leeOrdenes (entrada.length + 1) (alEmpezar entrada).teclado

/-- The messages of an operation. -/
def Operacion.mensajes : Operacion → List Bytes
  | .listar => [decimal 0]
  | .subir nombre ip puerto => [decimal 1, solicitud nombre ip puerto]
  | .descargar nombre => [decimal 2, nombre]

/-- The operation ends the client: the server does not acknowledge it, or its port is not
a number. -/
def AcabaCon (servidor : Respondedor) (enviadas : List Bytes) : Operacion → Prop
  | .listar => False
  | .subir nombre ip puerto =>
      servidor (enviadas ++ [decimal 1]) ≠ ack ∨
        servidor (enviadas ++ [decimal 1, solicitud nombre ip puerto]) ≠ ack ∨
        ∃ causa, stoi puerto = .error causa
  | .descargar _ => servidor (enviadas ++ [decimal 2]) ≠ ack

/-- The orders of an input end the loop: with an option without a case, or with an
operation that ends the client. -/
def Cierra (servidor : Respondedor) (enviadas : List Bytes) (leidas : List Operacion × Bool) :
    Prop :=
  leidas.2 = true ∨
    ∃ previas operacion resto, leidas.1 = previas ++ operacion :: resto ∧
      AcabaCon servidor (enviadas ++ previas.flatMap Operacion.mensajes) operacion

/-! ## What one iteration does -/

/-- An upload ends the client or goes on with its two messages sent. -/
theorem subir_cases (servidor : Respondedor) (menu : Menu) :
    (AcabaCon servidor menu.enviadas
        (.subir menu.teclado.leeCampos.nombre menu.teclado.leeCampos.ip
          menu.teclado.leeCampos.puerto) ∧
        ∃ causa, subir servidor menu = .termina causa) ∨
      (¬ AcabaCon servidor menu.enviadas
          (.subir menu.teclado.leeCampos.nombre menu.teclado.leeCampos.ip
            menu.teclado.leeCampos.puerto) ∧
        ∃ proximo, subir servidor menu = .sigue proximo ∧
          proximo.teclado = menu.teclado.leeCampos ∧
          proximo.enviadas = menu.enviadas ++ Operacion.mensajes
            (.subir menu.teclado.leeCampos.nombre menu.teclado.leeCampos.ip
              menu.teclado.leeCampos.puerto)) := by
  simp only [subir, Menu.envia, AcabaCon, Operacion.mensajes, List.append_assoc,
    List.singleton_append]
  by_cases first : servidor (menu.enviadas ++ [decimal 1]) = ack
  · rw [if_pos first]
    by_cases second : servidor (menu.enviadas ++ [decimal 1, solicitud
        menu.teclado.leeCampos.nombre menu.teclado.leeCampos.ip
        menu.teclado.leeCampos.puerto]) = ack
    · rw [if_pos second]
      cases read : stoi menu.teclado.leeCampos.puerto with
      | error causa => exact Or.inl ⟨Or.inr (Or.inr ⟨causa, rfl⟩), _, rfl⟩
      | ok numero =>
          refine Or.inr ⟨?_, _, rfl, rfl, rfl⟩
          rintro (refused | refused | ⟨causa, refused⟩)
          · exact refused first
          · exact refused second
          · cases refused
    · rw [if_neg second]
      exact Or.inl ⟨Or.inr (Or.inl second), _, rfl⟩
  · rw [if_neg first]
    exact Or.inl ⟨Or.inl first, _, rfl⟩

/-- A download ends the client or goes on with its two messages sent. -/
theorem descargar_cases (servidor : Respondedor) (menu : Menu) :
    (AcabaCon servidor menu.enviadas (.descargar (readWord menu.teclado.cin []).1) ∧
        ∃ causa, descargar servidor menu = .termina causa) ∨
      (¬ AcabaCon servidor menu.enviadas (.descargar (readWord menu.teclado.cin []).1) ∧
        ∃ proximo, descargar servidor menu = .sigue proximo ∧
          proximo.teclado = { menu.teclado with cin := (readWord menu.teclado.cin []).2 } ∧
          proximo.enviadas = menu.enviadas ++ Operacion.mensajes
            (.descargar (readWord menu.teclado.cin []).1)) := by
  simp only [descargar, Menu.envia, AcabaCon, Operacion.mensajes, List.append_assoc,
    List.singleton_append]
  by_cases first : servidor (menu.enviadas ++ [decimal 2]) = ack
  · rw [if_pos first]
    right
    refine ⟨fun refused => refused first, ?_⟩
    split
    · exact ⟨_, rfl, rfl, rfl⟩
    · exact ⟨_, rfl, rfl, rfl⟩
  · rw [if_neg first]
    exact Or.inl ⟨first, _, rfl⟩

theorem siguiente_of_sigue {servidor : Respondedor} {menu proximo : Menu}
    (goesOn : vuelta servidor menu = .sigue proximo) : siguiente servidor menu = some proximo := by
  rw [siguiente, goesOn]

/-- An unreadable option is the listing once more. -/
theorem vuelta_of_ilegible {menu : Menu} {resto : Teclado}
    (read : menu.teclado.lee = (.ilegible, resto)) (servidor : Respondedor) :
    resto.cin.failed = true ∧
      vuelta servidor menu = .sigue ({ menu with teclado := resto }.envia (decimal 0)) := by
  simp only [Teclado.lee] at read
  split at read
  · rename_i zero
    split at read
    · rename_i failed
      obtain ⟨_, rfl⟩ := Prod.mk.inj read
      exact ⟨failed, by simp only [vuelta, zero]⟩
    · cases read
  all_goals cases read

/-- Any other option leaves the loop. -/
theorem vuelta_of_otra {menu : Menu} {resto : Teclado}
    (read : menu.teclado.lee = (.otra, resto)) (servidor : Respondedor) :
    vuelta servidor menu = .sale := by
  simp only [Teclado.lee] at read
  split at read
  · split at read <;> cases read
  · cases read
  · cases read
  · simp only [vuelta]

/-- An operation ends the client or goes on with its messages sent. -/
theorem vuelta_of_pide {menu : Menu} {operacion : Operacion} {resto : Teclado}
    (read : menu.teclado.lee = (.pide operacion, resto)) (servidor : Respondedor) :
    (AcabaCon servidor menu.enviadas operacion ∧
        ∃ causa, vuelta servidor menu = .termina causa) ∨
      (¬ AcabaCon servidor menu.enviadas operacion ∧
        ∃ proximo, vuelta servidor menu = .sigue proximo ∧ proximo.teclado = resto ∧
          proximo.enviadas = menu.enviadas ++ operacion.mensajes) := by
  simp only [Teclado.lee] at read
  split at read
  · rename_i zero
    split at read
    · cases read
    · obtain ⟨listing, rfl⟩ := Prod.mk.inj read
      cases listing
      simp only [vuelta, zero]
      exact Or.inr ⟨fun never => never, _, rfl, rfl, rfl⟩
  · rename_i one
    obtain ⟨upload, rfl⟩ := Prod.mk.inj read
    cases upload
    simp only [vuelta, one]
    exact subir_cases servidor { menu with teclado := menu.teclado.leeOpcion.2 }
  · rename_i two
    obtain ⟨download, rfl⟩ := Prod.mk.inj read
    cases download
    simp only [vuelta, two]
    exact descargar_cases servidor { menu with teclado := menu.teclado.leeOpcion.2 }
  · cases read

/-! ## The exchange of an iteration -/

/-- The next socket operation of the process of the menu, with what it has sent so far. -/
def contesta (servidor : Respondedor) (dialogo : List Bytes × Estado) : List Bytes × Estado :=
  match accion dialogo.2 with
  | .send mensaje => (dialogo.1 ++ [mensaje], enviada dialogo.2)
  | .receive => (dialogo.1, recibida dialogo.2 (servidor dialogo.1))
  | .idle => dialogo

/-- The socket operations of an operation. -/
def Operacion.pasos : Operacion → Nat
  | .listar => 2
  | .subir .. => 4
  | .descargar _ => 4

/-- The process of the menu before an operation of its script. -/
def Menu.proceso (menu : Menu) (operacion : Operacion) (guion : List Operacion)
    (respuestas : List (Operacion × Bytes)) : Estado :=
  ⟨.menu, operacion :: guion, respuestas, menu.servidorasEscuchando, menu.descargas⟩

/-- The process has performed the iteration: it has sent the same messages and started the
same threads, or ended for the same cause. -/
def Realiza (dialogo : List Bytes × Estado) (guion : List Operacion) : Vuelta → Prop
  | .sigue proximo =>
      dialogo.1 = proximo.enviadas ∧ dialogo.2.punto = .menu ∧ dialogo.2.guion = guion ∧
        dialogo.2.servidorasEscuchando = proximo.servidorasEscuchando ∧
        dialogo.2.descargas = proximo.descargas
  | .termina causa => dialogo.2.punto = .terminado causa
  | .sale => False

theorem subir_realiza (servidor : Respondedor) (menu : Menu) (guion : List Operacion)
    (respuestas : List (Operacion × Bytes)) :
    Realiza ((contesta servidor)^[4] (menu.enviadas, menu.proceso
      (.subir menu.teclado.leeCampos.nombre menu.teclado.leeCampos.ip
        menu.teclado.leeCampos.puerto) guion respuestas)) guion (subir servidor menu) := by
  by_cases first : servidor (menu.enviadas ++ [decimal 1]) = ack
  · by_cases second : servidor (menu.enviadas ++ [decimal 1, solicitud
        menu.teclado.leeCampos.nombre menu.teclado.leeCampos.ip
        menu.teclado.leeCampos.puerto]) = ack
    · cases read : stoi menu.teclado.leeCampos.puerto with
      | error causa =>
          simp [Realiza, subir, Menu.envia, Menu.proceso, contesta, accion, enviada, recibida,
            Operacion.espera, Operacion.opcion, siAck, first, second, read, lanzaServidora,
            completa]
      | ok numero =>
          simp [Realiza, subir, Menu.envia, Menu.proceso, contesta, accion, enviada, recibida,
            Operacion.espera, Operacion.opcion, siAck, first, second, read, lanzaServidora,
            completa]
    · simp [Realiza, subir, Menu.envia, Menu.proceso, contesta, accion, enviada, recibida,
        Operacion.espera, Operacion.opcion, siAck, first, second]
  · simp [Realiza, subir, Menu.envia, Menu.proceso, contesta, accion, enviada, recibida,
      Operacion.espera, Operacion.opcion, siAck, first]

theorem descargar_realiza (servidor : Respondedor) (menu : Menu) (guion : List Operacion)
    (respuestas : List (Operacion × Bytes)) :
    Realiza ((contesta servidor)^[4] (menu.enviadas, menu.proceso
      (.descargar (readWord menu.teclado.cin []).1) guion respuestas)) guion
      (descargar servidor menu) := by
  by_cases first : servidor (menu.enviadas ++ [decimal 2]) = ack
  · by_cases empty : servidor (menu.enviadas ++ [decimal 2, (readWord menu.teclado.cin []).1]) =
        ascii "EMPTY"
    · simp [Realiza, descargar, Menu.envia, Menu.proceso, contesta, accion, enviada, recibida,
        Operacion.espera, Operacion.opcion, siAck, first, empty, lanzaDescarga, completa]
    · simp [Realiza, descargar, Menu.envia, Menu.proceso, contesta, accion, enviada, recibida,
        Operacion.espera, Operacion.opcion, siAck, first, empty, lanzaDescarga, completa]
  · simp [Realiza, descargar, Menu.envia, Menu.proceso, contesta, accion, enviada, recibida,
      Operacion.espera, Operacion.opcion, siAck, first]

/-- An iteration performs the exchange of the operation that it reads. -/
theorem vuelta_realiza {menu : Menu} {operacion : Operacion} {resto : Teclado}
    (read : menu.teclado.lee = (.pide operacion, resto)) (servidor : Respondedor)
    (guion : List Operacion) (respuestas : List (Operacion × Bytes)) :
    Realiza ((contesta servidor)^[operacion.pasos]
      (menu.enviadas, menu.proceso operacion guion respuestas)) guion (vuelta servidor menu) := by
  simp only [Teclado.lee] at read
  split at read
  · rename_i zero
    split at read
    · cases read
    · obtain ⟨listing, rfl⟩ := Prod.mk.inj read
      cases listing
      simp only [vuelta, zero]
      simp [Realiza, Menu.envia, Menu.proceso, Operacion.pasos, contesta, accion, enviada,
        recibida, Operacion.espera, Operacion.opcion, completa]
  · rename_i one
    obtain ⟨upload, rfl⟩ := Prod.mk.inj read
    cases upload
    simp only [vuelta, one]
    exact subir_realiza servidor { menu with teclado := menu.teclado.leeOpcion.2 } guion respuestas
  · rename_i two
    obtain ⟨download, rfl⟩ := Prod.mk.inj read
    cases download
    simp only [vuelta, two]
    exact descargar_realiza servidor { menu with teclado := menu.teclado.leeOpcion.2 } guion
      respuestas
  · cases read

/-- Iterations that read operations perform them one after the other. -/
theorem realiza_of_iterate (servidor : Respondedor) {n fuel : Nat} {menu final : Menu}
    {dialogo : List Bytes × Estado}
    (start : Realiza dialogo (leeOrdenes fuel menu.teclado).1 (.sigue menu))
    (within : n ≤ (leeOrdenes fuel menu.teclado).1.length)
    (ran : iterate (siguiente servidor) n menu = some final) :
    ∃ pasos, Realiza ((contesta servidor)^[pasos] dialogo)
      ((leeOrdenes fuel menu.teclado).1.drop n) (.sigue final) := by
  induction n generalizing fuel menu dialogo with
  | zero =>
      cases ran
      exact ⟨0, start⟩
  | succ n ih =>
      cases fuel with
      | zero => exact absurd within (Nat.not_succ_le_zero n)
      | succ fuel =>
          rcases read : menu.teclado.lee with ⟨orden, resto⟩
          rw [leeOrdenes, read] at start within ⊢
          cases orden with
          | ilegible => exact absurd within (Nat.not_succ_le_zero n)
          | otra => exact absurd within (Nat.not_succ_le_zero n)
          | pide operacion =>
              obtain ⟨proximo, taken, later⟩ := Option.bind_eq_some_iff.mp ran
              rcases vuelta_of_pide read servidor with ⟨_, causa, ended⟩ |
                ⟨_, reached, goesOn, same, _⟩
              · rw [siguiente, ended] at taken
                cases taken
              · rw [siguiente_of_sigue goesOn] at taken
                cases taken
                have performed := vuelta_realiza read servidor (leeOrdenes fuel resto).1
                  dialogo.2.respuestas
                have before : dialogo = (menu.enviadas, menu.proceso operacion
                    (leeOrdenes fuel resto).1 dialogo.2.respuestas) := by
                  obtain ⟨sent, atMenu, script, listeners, downloads⟩ := start
                  rcases dialogo with ⟨enviadas, punto, guion, respuestas, servidoras, descargas⟩
                  cases sent
                  cases atMenu
                  cases script
                  cases listeners
                  cases downloads
                  rfl
                rw [← before, goesOn] at performed
                rw [← same] at performed within ⊢
                obtain ⟨pasos, ended⟩ := ih performed (Nat.le_of_succ_le_succ within) later
                refine ⟨pasos + operacion.pasos, ?_⟩
                rw [Function.iterate_add_apply]
                exact ended

/-- The loop on an input is the process of the menu on the operations of that input, for as
long as they last. -/
theorem menu_realiza_su_guion (servidor : Respondedor) (entrada : Bytes) {n : Nat} {menu : Menu}
    (within : n ≤ (ordenes entrada).1.length)
    (ran : iterate (siguiente servidor) n (alEmpezar entrada) = some menu) :
    ∃ pasos, Realiza ((contesta servidor)^[pasos] ([], inicial (ordenes entrada).1))
      ((ordenes entrada).1.drop n) (.sigue menu) :=
  realiza_of_iterate servidor ⟨rfl, rfl, rfl, rfl, rfl⟩ within ran

/-! ## When the loop ends -/

/-- Once an extraction has failed, every option is unreadable. -/
theorem lee_of_failed {teclado : Teclado} (failed : teclado.cin.failed = true) :
    teclado.lee = (.ilegible, teclado) := by
  have option : teclado.leeOpcion = (0, teclado) := by
    rw [Teclado.leeOpcion, readInt_of_failed failed]
  simp only [Teclado.lee, option, failed, if_true]

/-- After a failed extraction the loop lists the files forever. -/
theorem no_termina_of_failed {menu : Menu} (failed : menu.teclado.cin.failed = true)
    (servidor : Respondedor) : ¬ Terminates (siguiente servidor) menu := by
  apply not_terminates_of_kept (fun menu => menu.teclado.cin.failed = true) _ failed
  intro menu failed
  obtain ⟨_, goesOn⟩ := vuelta_of_ilegible (lee_of_failed failed) servidor
  exact ⟨_, siguiente_of_sigue goesOn, failed⟩

theorem no_termina_of_ilegible {menu : Menu} {resto : Teclado}
    (read : menu.teclado.lee = (.ilegible, resto)) (servidor : Respondedor) :
    ¬ Terminates (siguiente servidor) menu := by
  obtain ⟨failed, goesOn⟩ := vuelta_of_ilegible read servidor
  rw [terminates_iff_of_some (siguiente_of_sigue goesOn)]
  exact no_termina_of_failed failed servidor

theorem leeCampos_within (teclado : Teclado) : teclado.leeCampos.cin.Within teclado.cin :=
  ((readWord_within _ _).trans (readWord_within _ _)).trans (readWord_within _ _)

/-- An option that is read as 1 or 2 has consumed a byte. -/
theorem leeOpcion_shortens {teclado : Teclado} {opcion : Int}
    (read : teclado.leeOpcion.1 = opcion) (isCase : opcion = 1 ∨ opcion = 2) :
    teclado.leeOpcion.2.cin.failed = false ∧
      teclado.leeOpcion.2.cin.remaining.length < teclado.cin.remaining.length := by
  rcases readInt_cases teclado.cin 0 with ⟨_, value⟩ | consumed
  · simp only [Teclado.leeOpcion] at read
    rw [read] at value
    omega
  · exact consumed

/-- An order leaves a failed stream or a shorter one. -/
theorem lee_shortens {teclado resto : Teclado} {operacion : Operacion}
    (read : teclado.lee = (.pide operacion, resto)) :
    resto.cin.failed = true ∨ resto.cin.remaining.length < teclado.cin.remaining.length := by
  have words : ∀ later : Istream, later.Within teclado.leeOpcion.2.cin →
      teclado.leeOpcion.2.cin.remaining.length < teclado.cin.remaining.length →
      later.failed = true ∨ later.remaining.length < teclado.cin.remaining.length := by
    rintro later (failed | ⟨_, _, kept⟩) shorter
    · exact Or.inl failed
    · exact Or.inr (Nat.lt_of_le_of_lt kept shorter)
  simp only [Teclado.lee] at read
  split at read
  · split at read
    · cases read
    · rename_i works
      obtain ⟨_, rfl⟩ := Prod.mk.inj read
      rcases readInt_cases teclado.cin 0 with ⟨failed, _⟩ | ⟨_, shorter⟩
      · exact absurd failed works
      · exact Or.inr shorter
  · rename_i one
    obtain ⟨_, rfl⟩ := Prod.mk.inj read
    exact words _ (leeCampos_within _) (leeOpcion_shortens one (Or.inl rfl)).2
  · rename_i two
    obtain ⟨_, rfl⟩ := Prod.mk.inj read
    exact words _ (readWord_within _ _) (leeOpcion_shortens two (Or.inr rfl)).2
  · cases read

/-- The first order decides, or the ones after it. -/
theorem cierra_cons (servidor : Respondedor) (enviadas : List Bytes) (operacion : Operacion)
    (leidas : List Operacion × Bool) :
    Cierra servidor enviadas (operacion :: leidas.1, leidas.2) ↔
      AcabaCon servidor enviadas operacion ∨
        Cierra servidor (enviadas ++ operacion.mensajes) leidas := by
  constructor
  · rintro (other | ⟨previas, ultima, resto, cut, ends⟩)
    · exact Or.inr (Or.inl other)
    · cases previas with
      | nil =>
          obtain ⟨rfl, rfl⟩ := List.cons_eq_cons.mp cut
          rw [List.flatMap_nil, List.append_nil] at ends
          exact Or.inl ends
      | cons primera previas =>
          obtain ⟨rfl, later⟩ := List.cons_eq_cons.mp cut
          rw [List.flatMap_cons, ← List.append_assoc] at ends
          exact Or.inr (Or.inr ⟨previas, ultima, resto, later, ends⟩)
  · rintro (ends | other | ⟨previas, ultima, resto, cut, ends⟩)
    · exact Or.inr ⟨[], operacion, leidas.1, rfl, by simpa using ends⟩
    · exact Or.inl other
    · refine Or.inr ⟨operacion :: previas, ultima, resto, by rw [cut, List.cons_append], ?_⟩
      rwa [List.flatMap_cons, ← List.append_assoc]

/-- Nothing more is read from a stream that has failed. -/
theorem not_cierra_of_failed {teclado : Teclado} (failed : teclado.cin.failed = true)
    (servidor : Respondedor) (enviadas : List Bytes) (fuel : Nat) :
    ¬ Cierra servidor enviadas (leeOrdenes fuel teclado) := by
  have none : leeOrdenes fuel teclado = ([], false) := by
    cases fuel with
    | zero => rfl
    | succ fuel => rw [leeOrdenes, lee_of_failed failed]
  rw [none]
  rintro (other | ⟨previas, operacion, resto, cut, _⟩)
  · cases other
  · cases previas <;> cases cut

/-- The loop ends exactly when the orders that are left end it. -/
theorem termina_iff_cierra (servidor : Respondedor) (fuel : Nat) (menu : Menu)
    (enough : menu.teclado.cin.failed = true ∨ menu.teclado.cin.remaining.length < fuel) :
    Terminates (siguiente servidor) menu ↔
      Cierra servidor menu.enviadas (leeOrdenes fuel menu.teclado) := by
  induction fuel generalizing menu with
  | zero =>
      rcases enough with failed | impossible
      · exact iff_of_false (no_termina_of_failed failed servidor)
          (not_cierra_of_failed failed servidor menu.enviadas 0)
      · exact absurd impossible (Nat.not_lt_zero _)
  | succ fuel ih =>
      rcases read : menu.teclado.lee with ⟨orden, resto⟩
      cases orden with
      | ilegible =>
          rw [leeOrdenes, read]
          apply iff_of_false (no_termina_of_ilegible read servidor)
          rintro (other | ⟨previas, operacion, resto, cut, _⟩)
          · cases other
          · cases previas <;> cases cut
      | otra =>
          rw [leeOrdenes, read]
          apply iff_of_true _ (Or.inl rfl)
          exact terminates_of_none (by rw [siguiente, vuelta_of_otra read])
      | pide operacion =>
          rw [leeOrdenes, read, cierra_cons]
          rcases vuelta_of_pide read servidor with ⟨ends, causa, ended⟩ |
            ⟨goesOn, proximo, taken, same, sent⟩
          · exact iff_of_true (terminates_of_none (by rw [siguiente, ended])) (Or.inl ends)
          · have left : proximo.teclado.cin.failed = true ∨
                proximo.teclado.cin.remaining.length < fuel := by
              rw [same]
              rcases lee_shortens read with failed | shorter
              · exact Or.inl failed
              · rcases enough with failed | bound
                · rw [lee_of_failed failed] at read
                  cases read
                · exact Or.inr (Nat.lt_of_lt_of_le shorter (Nat.lt_succ_iff.mp bound))
            rw [terminates_iff_of_some (siguiente_of_sigue taken), ih proximo left, same, sent]
            exact (or_iff_right goesOn).symm

/-- The loop performs finitely many iterations exactly when the orders of the input, up to
the first option that cannot be read, end it: one is an option without a case, or an
operation that the server does not acknowledge or whose port is not a number. -/
theorem menu_termina_iff (servidor : Respondedor) (entrada : Bytes) :
    MenuTermina servidor entrada ↔ Cierra servidor [] (ordenes entrada) :=
  termina_iff_cierra servidor (entrada.length + 1) (alEmpezar entrada)
    (Or.inr (Nat.lt_succ_self entrada.length))

example : ordenes (ascii "0 1 f 1.2.3.4\t80x\n2 f -7") =
    ([.listar, .subir (ascii "f") (ascii "1.2.3.4") (ascii "80x"), .descargar (ascii "f")], true) := by
  decide

/-- A word in the place of an option and the end of the input are listings without end. -/
theorem menu_sin_fin :
    ¬ MenuTermina (fun _ => ack) (ascii "0 hola") ∧ ¬ MenuTermina (fun _ => ack) [] := by
  constructor
  · have listed : siguiente (fun _ => ack) (alEmpezar (ascii "0 hola")) =
        some ⟨⟨⟨ascii " hola", false⟩, [], [], []⟩, [decimal 0], [], []⟩ := by decide +kernel
    have unreadable : (⟨⟨ascii " hola", false⟩, [], [], []⟩ : Teclado).lee =
        (.ilegible, ⟨⟨ascii "hola", true⟩, [], [], []⟩) := by decide +kernel
    rw [MenuTermina, terminates_iff_of_some listed]
    exact no_termina_of_ilegible unreadable _
  · have unreadable : (alEmpezar []).teclado.lee = (.ilegible, ⟨⟨[], true⟩, [], [], []⟩) := by
      decide +kernel
    exact no_termina_of_ilegible unreadable _

end DescargaP2P.Cliente
