import DescargaP2P.Almacen.Reinicios
import DescargaP2P.Servidor.Apagado

/-!
# One process after another

The server ends in any of the ways it can, and the next process loads the backup that
has been left, which is the table of the last SIGINT that was saved, if there was one.
Addresses get lost on the way.  As long as no registration can be misread, none is
invented: a file only ever has addresses that it was registered with, in that order.
-/

namespace DescargaP2P.Servidor.Apagado

open DescargaP2P.Almacen
open DescargaP2P.Collections
open DescargaP2P.Text
open DescargaP2P.Transition

/-- The steps of a process, and the start of the next one. -/
inductive PasoSesion (salida : Salida) : Labelled Estado (Option Evento)
  | paso {estado siguiente : Estado} {evento : Evento} :
      Paso salida estado evento siguiente → PasoSesion salida estado (some evento) siguiente
  | arranca {estado : Estado} :
      estado.fin = true → PasoSesion salida estado none (inicio estado.backup)

/-- The registration that an event stands for. -/
def registroDe : Option Evento → Option (Bytes × ParIpPuerto)
  | some (.registra solicitud) => registro solicitud
  | _ => none

/-- Every registration is unequivocal. -/
def Registrable (_ : Estado) (evento : Option Evento) : Prop :=
  ∀ entrada, registroDe evento = some entrada → Inequivoca entrada

/-! ## Tables that come from registrations -/

/-- The addresses of a table have been registered, in that order. -/
structure Procede (registrados : List (Bytes × ParIpPuerto)) (tabla : Tabla) : Prop where
  nonempty : tabla.NonemptyLists
  inequivocas : ∀ entrada ∈ tabla.pairs, Inequivoca entrada
  sublist : ∀ fichero,
    (tabla.elements fichero).Sublist (OrderedMap.grouped registrados fichero)

section Procedencia

variable {registrados : List (Bytes × ParIpPuerto)} {tabla : Tabla}

theorem procede_vacia : Procede [] OrderedMap.empty :=
  ⟨OrderedMap.nonemptyLists_empty, nofun, fun _ => List.Sublist.refl _⟩

theorem Procede.mono (procede : Procede registrados tabla)
    (otros : List (Bytes × ParIpPuerto)) : Procede (registrados ++ otros) tabla := by
  refine ⟨procede.nonempty, procede.inequivocas, fun fichero => ?_⟩
  rw [OrderedMap.grouped_append]
  exact (procede.sublist fichero).trans (List.sublist_append_left _ _)

theorem Procede.append (procede : Procede registrados tabla) {entrada : Bytes × ParIpPuerto}
    (inequivoca : Inequivoca entrada) :
    Procede (registrados ++ [entrada]) (tabla.append entrada.1 entrada.2) where
  nonempty := procede.nonempty.append entrada.1 entrada.2
  inequivocas := by
    intro otra member
    have held := (OrderedMap.pairs_append_perm tabla entrada.1 entrada.2).mem_iff.mp member
    rcases List.mem_cons.mp held with rfl | before
    · exact inequivoca
    · exact procede.inequivocas otra before
  sublist := by
    intro fichero
    rw [OrderedMap.elements_append, OrderedMap.grouped_append]
    by_cases same : entrada.1 = fichero
    · subst same
      simpa [OrderedMap.grouped] using procede.sublist entrada.1
    · rw [if_neg (Ne.symm same)]
      exact (procede.sublist fichero).trans (List.sublist_append_left _ _)

theorem Procede.reinicio (procede : Procede registrados tabla) :
    Procede registrados (reinicio tabla) where
  nonempty := nonemptyLists_reinicio tabla
  inequivocas := inequivocas_reinicio procede.nonempty procede.inequivocas
  sublist fichero :=
    (elements_reinicio_delante procede.nonempty procede.inequivocas fichero).sublist.trans
      (procede.sublist fichero)

/-- What a lookup answers. -/
theorem Procede.obtenerCliente (procede : Procede registrados tabla) (fichero : Bytes) :
    obtenerCliente tabla fichero = some (false, ascii "EMPTY") ∨
      ∃ direccion, (fichero, direccion) ∈ registrados ∧
        obtenerCliente tabla fichero = some (true, direccionTexto direccion) := by
  rw [obtenerCliente_eq procede.nonempty]
  have known := (procede.sublist fichero).subset
  cases held : tabla.elements fichero with
  | nil => exact Or.inl rfl
  | cons direccion otras =>
      rw [held] at known
      have registered := known List.mem_cons_self
      simp only [OrderedMap.grouped, List.mem_map, List.mem_filter, decide_eq_true_eq]
        at registered
      obtain ⟨⟨_, address⟩, ⟨member, rfl⟩, rfl⟩ := registered
      exact Or.inr ⟨address, member, rfl⟩

end Procedencia

/-! ## Runs over several processes -/

/-- Both the table and the backup come from registrations. -/
structure EnSesion (registrados : List (Bytes × ParIpPuerto)) (estado : Estado) : Prop where
  tabla : Procede registrados estado.tabla
  backup : ∀ texto, estado.backup = some texto →
    ∃ guardada, texto = textoDatos guardada ∧ Procede registrados guardada

theorem EnSesion.inicio {registrados : List (Bytes × ParIpPuerto)} {estado : Estado}
    (enSesion : EnSesion registrados estado) : EnSesion registrados (inicio estado.backup) where
  tabla := by
    cases left : estado.backup with
    | none => exact procede_vacia.mono registrados
    | some texto =>
        obtain ⟨guardada, rfl, procede⟩ := enSesion.backup texto left
        exact procede.reinicio
  backup := enSesion.backup

/-- A step of a process. -/
theorem EnSesion.paso {salida : Salida} (entera : salida.acepta = none)
    {registrados : List (Bytes × ParIpPuerto)} {estado siguiente : Estado} {evento : Evento}
    (enSesion : EnSesion registrados estado)
    (registrable : Registrable estado (some evento)) (paso : Paso salida estado evento siguiente) :
    EnSesion (registrados ++ (registroDe (some evento)).toList) siguiente := by
  have grown : ∀ otros, EnSesion (registrados ++ otros) estado := by
    intro otros
    refine ⟨enSesion.tabla.mono otros, fun texto left => ?_⟩
    obtain ⟨guardada, same, procede⟩ := enSesion.backup texto left
    exact ⟨guardada, same, procede.mono otros⟩
  cases paso with
  | @registra _ solicitud resultado tabla _ _ stored =>
      refine ⟨?_, (grown _).backup⟩
      cases resultado with
      | false =>
          obtain rfl := agregarCliente_eq_false stored
          exact (grown _).tabla
      | true =>
          obtain ⟨entrada, accepted, rfl⟩ := (agregarCliente_eq_true_iff _ _ _).mp stored
          have same : registroDe (some (.registra solicitud)) = some entrada := accepted
          rw [same]
          exact enSesion.tabla.append (registrable entrada same)
  | sigint =>
      have here := grown []
      unfold recibeSigint
      split
      · refine ⟨here.tabla, ?_⟩
        intro texto left
        simp only [guarda, salvarDatos] at left
        split at left
        · rw [Option.some.injEq, Salida.escrito, entera] at left
          exact ⟨estado.tabla, left.symm, here.tabla⟩
        · exact here.backup texto left
      · exact ⟨here.tabla, here.backup⟩
      · exact ⟨here.tabla, here.backup⟩
  | _ => exact ⟨(grown []).tabla, (grown []).backup⟩

theorem filterMap_registroDe (evento : Option Evento) :
    [evento].filterMap registroDe = (registroDe evento).toList := by
  cases registered : registroDe evento with
  | none => rw [List.filterMap_cons_none registered]; rfl
  | some entrada => rw [List.filterMap_cons_some registered]; rfl

theorem enSesion_of_run {salida : Salida} (entera : salida.acepta = none)
    {eventos : List (Option Evento)} {estado : Estado}
    (run : Run (PasoSesion salida) Registrable (inicio none) eventos estado) :
    EnSesion (eventos.filterMap registroDe) estado := by
  induction run with
  | refl => exact ⟨procede_vacia, nofun⟩
  | tail before registrable last ih =>
      rw [List.filterMap_append, filterMap_registroDe]
      cases last with
      | paso paso => exact ih.paso entera registrable paso
      | arranca _ =>
          have nothing : registroDe none = none := rfl
          rw [nothing, Option.toList_none, List.append_nil]
          exact ih.inicio

/-- However often the server is ended and started again, the addresses of a file are
some of those it was registered with, in the order of the registrations, and a lookup
answers with one of them or with `EMPTY`. -/
theorem sesiones_no_inventan {salida : Salida} (entera : salida.acepta = none)
    {eventos : List (Option Evento)} {estado : Estado}
    (run : Run (PasoSesion salida) Registrable (inicio none) eventos estado) (fichero : Bytes) :
    (estado.tabla.elements fichero).Sublist
        (OrderedMap.grouped (eventos.filterMap registroDe) fichero) ∧
      (obtenerCliente estado.tabla fichero = some (false, ascii "EMPTY") ∨
        ∃ direccion, (fichero, direccion) ∈ eventos.filterMap registroDe ∧
          obtenerCliente estado.tabla fichero = some (true, direccionTexto direccion)) := by
  have procede := (enSesion_of_run entera run).tabla
  exact ⟨procede.sublist fichero, procede.obtenerCliente fichero⟩

/-- A table with two registrations of one file. -/
def dosRegistradas : Tabla :=
  ⟨[(ascii "a", [(0x04030201, 0x5000), (0x08070605, 0x5100)])], by decide⟩

theorem registrable_of_none {estado : Estado} {evento : Option Evento}
    (nothing : registroDe evento = none) : Registrable estado evento := by
  intro entrada registered
  rw [nothing] at registered
  cases registered

/-- Of two addresses the first one outlives the process. -/
theorem sesiones_no_inventan_tras_un_arranque : ∃ eventos estado,
    Run (PasoSesion .sana) Registrable (inicio none) eventos estado ∧
    OrderedMap.grouped (eventos.filterMap registroDe) (ascii "a") =
      [(0x04030201, 0x5000), (0x08070605, 0x5100)] ∧
    estado.tabla.elements (ascii "a") = [(0x04030201, 0x5000)] ∧
    (estado.tabla.elements (ascii "a")).Sublist
      (OrderedMap.grouped (eventos.filterMap registroDe) (ascii "a")) := by
  have first : registro (ascii "a</>1.2.3.4</>80</>") =
      some (ascii "a", (0x04030201, 0x5000)) := by decide +kernel
  have second : registro (ascii "a</>5.6.7.8</>81</>") =
      some (ascii "a", (0x08070605, 0x5100)) := by decide +kernel
  have plain : Palabra (ascii "a") ∧ EmpiezaSinNumero (ascii "a") := by
    simp [Palabra, EmpiezaSinNumero, ascii, isSpace, isDigit]
  have allowed : ∀ estado solicitud entrada, registro solicitud = some entrada →
      Inequivoca entrada → Registrable estado (some (.registra solicitud)) := by
    intro estado solicitud entrada accepted inequivoca otra registered
    obtain rfl := Option.some.inj (accepted.symm.trans registered)
    exact inequivoca
  have stored : agregarCliente unaRegistrada (ascii "a</>5.6.7.8</>81</>") =
      some (true, dosRegistradas) := by decide +kernel
  have start : Run (PasoSesion .sana) Registrable (inicio none) [] (inicio none) := Run.refl
  have created := start.tail (registrable_of_none rfl) (.paso (.creaHebra rfl rfl))
  have registered := (created.tail (allowed _ _ _ first ⟨plain.1, plain.2, by decide⟩)
    (.paso (.registra rfl (by decide) registra_una))).tail
      (allowed _ _ _ second ⟨plain.1, plain.2, by decide⟩) (.paso (.registra rfl (by decide) stored))
  have ended := (registered.tail (registrable_of_none rfl) (.paso (.sigint rfl))).tail
    (registrable_of_none rfl) (.paso (.joinFalla rfl rfl))
  have run := ended.tail (registrable_of_none rfl) (.arranca rfl)
  refine ⟨_, _, run, ?_, ?_, (sesiones_no_inventan rfl run (ascii "a")).1⟩
  · simp only [List.filterMap_append, filterMap_registroDe]
    decide +kernel
  · decide +kernel

end DescargaP2P.Servidor.Apagado
