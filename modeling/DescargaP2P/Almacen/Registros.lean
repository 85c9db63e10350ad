import DescargaP2P.Almacen.Core

/-!
# The store as a grouped registration log

A sequence of accepted requests is a log of registrations.  The table it leaves
groups that log by file, so a lookup answers with the earliest registration of
its file, later registrations do not change the answer, and registrations of
different files commute.
-/

namespace DescargaP2P.Almacen

open DescargaP2P.Collections
open DescargaP2P.Text

/-- Table after a sequence of calls of `agregar_cliente`, if all of them return
true. -/
def agregarTodos (tabla : Tabla) : List Bytes → Option Tabla
  | [] => some tabla
  | s :: rest =>
      match agregarCliente tabla s with
      | some (true, siguiente) => agregarTodos siguiente rest
      | _ => none

/-- The log a sequence of requests stands for. -/
def bitacora (solicitudes : List Bytes) : List (Bytes × ParIpPuerto) :=
  solicitudes.filterMap registro

/-- Registrations of one file in their order of arrival. -/
def registrosDe (solicitudes : List Bytes) (fichero : Bytes) : List ParIpPuerto :=
  OrderedMap.grouped (bitacora solicitudes) fichero

/-- All calls return true exactly when the splitter accepts every request, and
the calls then append the log. -/
theorem agregarTodos_eq_some_iff (tabla final : Tabla) (solicitudes : List Bytes) :
    agregarTodos tabla solicitudes = some final ↔
      (∀ s ∈ solicitudes, (registro s).isSome) ∧
        final = tabla.appendAll (bitacora solicitudes) := by
  induction solicitudes generalizing tabla with
  | nil =>
      simp only [agregarTodos, Option.some.injEq, bitacora, List.filterMap_nil,
        OrderedMap.appendAll_nil, List.not_mem_nil, false_implies, implies_true, true_and]
      exact eq_comm
  | cons s rest ih =>
      unfold agregarTodos
      cases accepted : registro s with
      | none =>
          have notStored : ∀ siguiente, agregarCliente tabla s ≠ some (true, siguiente) := by
            intro siguiente stored
            rcases (agregarCliente_eq_true_iff tabla siguiente s).mp stored with
              ⟨entrada, found, _⟩
            rw [accepted] at found
            contradiction
          have rejected : (match agregarCliente tabla s with
              | some (true, siguiente) => agregarTodos siguiente rest
              | _ => none) = none := by
            split
            · rename_i siguiente stored
              exact absurd stored (notStored siguiente)
            · rfl
          rw [rejected]
          simp [accepted]
      | some entrada =>
          simp only [agregarCliente_of_registro tabla accepted, ih, bitacora,
            List.forall_mem_cons, accepted, Option.isSome_some, true_and,
            List.filterMap_cons_some accepted, OrderedMap.appendAll_cons]

/-- Running two sequences one after the other. -/
theorem agregarTodos_append (tabla : Tabla) (first second : List Bytes) :
    agregarTodos tabla (first ++ second) =
      (agregarTodos tabla first).bind fun siguiente => agregarTodos siguiente second := by
  induction first generalizing tabla with
  | nil => rfl
  | cons s rest ih =>
      simp only [List.cons_append, agregarTodos]
      split
      · exact ih _
      · rfl

/-- A table left by accepted requests has no file without addresses. -/
theorem nonemptyLists_of_agregarTodos {tabla final : Tabla} {solicitudes : List Bytes}
    (nonempty : tabla.NonemptyLists) (run : agregarTodos tabla solicitudes = some final) :
    final.NonemptyLists := by
  obtain ⟨_, rfl⟩ := (agregarTodos_eq_some_iff tabla final solicitudes).mp run
  exact nonempty.appendAll _

/-- The addresses held are those registered, behind the ones held before. -/
theorem elements_of_agregarTodos {tabla final : Tabla} {solicitudes : List Bytes}
    (run : agregarTodos tabla solicitudes = some final) (fichero : Bytes) :
    final.elements fichero = tabla.elements fichero ++ registrosDe solicitudes fichero := by
  obtain ⟨_, rfl⟩ := (agregarTodos_eq_some_iff tabla final solicitudes).mp run
  exact tabla.elements_appendAll _ fichero

/-- A lookup in a table grown from the empty one answers with the earliest
registration of its file. -/
theorem obtenerCliente_of_agregarTodos {final : Tabla} {solicitudes : List Bytes}
    (run : agregarTodos OrderedMap.empty solicitudes = some final) (fichero : Bytes) :
    obtenerCliente final fichero = some (respuestaDe (registrosDe solicitudes fichero)) := by
  rw [obtenerCliente_eq
    (nonemptyLists_of_agregarTodos OrderedMap.nonemptyLists_empty run),
    elements_of_agregarTodos run, OrderedMap.elements_empty, List.nil_append]

/-- Exchanging two adjacent registrations of different files. -/
theorem agregarTodos_swap (tabla : Tabla) (before after : List Bytes) {first second : Bytes}
    (different : ∀ left right, registro first = some left → registro second = some right →
      left.1 ≠ right.1) {final : Tabla}
    (run : agregarTodos tabla (before ++ first :: second :: after) = some final) :
    agregarTodos tabla (before ++ second :: first :: after) = some final := by
  obtain ⟨accepted, rfl⟩ := (agregarTodos_eq_some_iff _ _ _).mp run
  obtain ⟨left, leftEq⟩ := Option.isSome_iff_exists.mp (accepted first (by simp))
  obtain ⟨right, rightEq⟩ := Option.isSome_iff_exists.mp (accepted second (by simp))
  apply (agregarTodos_eq_some_iff _ _ _).mpr
  constructor
  · intro s member
    apply accepted s
    simp only [List.mem_append, List.mem_cons] at member ⊢
    tauto
  · simp only [bitacora, List.filterMap_append, List.filterMap_cons, leftEq, rightEq,
      OrderedMap.appendAll_append, OrderedMap.appendAll_cons]
    rw [OrderedMap.append_comm _ (different left right leftEq rightEq)]

/-- The store is the registration log grouped by file. -/
theorem almacen_agrupa_registros {solicitudes : List Bytes} {tabla : Tabla}
    (run : agregarTodos OrderedMap.empty solicitudes = some tabla) :
    (∀ s ∈ solicitudes, ∃ entrada, registro s = some entrada) ∧
    (∀ fichero, tabla.elements fichero = registrosDe solicitudes fichero) ∧
    (∀ fichero direccion rest, registrosDe solicitudes fichero = direccion :: rest →
      ∀ (more : List Bytes) (later : Tabla), agregarTodos tabla more = some later →
        obtenerCliente tabla fichero = some (true, direccionTexto direccion) ∧
          obtenerCliente later fichero = some (true, direccionTexto direccion)) ∧
    (∀ fichero, obtenerCliente tabla fichero = some (false, ascii "EMPTY") ↔
      ∀ entrada ∈ bitacora solicitudes, entrada.1 ≠ fichero) ∧
    (∀ before after first second, solicitudes = before ++ first :: second :: after →
      (∀ left right, registro first = some left → registro second = some right →
        left.1 ≠ right.1) →
      agregarTodos OrderedMap.empty (before ++ second :: first :: after) = some tabla) := by
  have accepted := ((agregarTodos_eq_some_iff _ _ _).mp run).1
  refine ⟨fun s member => Option.isSome_iff_exists.mp (accepted s member), ?_, ?_, ?_, ?_⟩
  · intro fichero
    simpa using elements_of_agregarTodos run fichero
  · intro fichero direccion rest earliest more later runLater
    have whole : agregarTodos OrderedMap.empty (solicitudes ++ more) = some later := by
      rw [agregarTodos_append, run]
      exact runLater
    have earliestLater : registrosDe (solicitudes ++ more) fichero =
        direccion :: (rest ++ registrosDe more fichero) := by
      rw [← List.cons_append, ← earliest]
      simp [registrosDe, bitacora, OrderedMap.grouped]
    rw [obtenerCliente_of_agregarTodos run, obtenerCliente_of_agregarTodos whole, earliest,
      earliestLater]
    exact ⟨rfl, rfl⟩
  · intro fichero
    rw [obtenerCliente_of_agregarTodos run]
    have never : registrosDe solicitudes fichero = [] ↔
        ∀ entrada ∈ bitacora solicitudes, entrada.1 ≠ fichero := by
      simp [registrosDe, OrderedMap.grouped, List.filter_eq_nil_iff]
    rw [← never]
    cases registrosDe solicitudes fichero with
    | nil => simp [respuestaDe]
    | cons direccion rest => simp [respuestaDe]
  · rintro before after first second rfl different
    exact agregarTodos_swap _ before after different run

theorem almacen_agrupa_tres_registros :
    ∃ tabla, agregarTodos OrderedMap.empty
        [ascii "a</>1.2.3.4</>80</>", ascii "b</>5.6.7.8</>81</>",
          ascii "a</>9.9.9.9</>82</>"] = some tabla ∧
      tabla.elements (ascii "a") = [(0x04030201, 0x5000), (0x09090909, 0x5200)] := by
  have allStored : (agregarTodos OrderedMap.empty
      [ascii "a</>1.2.3.4</>80</>", ascii "b</>5.6.7.8</>81</>",
        ascii "a</>9.9.9.9</>82</>"]).isSome = true := by decide +kernel
  obtain ⟨tabla, run⟩ := Option.isSome_iff_exists.mp allStored
  exact ⟨tabla, run,
    ((almacen_agrupa_registros run).2.1 (ascii "a")).trans (by decide +kernel)⟩

end DescargaP2P.Almacen
