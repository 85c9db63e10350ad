import DescargaP2P.Almacen.Concurrencia
import Mathlib.Data.List.Perm.Subperm

/-!
# What a race cannot do

Calls of `agregar_cliente` that overtake each other lose addresses.  They do not lose
names: once a call has returned true its name is in the table and a lookup answers with
an address of it.  No interleaving makes up an address, stores one twice, or changes
what a list held before.
-/

namespace DescargaP2P.Almacen

open DescargaP2P.Collections
open DescargaP2P.Text
open DescargaP2P.Transition

/-! ## One step -/

/-- A step keeps the lists and appends to at most one of them. -/
theorem elements_avanza {tabla siguiente : Tabla} {llamada proxima : Llamada}
    (coherent : Coherente tabla llamada)
    (taken : avanza tabla llamada = some (siguiente, proxima)) (fichero : Bytes) :
    tabla.elements fichero <+: siguiente.elements fichero := by
  rcases avanza_cases coherent taken with ⟨rfl, _⟩ | ⟨otro, direccion, _, _, appended, kept⟩
  · exact List.prefix_refl _
  · by_cases overtaken : Adelantada tabla llamada
    · rw [kept overtaken]
    · rw [appended overtaken, OrderedMap.elements_append]
      split
      · rename_i same
        rw [same]
        exact List.prefix_append _ _
      · exact List.prefix_refl _

theorem nonemptyLists_avanza {tabla siguiente : Tabla} {llamada proxima : Llamada}
    (nonempty : tabla.NonemptyLists) (coherent : Coherente tabla llamada)
    (taken : avanza tabla llamada = some (siguiente, proxima)) : siguiente.NonemptyLists := by
  rcases avanza_cases coherent taken with ⟨rfl, _⟩ | ⟨otro, direccion, _, _, appended, kept⟩
  · exact nonempty
  · by_cases overtaken : Adelantada tabla llamada
    · rwa [kept overtaken]
    · rw [appended overtaken]
      exact nonempty.append otro direccion

/-- A call that returns true leaves its name in the table. -/
theorem presente_of_registrada {tabla siguiente : Tabla} {llamada proxima : Llamada}
    (coherent : Coherente tabla llamada)
    (taken : avanza tabla llamada = some (siguiente, proxima))
    {entrada : Bytes × ParIpPuerto} (registered : entrada ∈ registrada proxima) :
    siguiente.find? entrada.1 ≠ none := by
  cases llamada with
  | empieza s =>
      simp only [avanza] at taken
      split at taken <;> cases taken <;> cases registered
  | devuelve s resultado => cases taken
  | indefinida s => cases taken
  | buscada s fichero direccion hallada =>
      obtain ⟨accepted, present⟩ := coherent
      have own : entrada = (fichero, direccion) := by
        cases hallada <;> cases taken <;> simpa [registrada, accepted] using registered
      subst own
      cases hallada with
      | true =>
          obtain ⟨held, found⟩ := Option.ne_none_iff_exists'.mp (present rfl)
          cases taken
          rw [OrderedMap.find?_modify, found]
          simp
      | false =>
          cases taken
          rw [OrderedMap.find?_emplace, if_pos rfl]
          cases tabla.find? fichero <;> simp

/-! ## Whole runs -/

/-- What holds at any point of an interleaving. -/
structure Sostenida (inicial : Tabla) (estado : Tabla × List Llamada) : Prop where
  coherentes : Coherentes estado
  nonempty : estado.1.NonemptyLists
  prefijos : ∀ fichero, inicial.elements fichero <+: estado.1.elements fichero
  presentes : ∀ entrada ∈ doneBy registrada estado.2, estado.1.find? entrada.1 ≠ none
  contenidas : estado.1.pairs.Subperm (inicial.pairs ++ doneBy registrada estado.2)

theorem sostenida_comienzo {tabla : Tabla} (nonempty : tabla.NonemptyLists)
    (solicitudes : List Bytes) : Sostenida tabla (comienzo tabla solicitudes) where
  coherentes := coherentes_comienzo tabla solicitudes
  nonempty := nonempty
  prefijos _ := List.prefix_refl _
  presentes := by
    rw [doneBy_comienzo]
    exact nofun
  contenidas := by
    rw [doneBy_comienzo, List.append_nil]
    exact List.Subperm.refl _

theorem Sostenida.paso {inicial : Tabla} {estado siguiente : Tabla × List Llamada}
    {numero : Nat} (sostenida : Sostenida inicial estado)
    (taken : Paso estado numero siguiente) : Sostenida inicial siguiente := by
  have coherent := sostenida.coherentes
  obtain ⟨nuevas, done, stored, lost⟩ := paso_cases coherent taken
  have moved : (nuevas ++ (inicial.pairs ++ doneBy registrada estado.2)).Perm
      (inicial.pairs ++ doneBy registrada siguiente.2) := by
    rw [← List.append_assoc]
    refine (List.perm_append_comm.append_right _).trans ?_
    rw [List.append_assoc]
    exact done.symm.append_left _
  have contenidas : siguiente.1.pairs.Subperm
      (inicial.pairs ++ doneBy registrada siguiente.2) := by
    by_cases free : SinAdelanto estado numero
    · have grown : (nuevas ++ estado.1.pairs).Subperm
          (nuevas ++ (inicial.pairs ++ doneBy registrada estado.2)) :=
        (List.subperm_append_left _).mpr sostenida.contenidas
      exact (stored free).subperm.trans (grown.trans moved.subperm)
    · rw [(lost free).2]
      exact sostenida.contenidas.trans
        ((List.sublist_append_right nuevas _).subperm.trans moved.subperm)
  obtain ⟨before, llamada, after, tabla, proxima, cut, found, acted, rfl⟩ :=
    threadStep_cases taken
  have own : Coherente estado.1 llamada := coherent llamada (by simp [cut])
  refine ⟨coherentes_paso coherent taken, nonemptyLists_avanza sostenida.nonempty own acted,
    fun fichero => (sostenida.prefijos fichero).trans (elements_avanza own acted fichero), ?_,
    contenidas⟩
  intro entrada member
  have split := (doneBy_perm registrada before proxima after).mem_iff.mp member
  rcases List.mem_append.mp split with new | old
  · exact presente_of_registrada own acted new
  · apply presente_avanza own acted
    apply sostenida.presentes
    rw [cut]
    exact (doneBy_perm registrada before llamada after).mem_iff.mpr
      (List.mem_append_right _ old)

/-- Whatever the interleaving, no list loses what it held, no address is made up or
stored twice, and once a call has returned true a lookup of its name answers with an
address of that name. -/
theorem carrera_no_inventa_ni_oculta {tabla : Tabla} (nonempty : tabla.NonemptyLists)
    {solicitudes : List Bytes} {estado : Tabla × List Llamada} {order : List Nat}
    (run : Run Paso (fun _ _ => True) (comienzo tabla solicitudes) order estado) :
    (∀ fichero, tabla.elements fichero <+: estado.1.elements fichero) ∧
      estado.1.pairs.Subperm (tabla.pairs ++ doneBy registrada estado.2) ∧
      ∀ entrada ∈ doneBy registrada estado.2, ∃ direccion,
        obtenerCliente estado.1 entrada.1 = some (true, direccionTexto direccion) ∧
          (entrada.1, direccion) ∈ tabla.pairs ++ doneBy registrada estado.2 := by
  have sostenida := run.invariant (Sostenida tabla) (sostenida_comienzo nonempty solicitudes)
    fun held _ taken => held.paso taken
  refine ⟨sostenida.prefijos, sostenida.contenidas, ?_⟩
  intro entrada member
  obtain ⟨held, found⟩ := Option.ne_none_iff_exists'.mp (sostenida.presentes entrada member)
  cases held with
  | nil => exact absurd found (sostenida.nonempty entrada.1)
  | cons direccion otras =>
      refine ⟨direccion, by rw [obtenerCliente, found], ?_⟩
      apply sostenida.contenidas.subset
      have inTable := (estado.1.find?_eq_some_iff entrada.1 _).mp found
      exact List.mem_flatMap.mpr ⟨_, inTable, List.mem_map_of_mem List.mem_cons_self⟩

/-- Two first registrations of one name that both look it up first. -/
theorem carrera_no_inventa_ni_oculta_dos_registros : ∃ estado direccion,
    Run Paso (fun _ _ => True)
      (comienzo OrderedMap.empty [ascii "f</>1.2.3.4</>80</>", ascii "f</>5.6.7.8</>81</>"])
      [0, 1, 0, 1] estado ∧
    (ascii "f", (0x08070605, 0x5100)) ∈ doneBy registrada estado.2 ∧
    obtenerCliente estado.1 (ascii "f") = some (true, direccionTexto direccion) ∧
    (ascii "f", direccion) ∈ doneBy registrada estado.2 := by
  have executed : (runThreads avanza [0, 1, 0, 1] (comienzo OrderedMap.empty
      [ascii "f</>1.2.3.4</>80</>", ascii "f</>5.6.7.8</>81</>"])).map Prod.snd =
      some [.devuelve (ascii "f</>1.2.3.4</>80</>") true,
        .devuelve (ascii "f</>5.6.7.8</>81</>") true] := by decide +kernel
  obtain ⟨estado, reached, calls⟩ := Option.map_eq_some_iff.mp executed
  have run := run_of_runThreads reached
  have second : (ascii "f", (0x08070605, 0x5100)) ∈ doneBy registrada estado.2 := by
    rw [calls]
    decide +kernel
  obtain ⟨direccion, answered, known⟩ :=
    (carrera_no_inventa_ni_oculta OrderedMap.nonemptyLists_empty run).2.2 _ second
  exact ⟨estado, direccion, run, second, answered, known⟩

end DescargaP2P.Almacen
