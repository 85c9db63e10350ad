import DescargaP2P.Almacen.Recuperacion
import DescargaP2P.Transition.Iteration

/-!
# Restarts

A restart saves the table and loads what was saved.  Whatever the table is, each restart
makes the backup lighter until no file has a second address, and from then on restarts
change nothing.

Where no number can be taken for a name and no name for a number, what is read back is
a prefix of what was written.
-/

namespace DescargaP2P.Almacen

open DescargaP2P.Collections
open DescargaP2P.Cpp
open DescargaP2P.Text
open DescargaP2P.Transition

/-- `salvar_datos` at the end of one process and `recuperar_datos` in the next. -/
def reinicio (tabla : Tabla) : Tabla :=
  (recuperarDatos OrderedMap.empty (salvarDatos .sana none tabla).2).2

theorem reinicio_eq (tabla : Tabla) :
    reinicio tabla = OrderedMap.empty.appendAll (registrosLeidos (textoDatos tabla)) := rfl

/-! ## What was read -/

theorem palabra_of_extractWord {flujo fichero resto : Bytes}
    (read : extractWord flujo = some (fichero, resto)) : Palabra fichero := by
  unfold extractWord at read
  dsimp only at read
  split at read
  · cases read
  · rename_i someField
    cases read
    constructor
    · obtain ⟨first, others, field⟩ := List.exists_cons_of_ne_nil someField
      have stops := List.head?_dropWhile_not isSpace flujo
      rw [field] at stops
      rw [field, List.takeWhile_cons_of_pos (by simpa using stops)]
      exact List.cons_ne_nil _ _
    · intro byte member
      simpa using List.mem_takeWhile_imp member

theorem palabra_of_leerRegistro {flujo resto : Bytes} {entrada : Bytes × ParIpPuerto}
    (read : leerRegistro flujo = some (entrada, resto)) : Palabra entrada.1 := by
  unfold leerRegistro at read
  split at read
  · cases read
  · rename_i fichero _ name
    split at read
    · cases read
    · split at read
      · cases read
      · cases read
        exact palabra_of_extractWord name

theorem palabra_of_mem_leerRegistros {fuel : Nat} {flujo : Bytes}
    {entrada : Bytes × ParIpPuerto} (member : entrada ∈ leerRegistros fuel flujo) :
    Palabra entrada.1 := by
  induction fuel generalizing flujo with
  | zero => cases member
  | succ fuel ih =>
      rw [leerRegistros] at member
      split at member
      · cases member
      · rename_i primera resto read
        rcases List.mem_cons.mp member with rfl | later
        · exact palabra_of_leerRegistro read
        · exact ih later

/-- The records of a loaded table are those that were read, file by file. -/
theorem pairs_reinicio_perm (tabla : Tabla) :
    (reinicio tabla).pairs.Perm (registrosLeidos (textoDatos tabla)) :=
  OrderedMap.pairs_appendAll_perm OrderedMap.empty _

theorem nonemptyLists_reinicio (tabla : Tabla) : (reinicio tabla).NonemptyLists :=
  OrderedMap.nonemptyLists_empty.appendAll _

/-- A file of a table has an address. -/
theorem ne_nil_of_mem {tabla : Tabla} (nonempty : tabla.NonemptyLists)
    {entrada : Bytes × List ParIpPuerto} (member : entrada ∈ tabla.entries) : entrada.2 ≠ [] := by
  intro none_
  apply nonempty entrada.1
  rw [← none_]
  exact (tabla.find?_eq_some_iff entrada.1 entrada.2).mpr member

/-- A record of each file of a table. -/
theorem exists_mem_pairs {tabla : Tabla} (nonempty : tabla.NonemptyLists)
    {entrada : Bytes × List ParIpPuerto} (member : entrada ∈ tabla.entries) :
    ∃ direccion, (entrada.1, direccion) ∈ tabla.pairs := by
  obtain ⟨direccion, held⟩ := List.exists_mem_of_ne_nil _ (ne_nil_of_mem nonempty member)
  exact ⟨direccion, List.mem_flatMap.mpr ⟨entrada, member, List.mem_map_of_mem held⟩⟩

theorem palabra_reinicio {tabla : Tabla} {entrada : Bytes × List ParIpPuerto}
    (member : entrada ∈ (reinicio tabla).entries) : Palabra entrada.1 := by
  obtain ⟨direccion, held⟩ := exists_mem_pairs (nonemptyLists_reinicio tabla) member
  exact palabra_of_mem_leerRegistros ((pairs_reinicio_perm tabla).mem_iff.mp held)

/-! ## Restart after restart -/

/-- A table that a restart does not change. -/
structure Reposada (tabla : Tabla) : Prop where
  palabras : ∀ entrada ∈ tabla.entries, Palabra entrada.1
  unicas : ∀ entrada ∈ tabla.entries, entrada.2.length = 1

theorem Reposada.reinicio_eq {tabla : Tabla} (reposada : Reposada tabla) :
    reinicio tabla = tabla := by
  have nonempty : tabla.NonemptyLists := by
    intro fichero found
    have one := reposada.unicas (fichero, []) ((tabla.find?_eq_some_iff fichero []).mp found)
    cases one
  exact (recuperar_textoDatos_iff nonempty reposada.palabras).mpr reposada.unicas

/-- A restart that does not make the backup lighter leaves one address for each file. -/
theorem reposada_or_weight_lt (tabla : Tabla) :
    Reposada (reinicio tabla) ∨
      weight (textoDatos (reinicio tabla)) < weight (textoDatos tabla) := by
  by_cases lighter : weight (textoDatos (reinicio tabla)) < weight (textoDatos tabla)
  · exact Or.inr lighter
  · have read : ((registrosLeidos (textoDatos tabla)).map coste).sum ≤ weight (textoDatos tabla) :=
      sum_coste_leerRegistros_le _ _
    have same : ((reinicio tabla).pairs.map coste).sum =
        ((registrosLeidos (textoDatos tabla)).map coste).sum :=
      ((pairs_reinicio_perm tabla).map coste).sum_nat
    have fits : ((reinicio tabla).pairs.map coste).sum ≤ weight (textoDatos (reinicio tabla)) :=
      same ▸ read.trans (Nat.not_lt.mp lighter)
    exact Or.inl ⟨fun _ => palabra_reinicio, length_eq_one_of_sum_coste_le
      (fun _ => palabra_reinicio) (fun _ => ne_nil_of_mem (nonemptyLists_reinicio tabla)) fits⟩

/-- Restarting over and over leaves, after a number of restarts that the weight of the
backup bounds, a table with one address for each file, which no restart changes. -/
theorem reinicios_se_estabilizan (tabla : Tabla) :
    ∃ n ≤ weight (textoDatos tabla) + 1,
      (∀ entrada ∈ (reinicio^[n] tabla).entries, entrada.2.length = 1) ∧
      ∀ k, n ≤ k → reinicio^[k] tabla = reinicio^[n] tabla := by
  obtain ⟨n, bound, reposada, still⟩ := exists_settled (fun tabla => weight (textoDatos tabla))
    (fun _ => Reposada.reinicio_eq) reposada_or_weight_lt tabla
  exact ⟨n, bound, reposada.unicas, still⟩

/-! ## Unequivocal records -/

/-- No part of the record can be taken for another one: a name does not begin like a
number, and an address word is too large for a port. -/
structure Inequivoca (entrada : Bytes × ParIpPuerto) : Prop where
  palabra : Palabra entrada.1
  sinNumero : EmpiezaSinNumero entrada.1
  grande : 65535 < entrada.2.1.toNat

/-- Up to the first file with a second address. -/
theorem unicas_or_exists_repetida {entradas : List (Bytes × List ParIpPuerto)}
    (nonempty : ∀ entrada ∈ entradas, entrada.2 ≠ []) :
    (∀ entrada ∈ entradas, entrada.2.length = 1) ∨
      ∃ antes fichero primera segunda otras despues,
        entradas = antes ++ (fichero, primera :: segunda :: otras) :: despues ∧
          ∀ entrada ∈ antes, entrada.2.length = 1 := by
  induction entradas with
  | nil => exact Or.inl nofun
  | cons entrada entradas ih =>
      obtain ⟨some_, others⟩ := List.forall_mem_cons.mp nonempty
      rcases entrada with ⟨fichero, _ | ⟨primera, _ | ⟨segunda, otras⟩⟩⟩
      · exact absurd rfl some_
      · rcases ih others with unicas | ⟨antes, otro, una, dos, mas, despues, cut, unicas⟩
        · exact Or.inl (List.forall_mem_cons.mpr ⟨rfl, unicas⟩)
        · exact Or.inr ⟨(fichero, [primera]) :: antes, otro, una, dos, mas, despues,
            congrArg _ cut, List.forall_mem_cons.mpr ⟨rfl, unicas⟩⟩
      · exact Or.inr ⟨[], fichero, primera, segunda, otras, entradas, rfl, nofun⟩

/-- What is read back is a prefix of what was written. -/
theorem registrosLeidos_delante {tabla : Tabla} (nonempty : tabla.NonemptyLists)
    (inequivocas : ∀ entrada ∈ tabla.pairs, Inequivoca entrada) :
    registrosLeidos (textoDatos tabla) <+: tabla.pairs := by
  have someAddress : ∀ entrada ∈ tabla.entries, entrada.2 ≠ [] :=
    fun _ member => ne_nil_of_mem nonempty member
  have files : ∀ entrada ∈ tabla.entries, Palabra entrada.1 ∧ EmpiezaSinNumero entrada.1 := by
    intro entrada member
    obtain ⟨direccion, held⟩ := exists_mem_pairs nonempty member
    exact ⟨(inequivocas _ held).palabra, (inequivocas _ held).sinNumero⟩
  rcases unicas_or_exists_repetida someAddress with
    unicas | ⟨antes, fichero, primera, segunda, otras, despues, cut, unicas⟩
  · rw [registrosLeidos_textoDatos (fun entrada member => (files entrada member).1) unicas]
  · obtain ⟨fuel, read⟩ := registrosLeidos_hasta_repetido
      (fun entrada member => (files entrada member).1) cut unicas
    have later : ∀ entrada ∈ despues, Palabra entrada.1 ∧ EmpiezaSinNumero entrada.1 := by
      intro entrada member
      apply files entrada
      rw [cut]
      exact List.mem_append_right _ (List.mem_cons_of_mem _ member)
    have large : ∀ direccion ∈ otras, 65535 < direccion.1.toNat := by
      intro direccion member
      apply (inequivocas (fichero, direccion) _).grande
      rw [OrderedMap.pairs, cut]
      simp [member]
    have stops : leerRegistro (restoLinea segunda otras despues) = none :=
      leerRegistro_restoLinea (fun entrada member => (later entrada member).1)
        (fun entrada member => (later entrada member).2) large
    have nothing : leerRegistros fuel (restoLinea segunda otras despues) = [] := by
      cases fuel with
      | zero => rfl
      | succ fuel => rw [leerRegistros, stops]
    rw [read, nothing, OrderedMap.pairs, cut]
    simp

theorem grouped_delante {log written : List (Bytes × ParIpPuerto)} (shorter : log <+: written)
    (fichero : Bytes) : OrderedMap.grouped log fichero <+: OrderedMap.grouped written fichero := by
  obtain ⟨rest, rfl⟩ := shorter
  rw [OrderedMap.grouped_append]
  exact List.prefix_append _ _

/-- After a restart a file has the first of its addresses, or none. -/
theorem elements_reinicio_delante {tabla : Tabla} (nonempty : tabla.NonemptyLists)
    (inequivocas : ∀ entrada ∈ tabla.pairs, Inequivoca entrada) (fichero : Bytes) :
    (reinicio tabla).elements fichero <+: tabla.elements fichero := by
  rw [reinicio_eq, OrderedMap.elements_appendAll, OrderedMap.elements_empty, List.nil_append,
    ← OrderedMap.grouped_pairs]
  exact grouped_delante (registrosLeidos_delante nonempty inequivocas) fichero

theorem inequivocas_reinicio {tabla : Tabla} (nonempty : tabla.NonemptyLists)
    (inequivocas : ∀ entrada ∈ tabla.pairs, Inequivoca entrada) :
    ∀ entrada ∈ (reinicio tabla).pairs, Inequivoca entrada := by
  intro entrada member
  have read := (pairs_reinicio_perm tabla).mem_iff.mp member
  exact inequivocas entrada ((registrosLeidos_delante nonempty inequivocas).subset read)

end DescargaP2P.Almacen
