import DescargaP2P.Almacen.Gramatica
import DescargaP2P.Almacen.Persistencia
import DescargaP2P.Transition.Core

/-!
# Histories of a store

The only calls that change the table are `agregar_cliente` and `recuperar_datos`.
A history is any sequence of them from the empty table; a registration needs three
tokens to return at all.  No call leaves a name without an address, which is what
`obtener_cliente` relies on when it reads the first one.
-/

namespace DescargaP2P.Almacen

open DescargaP2P.Collections
open DescargaP2P.Cpp
open DescargaP2P.Text
open DescargaP2P.Transition

/-- The calls that change the table. -/
inductive Cambio
  | agregar (s : Bytes)
  | recuperar (archivo : Option Bytes)
  deriving DecidableEq, Repr

/-- The table after a call that returns, whatever it returns. -/
def trasCambio (tabla : Tabla) : Cambio → Option Tabla
  | .agregar s => (agregarCliente tabla s).map Prod.snd
  | .recuperar archivo => some (recuperarDatos tabla archivo).2

/-- One call of a history. -/
def Cambia : Labelled Tabla Cambio :=
  fun tabla cambio siguiente => trasCambio tabla cambio = some siguiente

/-- A registration returns exactly when the request has three tokens. -/
theorem agregarCliente_isSome_iff (tabla : Tabla) (s : Bytes) :
    (agregarCliente tabla s).isSome = true ↔ 3 ≤ (split delimiter s).1.length := by
  constructor
  · intro returned
    have three : ∃ fichero ip puerto, Campos s fichero ip puerto := by
      by_contra short
      rw [agregarCliente_eq_none short] at returned
      contradiction
    obtain ⟨fichero, ip, puerto, fields⟩ := three
    obtain ⟨resto, tokens⟩ := campos_iff.mp fields
    rw [tokens]
    exact Nat.le_add_left 3 resto.length
  · intro three
    match parts : (split delimiter s).1, three with
    | fichero :: ip :: puerto :: resto, _ =>
        have fields : Campos s fichero ip puerto := campos_iff.mpr ⟨resto, parts⟩
        cases read : stoi puerto with
        | error causa => rw [fields.agregarCliente_of_error read, Option.isSome_some]
        | ok numero => rw [fields.agregarCliente_of_ok read, Option.isSome_some]

/-- A registration keeps the table or appends one address. -/
theorem Cambia.agregar_cases {tabla siguiente : Tabla} {s : Bytes}
    (call : Cambia tabla (.agregar s) siguiente) :
    siguiente = tabla ∨
      ∃ entrada, registro s = some entrada ∧ siguiente = tabla.append entrada.1 entrada.2 := by
  obtain ⟨⟨stored, after⟩, returned, rfl⟩ := Option.map_eq_some_iff.mp call
  cases stored with
  | false => exact Or.inl (agregarCliente_eq_false returned)
  | true => exact Or.inr ((agregarCliente_eq_true_iff tabla after s).mp returned)

/-- No call leaves a name without an address. -/
theorem Cambia.nonemptyLists {tabla siguiente : Tabla} {cambio : Cambio}
    (nonempty : tabla.NonemptyLists) (call : Cambia tabla cambio siguiente) :
    siguiente.NonemptyLists := by
  cases cambio with
  | agregar s =>
      rcases call.agregar_cases with rfl | ⟨entrada, _, rfl⟩
      · exact nonempty
      · exact nonempty.append entrada.1 entrada.2
  | recuperar archivo =>
      rw [← Option.some.inj call]
      exact nonemptyLists_recuperarDatos nonempty archivo

theorem nonemptyLists_of_reachable {tabla : Tabla}
    (reachable : Reachable Cambia OrderedMap.empty tabla) : tabla.NonemptyLists :=
  reachable.invariant OrderedMap.NonemptyLists OrderedMap.nonemptyLists_empty Cambia.nonemptyLists

/-- Every request with three tokens can be called, every name of a table that a history
leaves has an address, and a lookup of any name is in bounds. -/
theorem ningun_nombre_sin_direcciones {tabla : Tabla}
    (reachable : Reachable Cambia OrderedMap.empty tabla) :
    (∀ s, 3 ≤ (split delimiter s).1.length → ∃ siguiente, Cambia tabla (.agregar s) siguiente) ∧
      (∀ archivo, ∃ siguiente, Cambia tabla (.recuperar archivo) siguiente) ∧
      (∀ entrada ∈ tabla.entries, entrada.2 ≠ []) ∧
      ∀ fichero, ∃ respuesta, obtenerCliente tabla fichero = some respuesta := by
  have nonempty := nonemptyLists_of_reachable reachable
  refine ⟨?_, fun archivo => ⟨_, rfl⟩, ?_, fun fichero => ⟨_, obtenerCliente_eq nonempty fichero⟩⟩
  · intro s three
    obtain ⟨result, returned⟩ :=
      Option.isSome_iff_exists.mp ((agregarCliente_isSome_iff tabla s).mpr three)
    exact ⟨result.2, by rw [Cambia, trasCambio, returned, Option.map_some]⟩
  · rintro ⟨fichero, direcciones⟩ member rfl
    exact nonempty fichero ((tabla.find?_eq_some_iff fichero []).mpr member)

/-- A load that stops at a malformed record, a registration and a refused one. -/
theorem ningun_nombre_sin_direcciones_tras_tres_cambios :
    let tabla : Tabla := (OrderedMap.empty.append (ascii "b") (1, 2)).append (ascii "a")
      (0x04030201, 0x5000)
    Reachable Cambia OrderedMap.empty tabla ∧
      ∀ fichero, ∃ respuesta, obtenerCliente tabla fichero = some respuesta := by
  intro tabla
  have loaded : Cambia OrderedMap.empty (.recuperar (some (ascii "b 1 2 c")))
      (OrderedMap.empty.append (ascii "b") (1, 2)) := by
    unfold Cambia
    decide +kernel
  have stored : Cambia (OrderedMap.empty.append (ascii "b") (1, 2))
      (.agregar (ascii "a</>1.2.3.4</>80</>")) tabla := by
    unfold Cambia
    decide +kernel
  have refused : Cambia tabla (.agregar (ascii "a</>5.6.7.8</>x</>")) tabla := by
    unfold Cambia
    decide +kernel
  have reachable : Reachable Cambia OrderedMap.empty tabla :=
    ((Reachable.single loaded).tail stored).tail refused
  exact ⟨reachable, (ningun_nombre_sin_direcciones reachable).2.2.2⟩

end DescargaP2P.Almacen
