import DescargaP2P.Sistema.Serie
import DescargaP2P.Sistema.Solicitud

/-!
# The abstract index

The service stands for an index: a map from names to lists of addresses.  Each
operation has a reply and an effect on it, and every well-formed exchange performs
its operation.
-/

namespace DescargaP2P.Sistema

open DescargaP2P.Almacen
open DescargaP2P.Cliente (Operacion)
open DescargaP2P.Collections
open DescargaP2P.Cpp
open DescargaP2P.Text
open DescargaP2P.Transition

/-! ## The index -/

/-- Addresses of every name, none for an unknown one. -/
abbrev Indice := Bytes → List ParIpPuerto

/-- One more address for a name. -/
def Indice.agrega (indice : Indice) (nombre : Bytes) (direccion : ParIpPuerto) : Indice :=
  fun otro => if otro = nombre then indice otro ++ [direccion] else indice otro

/-- The text shown for an index: its names in byte order, each followed by a
space, and `EMPTY` exactly when there is none. -/
structure EsListado (indice : Indice) (texto : Bytes) : Prop where
  nombres : ∃ nombres : List Bytes, nombres.Pairwise (· < ·) ∧
    (∀ nombre, nombre ∈ nombres ↔ indice nombre ≠ []) ∧
    (nombres ≠ [] → texto = nombres.flatMap fun nombre => nombre ++ ascii " ")
  vacio : texto = ascii "EMPTY" ↔ ∀ nombre, indice nombre = []

/-- The address that an upload registers. -/
def direccionDe (ip puerto : Bytes) : ParIpPuerto :=
  (inetAddr ip, htons (UInt16.ofNat (numValue puerto)))

/-- The reply to an operation and the index after it. -/
inductive PasoIndice : Labelled Indice (Operacion × Bytes)
  | listar {indice : Indice} {texto : Bytes} :
      EsListado indice texto → PasoIndice indice (.listar, texto) indice
  | subir {indice : Indice} (nombre ip puerto : Bytes) :
      PasoIndice indice (.subir nombre ip puerto, ascii "ACK")
        (indice.agrega nombre (direccionDe ip puerto))
  | encuentra {indice : Indice} {nombre : Bytes} {direccion : ParIpPuerto}
      {otras : List ParIpPuerto} :
      indice nombre = direccion :: otras →
      PasoIndice indice (.descargar nombre, direccionTexto direccion) indice
  | noEncuentra {indice : Indice} {nombre : Bytes} :
      indice nombre = [] → PasoIndice indice (.descargar nombre, ascii "EMPTY") indice

/-- The registration that an operation adds. -/
def subida? : Operacion → Option (Bytes × ParIpPuerto)
  | .subir nombre ip puerto => some (nombre, direccionDe ip puerto)
  | _ => none

/-! ## Well-formed operations -/

/-- A number from 0 to 65535 in decimal digits. -/
def PuertoDecimal (puerto : Bytes) : Prop :=
  puerto ≠ [] ∧ (∀ byte ∈ puerto, isDigit byte = true) ∧ numValue puerto < 2 ^ 16

/-- Uploads whose fields have no separator and whose port is a number. -/
def BienFormada : Operacion → Prop
  | .listar => True
  | .subir nombre ip puerto =>
      ¬ delimiter <:+: nombre ∧ ¬ delimiter <:+: ip ∧ PuertoDecimal puerto
  | .descargar _ => True

theorem PuertoDecimal.stoi {puerto : Bytes} (decimal : PuertoDecimal puerto) :
    stoi puerto = .ok (numValue puerto : Int) :=
  stoi_of_digits decimal.1 decimal.2.1 (Nat.lt_trans decimal.2.2 (by decide))

/-- A well-formed upload is the registration of its name at its address. -/
theorem registro_bienFormada {nombre ip puerto : Bytes}
    (wellFormed : BienFormada (.subir nombre ip puerto)) :
    registro (Cliente.solicitud nombre ip puerto) = some (nombre, direccionDe ip puerto) := by
  obtain ⟨nombreClean, ipClean, decimal⟩ := wellFormed
  have puertoClean : ¬ delimiter <:+: puerto :=
    not_delimiter_infix fun _ member => ne_of_isDigit (decimal.2.1 _ member) (by decide)
  rw [registro_solicitud nombreClean ipClean puertoClean decimal.stoi, direccionDe,
    narrow16_ofNat decimal.2.2]

/-- The address of a canonical upload is shown as it was typed. -/
theorem direccionTexto_direccionDe (a b c d : UInt8) {puerto : Bytes}
    (decimalPort : PuertoDecimal puerto) :
    direccionTexto (direccionDe (dottedQuad a b c d) puerto) =
      ascii "tcp://" ++ dottedQuad a b c d ++ ascii ":" ++ decimal (numValue puerto) := by
  simp only [direccionTexto, ipPuertoToString, direccionDe, inetNtoa_inetAddr, ntohs_htons,
    UInt16.toNat_ofNat_of_lt' decimalPort.2.2]

theorem direccionTexto_ne_empty (direccion : ParIpPuerto) :
    direccionTexto direccion ≠ ascii "EMPTY" := by
  intro same
  have first := congrArg List.head? same
  simp [direccionTexto, ascii] at first

/-! ## Exchanges perform the operations of the index -/

theorem esListado_listado {tabla : Tabla} (nonempty : tabla.NonemptyLists) :
    EsListado tabla.elements (Servidor.listado tabla) := by
  have names : ∀ nombre, nombre ∈ tabla.keys ↔ tabla.elements nombre ≠ [] := by
    intro nombre
    rw [ne_eq, ← nonempty.find?_eq_none_iff, tabla.find?_eq_none_iff, not_not]
  constructor
  · refine ⟨tabla.keys, tabla.keys_sorted, names, ?_⟩
    intro some
    rw [Servidor.listado, if_neg (fun none => some ((obtenerFicheros_eq_nil_iff tabla).mp none)),
      obtenerFicheros_eq_keys]
  · constructor
    · intro empty nombre
      by_contra held
      have noNames : tabla.keys = [] := by
        by_contra some
        rw [Servidor.listado,
          if_neg (fun none => some ((obtenerFicheros_eq_nil_iff tabla).mp none))] at empty
        exact obtenerFicheros_ne_empty tabla empty
      have listed := (names nombre).mpr held
      rw [noNames] at listed
      cases listed
    · intro none
      have noNames : tabla.keys = [] := List.eq_nil_iff_forall_not_mem.mpr fun nombre listed =>
        (names nombre).mp listed (none nombre)
      rw [Servidor.listado, if_pos ((obtenerFicheros_eq_nil_iff tabla).mpr noNames)]

theorem elements_append_eq_agrega (tabla : Tabla) (nombre : Bytes) (direccion : ParIpPuerto) :
    (tabla.append nombre direccion).elements =
      Indice.agrega tabla.elements nombre direccion := by
  funext otro
  rw [OrderedMap.elements_append, Indice.agrega]
  by_cases same : otro = nombre
  · rw [if_pos same, if_pos same, same]
  · rw [if_neg same, if_neg same]

/-- A well-formed exchange is answered as the index answers it, and registers
what the operation says. -/
theorem intercambio_indice {tabla siguiente : Tabla} {operacion : Operacion} {respuesta : Bytes}
    (nonempty : tabla.NonemptyLists) (wellFormed : BienFormada operacion)
    (performed : intercambio tabla operacion = some (respuesta, siguiente)) :
    PasoIndice tabla.elements (operacion, respuesta) siguiente.elements ∧
      siguiente = tabla.appendAll (subida? operacion).toList := by
  cases operacion with
  | listar =>
      cases performed
      exact ⟨.listar (esListado_listado nonempty), rfl⟩
  | subir nombre ip puerto =>
      simp only [intercambio,
        agregarCliente_of_registro tabla (registro_bienFormada wellFormed)] at performed
      cases performed
      rw [elements_append_eq_agrega]
      exact ⟨.subir nombre ip puerto, rfl⟩
  | descargar nombre =>
      simp only [intercambio, obtenerCliente_eq nonempty] at performed
      cases performed
      refine ⟨?_, rfl⟩
      cases held : tabla.elements nombre with
      | nil => exact .noEncuentra held
      | cons direccion otras => exact .encuentra held

end DescargaP2P.Sistema
