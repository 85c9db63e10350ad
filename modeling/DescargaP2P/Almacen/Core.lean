import DescargaP2P.Collections.OrderedMap
import DescargaP2P.Cpp.Inet

/-!
# The address store

`AlmacenDirecciones` maps the name of a file to the addresses of the peers that
registered it, in order of registration.  An address is a pair of an IPv4 word
and a port, both in network byte order.

A call that reads `tokens[i]` or `second[0]` out of bounds has no defined result:
it is the value `indefinido` of an interruption, or `none`.
-/

namespace DescargaP2P.Almacen

open DescargaP2P.Collections
open DescargaP2P.Cpp
open DescargaP2P.Text

/-- An address in network byte order. -/
abbrev ParIpPuerto := UInt32 × UInt16

/-- `tabla_ficheros`: addresses of each file, files in byte order. -/
abbrev Tabla := OrderedMap Bytes (List ParIpPuerto)

/-- The separator of a request. -/
def delimiter : Bytes := ascii "</>"

/-- How a call can fail to return: an exception, or undefined behaviour. -/
inductive Interrupcion
  | excepcion (cause : Exception)
  | indefinido
  deriving DecidableEq, Repr

/-! ## Requests -/

/-- `separar_string`: the first three tokens of a request as a file, an address
word and a port.  `tokens[0]` to `tokens[2]` are read without a bounds check. -/
def separarString (s : Bytes) : Except Interrupcion (Bytes × UInt32 × UInt16) :=
  match (split delimiter s).1 with
  | fichero :: ip :: puerto :: _ =>
      match stoi puerto with
      | .error cause => .error (.excepcion cause)
      | .ok value => .ok (fichero, inetAddr ip, htons (narrow16 value))
  | _ => .error .indefinido

/-- `agregar_cliente`: whether the request was stored, and the table after it.
Exceptions of the splitter are caught; undefined behaviour is not. -/
def agregarCliente (tabla : Tabla) (s : Bytes) : Option (Bool × Tabla) :=
  match separarString s with
  | .error .indefinido => none
  | .error (.excepcion _) => some (false, tabla)
  | .ok (fichero, ip, puerto) =>
      let direccion : ParIpPuerto := (ip, puerto)
      match tabla.find? fichero with
      | some _ => some (true, tabla.modify fichero (· ++ [direccion]))
      | none => some (true, tabla.emplace fichero [direccion])

/-! ## Replies -/

/-- `ip_puerto_to_string`: an address in text form. -/
def ipPuertoToString (ip : UInt32) (puerto : UInt16) : Bytes × Bytes :=
  (inetNtoa ip, decimal (ntohs puerto).toNat)

/-- The reply for an address. -/
def direccionTexto (direccion : ParIpPuerto) : Bytes :=
  let (ip, puerto) := ipPuertoToString direccion.1 direccion.2
  ascii "tcp://" ++ ip ++ ascii ":" ++ puerto

/-- `obtener_cliente`: whether the file is present, and the reply.  The first
address of a present file is read without checking that there is one. -/
def obtenerCliente (tabla : Tabla) (fichero : Bytes) : Option (Bool × Bytes) :=
  match tabla.find? fichero with
  | some (direccion :: _) => some (true, direccionTexto direccion)
  | some [] => none
  | none => some (false, ascii "EMPTY")

/-- `obtener_ficheros`: every name followed by a space. -/
def obtenerFicheros (tabla : Tabla) : Bytes :=
  tabla.entries.flatMap fun f => f.1 ++ ascii " "

/-! ## What a call does -/

/-- The registration a request stands for, if the splitter accepts it. -/
def registro (s : Bytes) : Option (Bytes × ParIpPuerto) :=
  match separarString s with
  | .ok (fichero, ip, puerto) => some (fichero, (ip, puerto))
  | .error _ => none

/-- Both insertion paths append the address to the list of its file. -/
theorem agregarCliente_of_registro (tabla : Tabla) {s : Bytes} {entrada : Bytes × ParIpPuerto}
    (accepted : registro s = some entrada) :
    agregarCliente tabla s = some (true, tabla.append entrada.1 entrada.2) := by
  unfold registro at accepted
  unfold agregarCliente
  cases parsed : separarString s with
  | error _ => simp [parsed] at accepted
  | ok fields =>
      obtain ⟨fichero, ip, puerto⟩ := fields
      simp only [parsed, Option.some.injEq] at accepted
      subst accepted
      cases found : tabla.find? fichero with
      | none => simp only [found, OrderedMap.emplace_eq_append found]
      | some held => simp only [found, OrderedMap.modify_eq_append found]

/-- A call that returns true appends the registration its request stands for. -/
theorem agregarCliente_eq_true_iff (tabla siguiente : Tabla) (s : Bytes) :
    agregarCliente tabla s = some (true, siguiente) ↔
      ∃ entrada, registro s = some entrada ∧
        siguiente = tabla.append entrada.1 entrada.2 := by
  constructor
  · intro stored
    cases accepted : registro s with
    | none =>
        cases parsed : separarString s with
        | ok fields => simp [registro, parsed] at accepted
        | error cause => cases cause <;> simp [agregarCliente, parsed] at stored
    | some entrada =>
        rw [agregarCliente_of_registro tabla accepted] at stored
        simp only [Option.some.injEq, Prod.mk.injEq, true_and] at stored
        exact ⟨entrada, rfl, stored.symm⟩
  · rintro ⟨entrada, accepted, rfl⟩
    exact agregarCliente_of_registro tabla accepted

/-- A call that returns false leaves the table unchanged. -/
theorem agregarCliente_eq_false {tabla siguiente : Tabla} {s : Bytes}
    (rejected : agregarCliente tabla s = some (false, siguiente)) : siguiente = tabla := by
  cases parsed : separarString s with
  | ok fields =>
      have accepted : registro s = some (fields.1, fields.2) := by simp [registro, parsed]
      simp [agregarCliente_of_registro tabla accepted] at rejected
  | error cause =>
      cases cause with
      | indefinido => simp [agregarCliente, parsed] at rejected
      | excepcion _ =>
          simp only [agregarCliente, parsed, Option.some.injEq, Prod.mk.injEq, true_and]
            at rejected
          exact rejected.symm

/-- The answer for the addresses held under a name: the first one, or `EMPTY`. -/
def respuestaDe : List ParIpPuerto → Bool × Bytes
  | direccion :: _ => (true, direccionTexto direccion)
  | [] => (false, ascii "EMPTY")

/-- A lookup answers with the first address held, or `EMPTY`. -/
theorem obtenerCliente_eq {tabla : Tabla} (nonempty : tabla.NonemptyLists) (fichero : Bytes) :
    obtenerCliente tabla fichero = some (respuestaDe (tabla.elements fichero)) := by
  unfold obtenerCliente OrderedMap.elements
  cases found : tabla.find? fichero with
  | none => rfl
  | some held =>
      cases held with
      | nil => exact absurd found (nonempty fichero)
      | cons direccion rest => rfl

/-- The listing has a name exactly when it is not empty. -/
theorem obtenerFicheros_eq_nil_iff (tabla : Tabla) :
    obtenerFicheros tabla = [] ↔ tabla.keys = [] := by
  unfold obtenerFicheros OrderedMap.keys
  cases tabla.entries with
  | nil => simp
  | cons entry rest => simp [ascii]

/-- The listing depends on the names only. -/
theorem obtenerFicheros_eq_keys (tabla : Tabla) :
    obtenerFicheros tabla = tabla.keys.flatMap fun fichero => fichero ++ ascii " " := by
  simp [obtenerFicheros, OrderedMap.keys, List.flatMap_map]

/-- A listing ends in a space, so it is never the text `EMPTY`. -/
theorem obtenerFicheros_ne_empty (tabla : Tabla) : obtenerFicheros tabla ≠ ascii "EMPTY" := by
  intro equal
  have lastEqual := congrArg List.getLast? equal
  unfold obtenerFicheros at lastEqual
  rcases List.eq_nil_or_concat tabla.entries with none | ⟨front, last, cut⟩
  · rw [none] at lastEqual
    cases lastEqual
  · have space : (ascii " ").getLast? = some 32 := by decide
    rw [cut, List.concat_eq_append, List.flatMap_append, List.flatMap_singleton,
      ← List.append_assoc, List.getLast?_append, space, Option.some_or] at lastEqual
    exact absurd lastEqual (by decide)

end DescargaP2P.Almacen
