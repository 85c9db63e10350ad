import DescargaP2P.Cliente.Descarga
import DescargaP2P.Cpp.Descriptors
import DescargaP2P.Transition.Core

/-!
# The file service

A `FileService` owns a descriptor, an array of 1024 bytes and a connection.  It lives
as long as some handler holds a reference to it, and its destructor closes both.
`do_read` and `do_write` are one chain of handlers with the ends exchanged: a read into
the array, a write of what was read, and the same again until a read fails.
-/

namespace DescargaP2P.Cliente

open DescargaP2P.Cpp
open DescargaP2P.Text
open DescargaP2P.Transition

/-- The member `datos`. -/
abbrev Datos := Buffer 1024

/-- The smallest read. -/
def Trozo.deUno (byte : UInt8) : Trozo where
  bytes := [byte]
  noVacio := List.cons_ne_nil _ _
  cabe := Nat.le_of_ble_eq_true rfl

/-- A `FileService`: the offset of its descriptor, its array, the `shared_ptr`s to it,
and whether its descriptor and its connection are open. -/
structure FileService where
  posicion : Nat
  datos : Datos
  referencias : Nat
  abierto : Bool

namespace FileService

/-- `create`.  Nothing initialises the array. -/
def create (datos : Datos) : FileService where
  posicion := 0
  datos := datos
  referencias := 1
  abierto := true

/-- `get_ptr` and `shared_from_this`. -/
def getPtr (servicio : FileService) : FileService :=
  { servicio with referencias := servicio.referencias + 1 }

/-- A `shared_ptr` goes away; with the last one `~FileService` runs. -/
def suelta (servicio : FileService) : FileService :=
  { servicio with
    referencias := servicio.referencias - 1
    abierto := servicio.abierto && servicio.referencias != 1 }

/-- A read has put bytes into the array. -/
def llena (servicio : FileService) (trozo : Trozo) : FileService :=
  { servicio with datos := servicio.datos.fill trozo.bytes trozo.cabe }

/-- The descriptor has read or written some bytes. -/
def avanza (servicio : FileService) (bytes : Nat) : FileService :=
  { servicio with posicion := servicio.posicion + bytes }

/-- What is still to be written of `buffer(datos, leidos)`. -/
def pendiente (servicio : FileService) (leidos escritos : Nat) : Bytes :=
  (servicio.datos.first leidos).drop escritos

/-- Held by some references; the destructor has run exactly when there is none. -/
def Compartido (servicio : FileService) (referencias : Nat) : Prop :=
  servicio.referencias = referencias ∧ servicio.abierto = decide (0 < referencias)

theorem compartido_create (datos : Datos) : (create datos).Compartido 1 :=
  ⟨rfl, rfl⟩

theorem Compartido.getPtr {servicio : FileService} {referencias : Nat}
    (compartido : servicio.Compartido (referencias + 1)) :
    servicio.getPtr.Compartido (referencias + 2) := by
  rcases compartido with ⟨count, opened⟩
  exact ⟨congrArg (· + 1) count, by simp [FileService.getPtr, opened]⟩

theorem Compartido.suelta {servicio : FileService} {referencias : Nat}
    (compartido : servicio.Compartido (referencias + 1)) :
    servicio.suelta.Compartido referencias := by
  rcases compartido with ⟨count, opened⟩
  constructor
  · rw [FileService.suelta, count, Nat.add_sub_cancel]
  · cases referencias <;> simp [FileService.suelta, count, opened]

/-- Only the destructor closes the connection. -/
theorem Compartido.eq_zero {servicio : FileService} {referencias : Nat}
    (compartido : servicio.Compartido referencias) (cerrado : servicio.abierto = false) :
    referencias = 0 := by
  rw [compartido.2, decide_eq_false_iff_not] at cerrado
  exact Nat.eq_zero_of_not_pos cerrado

@[simp]
theorem posicion_avanza (servicio : FileService) (bytes : Nat) :
    (servicio.avanza bytes).posicion = servicio.posicion + bytes :=
  rfl

theorem Compartido.llena {servicio : FileService} {referencias : Nat}
    (compartido : servicio.Compartido referencias) (trozo : Trozo) :
    (servicio.llena trozo).Compartido referencias :=
  compartido

theorem pendiente_llena (servicio : FileService) (trozo : Trozo) :
    (servicio.llena trozo).pendiente trozo.bytes.length 0 = trozo.bytes :=
  servicio.datos.first_fill trozo.cabe

theorem pendiente_self (servicio : FileService) {leidos : Nat} :
    servicio.pendiente leidos leidos = [] := by
  rw [pendiente, Buffer.first]
  exact List.drop_eq_nil_of_le (List.length_take_le _ _)

theorem length_pendiente (servicio : FileService) {leidos escritos : Nat}
    (cabe : leidos ≤ 1024) : (servicio.pendiente leidos escritos).length = leidos - escritos := by
  rw [pendiente, List.length_drop, servicio.datos.length_first cabe]

/-- A write of some bytes splits what is to be written. -/
theorem take_pendiente_append (servicio : FileService) (leidos escritos bytes : Nat) :
    (servicio.pendiente leidos escritos).take bytes ++
      servicio.pendiente leidos (escritos + bytes) = servicio.pendiente leidos escritos := by
  rw [pendiente, pendiente, ← List.drop_drop]
  exact List.take_append_drop _ _

end FileService

/-! ## The chain of handlers -/

/-- Where the chain of a service stands: a read is pending and no handler runs, the
handler has passed some bytes of those read to `write`, or it has begun the next read
and is about to return; after an error no handler is left. -/
inductive Cadena
  | lee
  | escribe (leidos escritos : Nat)
  | relanza
  | fin

/-- What a step of a chain does at the ends of the service. -/
inductive Movimiento
  | lee (trozo : Trozo)
  | escribe (bytes : Bytes)
  | interno
  | fin

/-- The handler of `do_read` and of `do_write`.  It holds a reference (`self`); the
next read takes another one before the handler gives up its own. -/
inductive PasoCadena : FileService × Cadena → Movimiento → FileService × Cadena → Prop
  | lee (servicio : FileService) (trozo : Trozo) :
      PasoCadena (servicio, .lee) (.lee trozo)
        (servicio.llena trozo, .escribe trozo.bytes.length 0)
  | escribe (servicio : FileService) {leidos escritos bytes : Nat} (alguno : 0 < bytes)
      (quedan : escritos + bytes ≤ leidos) :
      PasoCadena (servicio, .escribe leidos escritos)
        (.escribe ((servicio.pendiente leidos escritos).take bytes))
        (servicio, .escribe leidos (escritos + bytes))
  | relanza (servicio : FileService) (leidos : Nat) :
      PasoCadena (servicio, .escribe leidos leidos) .interno (servicio.getPtr, .relanza)
  | retorna (servicio : FileService) :
      PasoCadena (servicio, .relanza) .interno (servicio.suelta, .lee)
  | error (servicio : FileService) :
      PasoCadena (servicio, .lee) .fin (servicio.suelta, .fin)

namespace Cadena

/-- Bytes that have been read and not written. -/
def retenido (servicio : FileService) : Cadena → Bytes
  | .escribe leidos escritos => servicio.pendiente leidos escritos
  | .lee | .relanza | .fin => []

/-- The references agree with the handlers there are, and no more than the array is
written. -/
def Sana (servicio : FileService) : Cadena → Prop
  | .lee => servicio.Compartido 1
  | .escribe leidos escritos =>
      servicio.Compartido 1 ∧ escritos ≤ leidos ∧ leidos ≤ 1024
  | .relanza => servicio.Compartido 2
  | .fin => servicio.Compartido 0

/-- A chain whose connection is closed has ended. -/
theorem Sana.eq_fin {servicio : FileService} {cadena : Cadena} (sana : cadena.Sana servicio)
    (cerrado : servicio.abierto = false) : cadena = .fin := by
  cases cadena with
  | lee => exact absurd (sana.eq_zero cerrado) Nat.one_ne_zero
  | escribe leidos escritos => exact absurd (sana.1.eq_zero cerrado) Nat.one_ne_zero
  | relanza => exact absurd (sana.eq_zero cerrado) (Nat.succ_ne_zero 1)
  | fin => rfl

/-- Steps of the chain that are left when no more bytes come. -/
def faltan (servicio : FileService) : Cadena → Nat
  | .lee => 1
  | .escribe leidos escritos => 3 + (servicio.pendiente leidos escritos).length
  | .relanza => 2
  | .fin => 0

/-! The offset of the descriptor matters to none of these. -/

@[simp]
theorem retenido_avanza (servicio : FileService) (bytes : Nat) (cadena : Cadena) :
    cadena.retenido (servicio.avanza bytes) = cadena.retenido servicio := by
  cases cadena <;> rfl

@[simp]
theorem sana_avanza (servicio : FileService) (bytes : Nat) (cadena : Cadena) :
    cadena.Sana (servicio.avanza bytes) = cadena.Sana servicio := by
  cases cadena <;> rfl

@[simp]
theorem faltan_avanza (servicio : FileService) (bytes : Nat) (cadena : Cadena) :
    cadena.faltan (servicio.avanza bytes) = cadena.faltan servicio := by
  cases cadena <;> rfl

end Cadena

namespace Movimiento

/-- Bytes taken from the source of the chain. -/
def tomado : Movimiento → Bytes
  | .lee trozo => trozo.bytes
  | .escribe _ | .interno | .fin => []

/-- Bytes given to the sink of the chain. -/
def dado : Movimiento → Bytes
  | .escribe bytes => bytes
  | .lee _ | .interno | .fin => []

end Movimiento

namespace PasoCadena

variable {servicio servicio' : FileService} {cadena cadena' : Cadena} {movimiento : Movimiento}

theorem posicion (paso : PasoCadena (servicio, cadena) movimiento (servicio', cadena')) :
    servicio'.posicion = servicio.posicion := by
  cases paso <;> rfl

theorem sana (paso : PasoCadena (servicio, cadena) movimiento (servicio', cadena'))
    (antes : cadena.Sana servicio) : cadena'.Sana servicio' := by
  cases paso with
  | lee _ trozo => exact ⟨antes.llena trozo, Nat.zero_le _, trozo.cabe⟩
  | escribe _ alguno quedan => exact ⟨antes.1, quedan, antes.2.2⟩
  | relanza => exact antes.1.getPtr
  | retorna => exact antes.suelta
  | error => exact antes.suelta

/-- What is taken is what was read; what is given was read before it. -/
theorem conserva (paso : PasoCadena (servicio, cadena) movimiento (servicio', cadena')) :
    cadena.retenido servicio ++ movimiento.tomado =
      movimiento.dado ++ cadena'.retenido servicio' := by
  cases paso with
  | lee _ trozo => exact (servicio.pendiente_llena trozo).symm
  | escribe _ alguno quedan =>
      rw [Movimiento.tomado, List.append_nil]
      exact (servicio.take_pendiente_append _ _ _).symm
  | relanza =>
      rw [Cadena.retenido, FileService.pendiente_self]
      rfl
  | retorna => rfl
  | error => rfl

/-- The same with the source the bytes come from. -/
theorem conserva_fuente {fuente : Bytes}
    (paso : PasoCadena (servicio, cadena) movimiento (servicio', cadena'))
    (hay : movimiento.tomado <+: fuente) :
    movimiento.dado ++ (cadena'.retenido servicio' ++ fuente.drop movimiento.tomado.length) =
      cadena.retenido servicio ++ fuente := by
  rw [← List.append_assoc, ← paso.conserva, List.append_assoc, List.prefix_iff_eq_append.mp hay]

/-- A step is paid for by the steps that were left or by the bytes it takes. -/
theorem faltan_lt (paso : PasoCadena (servicio, cadena) movimiento (servicio', cadena'))
    (antes : cadena.Sana servicio) :
    cadena'.faltan servicio' < cadena.faltan servicio + 4 * movimiento.tomado.length := by
  cases paso with
  | lee _ trozo =>
      have some_byte := List.length_pos_of_ne_nil trozo.noVacio
      rw [Cadena.faltan, Cadena.faltan, servicio.pendiente_llena, Movimiento.tomado]
      omega
  | escribe _ alguno quedan =>
      rcases antes with ⟨_, _, cabe⟩
      rw [Cadena.faltan, Cadena.faltan, servicio.length_pendiente cabe,
        servicio.length_pendiente cabe]
      omega
  | relanza =>
      rw [Cadena.faltan, Cadena.faltan]
      omega
  | retorna => exact Nat.lt_succ_self 1
  | error => exact Nat.zero_lt_one

/-- The handler of a read without an error, executed to its end. -/
theorem manejador (servicio : FileService) (trozo : Trozo) :
    Run PasoCadena (fun _ _ => True) (servicio, .lee)
      [.lee trozo, .escribe trozo.bytes, .interno, .interno]
      ((servicio.llena trozo).getPtr.suelta, .lee) := by
  have some_byte := List.length_pos_of_ne_nil trozo.noVacio
  have written := PasoCadena.escribe (servicio.llena trozo) some_byte
    (Nat.le_of_eq (Nat.zero_add _))
  rw [FileService.pendiente_llena, List.take_length, Nat.zero_add] at written
  have read : Run PasoCadena (fun _ _ => True) (servicio, .lee) [.lee trozo] _ :=
    Run.tail Run.refl trivial (.lee servicio trozo)
  have sent := Run.tail read trivial written
  have again := Run.tail sent trivial (PasoCadena.relanza _ _)
  exact Run.tail again trivial (PasoCadena.retorna _)

/-- Only an error ends the chain. -/
theorem eq_fin (paso : PasoCadena (servicio, cadena) movimiento (servicio', .fin)) :
    movimiento = .fin := by
  cases paso
  rfl

/-- There is no step after the end. -/
theorem ne_fin (paso : PasoCadena (servicio, cadena) movimiento (servicio', cadena')) :
    cadena ≠ .fin := by
  cases paso <;> exact Cadena.noConfusion

/-- Between two reads the chain needs nothing but room for a byte in its sink. -/
theorem exists_of_ne (servicio : FileService) (cadena : Cadena) (sana : cadena.Sana servicio) :
    cadena = .lee ∨ cadena = .fin ∨ ∃ movimiento siguiente,
      PasoCadena (servicio, cadena) movimiento siguiente ∧ movimiento ≠ .fin ∧
        movimiento.tomado = [] ∧ movimiento.dado.length ≤ 1 := by
  cases cadena with
  | lee => exact Or.inl rfl
  | fin => exact Or.inr (Or.inl rfl)
  | relanza =>
      exact Or.inr (Or.inr ⟨_, _, .retorna servicio, Movimiento.noConfusion, rfl, Nat.zero_le _⟩)
  | escribe leidos escritos =>
      right
      right
      rcases Nat.eq_or_lt_of_le sana.2.1 with rfl | more
      · exact ⟨_, _, .relanza servicio _, Movimiento.noConfusion, rfl, Nat.zero_le _⟩
      · exact ⟨_, _, .escribe servicio Nat.one_pos more, Movimiento.noConfusion, rfl,
          List.length_take_le _ _⟩

end PasoCadena

end DescargaP2P.Cliente
