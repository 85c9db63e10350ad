import DescargaP2P.Almacen.Persistencia
import DescargaP2P.Cpp.OutputStreams

/-!
# Saving, one stream operation after another

`salvar_datos` looks at the stream once, after opening it.  Whatever fails later
leaves a cut text in a file whose old contents went when it was opened, and the
call returns true all the same.
-/

namespace DescargaP2P.Almacen

open DescargaP2P.Cpp
open DescargaP2P.Text

/-! ## The operations -/

section Operaciones

variable (capacidad : Nat)

/-- `archivo << direccion.first << " " << direccion.second << " "`. -/
def guardaDireccion (archivo : OutStream) (direccion : ParIpPuerto) : OutStream :=
  let trasIp := (archivo.insert capacidad (decimal direccion.1.toNat)).insert capacidad (ascii " ")
  (trasIp.insert capacidad (decimal direccion.2.toNat)).insert capacidad (ascii " ")

/-- The body of the outer loop; `std::endl` ends the line and flushes. -/
def guardaLinea (archivo : OutStream) (par : Bytes × List ParIpPuerto) : OutStream :=
  let trasNombre := (archivo.insert capacidad par.1).insert capacidad (ascii " ")
  ((par.2.foldl (guardaDireccion capacidad) trasNombre).insert capacidad (ascii "\n")).flush

/-- `salvar_datos` over a stream with a buffer: its result and the contents of the
file after it. -/
def salvarDatosPorFlujo (salida : Salida) (previo : Option Bytes) (tabla : Tabla) :
    Bool × Option Bytes :=
  if salida.abre then
    (true, some (tabla.entries.foldl (guardaLinea capacidad) (.opened salida.acepta)).close)
  else (false, previo)

variable {limite : Option Nat} {texto : Bytes} {archivo : OutStream}

theorem given_guardaDireccion (given : archivo.Given limite texto) (direccion : ParIpPuerto) :
    (guardaDireccion capacidad archivo direccion).Given limite
      (texto ++ campoDireccion direccion) := by
  have inserted := (((given.insert capacidad (decimal direccion.1.toNat)).insert capacidad
    (ascii " ")).insert capacidad (decimal direccion.2.toNat)).insert capacidad (ascii " ")
  simp only [campoDireccion]
  simpa only [guardaDireccion, List.append_assoc] using inserted

theorem given_guardaDirecciones (given : archivo.Given limite texto)
    (direcciones : List ParIpPuerto) :
    (direcciones.foldl (guardaDireccion capacidad) archivo).Given limite
      (texto ++ direcciones.flatMap campoDireccion) := by
  induction direcciones generalizing archivo texto with
  | nil => simpa using given
  | cons direccion otras ih =>
      have rest := ih (given_guardaDireccion capacidad given direccion)
      simpa only [List.foldl_cons, List.flatMap_cons, List.append_assoc] using rest

theorem given_guardaLinea (given : archivo.Given limite texto)
    (par : Bytes × List ParIpPuerto) :
    (guardaLinea capacidad archivo par).Given limite (texto ++ lineaDatos par) := by
  have name := (given.insert capacidad par.1).insert capacidad (ascii " ")
  have line := ((given_guardaDirecciones capacidad name par.2).insert capacidad
    (ascii "\n")).flush
  simp only [lineaDatos]
  simpa only [guardaLinea, List.append_assoc] using line

theorem given_guardaLineas (given : archivo.Given limite texto)
    (entradas : List (Bytes × List ParIpPuerto)) :
    (entradas.foldl (guardaLinea capacidad) archivo).Given limite
      (texto ++ entradas.flatMap lineaDatos) := by
  induction entradas generalizing archivo texto with
  | nil => simpa using given
  | cons par otras ih =>
      have rest := ih (given_guardaLinea capacidad given par)
      simpa only [List.foldl_cons, List.flatMap_cons, List.append_assoc] using rest

theorem Salida.escrito_eq_taken (salida : Salida) (texto : Bytes) :
    salida.escrito texto = taken salida.acepta texto := by
  unfold Salida.escrito
  cases salida.acepta <;> rfl

/-- The operations leave what the path takes of the whole text, whatever the
buffer. -/
theorem salvarDatosPorFlujo_eq (salida : Salida) (previo : Option Bytes) (tabla : Tabla) :
    salvarDatosPorFlujo capacidad salida previo tabla = salvarDatos salida previo tabla := by
  have lines := given_guardaLineas capacidad (OutStream.given_opened salida.acepta) tabla.entries
  rw [salvarDatosPorFlujo, salvarDatos, lines.close_eq, List.nil_append, textoDatos,
    salida.escrito_eq_taken]

end Operaciones

/-! ## When saving is atomic -/

/-- Bytes of an address in the file. -/
def tamanoDireccion (direccion : ParIpPuerto) : Nat :=
  Nat.log 10 direccion.1.toNat + Nat.log 10 direccion.2.toNat + 4

/-- Bytes of a line in the file. -/
def tamanoLinea (par : Bytes × List ParIpPuerto) : Nat :=
  par.1.length + (par.2.map tamanoDireccion).sum + 2

/-- Bytes a table takes in the file. -/
def tamanoDatos (tabla : Tabla) : Nat := (tabla.entries.map tamanoLinea).sum

theorem length_campoDireccion (direccion : ParIpPuerto) :
    (campoDireccion direccion).length = tamanoDireccion direccion := by
  have blank : (ascii " ").length = 1 := rfl
  simp only [campoDireccion, List.length_append, length_decimal, blank, tamanoDireccion]
  omega

theorem length_lineaDatos (par : Bytes × List ParIpPuerto) :
    (lineaDatos par).length = tamanoLinea par := by
  have blank : (ascii " ").length = 1 := rfl
  have newline : (ascii "\n").length = 1 := rfl
  have addresses : (par.2.flatMap campoDireccion).length = (par.2.map tamanoDireccion).sum := by
    simp only [List.length_flatMap, length_campoDireccion]
  simp only [lineaDatos, List.length_append, addresses, blank, newline, tamanoLinea]
  omega

theorem length_textoDatos (tabla : Tabla) : (textoDatos tabla).length = tamanoDatos tabla := by
  simp only [textoDatos, List.length_flatMap, length_lineaDatos, tamanoDatos]

/-- The result tells which of the two snapshots the file holds. -/
def GuardadoAtomico (capacidad : Nat) (salida : Salida) (previo : Option Bytes)
    (tabla : Tabla) : Prop :=
  ((salvarDatosPorFlujo capacidad salida previo tabla).1 = true →
    (salvarDatosPorFlujo capacidad salida previo tabla).2 = some (textoDatos tabla)) ∧
  ((salvarDatosPorFlujo capacidad salida previo tabla).1 = false →
    (salvarDatosPorFlujo capacidad salida previo tabla).2 = previo)

/-- Saving is atomic exactly when the path cannot be opened, or takes the length of
the whole text. -/
theorem guardado_atomico_iff (capacidad : Nat) (salida : Salida) (previo : Option Bytes)
    (tabla : Tabla) :
    GuardadoAtomico capacidad salida previo tabla ↔
      salida.abre = false ∨ ∀ limite ∈ salida.acepta, tamanoDatos tabla ≤ limite := by
  rw [GuardadoAtomico, salvarDatosPorFlujo_eq, salvarDatos, ← length_textoDatos]
  cases salida.abre with
  | false => simp
  | true => simp [salida.escrito_eq_iff]

/-- A full disk: the backup of one file is replaced by the beginning of another text,
which is a record the store never held, and the call returns true. -/
theorem guardado_cortado_devuelve_verdadero :
    ∃ tabla previo escrito,
      salvarDatosPorFlujo 8191 ⟨true, some 13⟩ (some previo) tabla = (true, some escrito) ∧
      escrito ≠ textoDatos tabla ∧ escrito ≠ previo ∧
      ¬ GuardadoAtomico 8191 ⟨true, some 13⟩ (some previo) tabla := by
  let tabla : Tabla := ⟨[(ascii "a", [(67305985, 20480)])], by simp⟩
  have saved : salvarDatosPorFlujo 8191 ⟨true, some 13⟩ (some (ascii "b 1 2 \n")) tabla =
      (true, some (ascii "a 67305985 20")) := by decide +kernel
  refine ⟨tabla, ascii "b 1 2 \n", ascii "a 67305985 20", saved, by decide +kernel,
    by decide, ?_⟩
  intro atomic
  have whole := atomic.1 (by rw [saved])
  rw [saved] at whole
  exact absurd (Option.some.inj whole) (by decide +kernel)

end DescargaP2P.Almacen
