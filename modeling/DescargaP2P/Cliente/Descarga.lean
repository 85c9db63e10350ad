import DescargaP2P.Cliente.Direccion
import DescargaP2P.Cpp.Inet
import Mathlib.Logic.Function.Basic

/-!
# The download thread

`hebra_cliente_ficheros` empties the local file before it connects, and then
appends what it receives until the first error.  What the operating system and the
network answer to its calls is an environment.
-/

namespace DescargaP2P.Cliente

open DescargaP2P.Cpp
open DescargaP2P.Text

/-- Local files by path. -/
abbrev Disco := Bytes → Option Bytes

/-- What one read delivers: at least one byte, at most the size of `datos`. -/
structure Trozo where
  bytes : Bytes
  noVacio : bytes ≠ []
  cabe : bytes.length ≤ 1024

/-- Error codes of a read. -/
inductive CodigoError
  | eof
  | connectionReset
  | otro
  deriving DecidableEq

/-- `write` on the local file: everything is written, or it throws after some
bytes. -/
inductive Escritura
  | completa
  | cortada (bytes : Nat)
  deriving DecidableEq

/-- The result of one `async_read` on the connection. -/
inductive Lectura
  | datos (trozo : Trozo) (escritura : Escritura)
  | error (codigo : CodigoError)

/-- The connection to the peer, with the reads performed on it. -/
inductive Conexion
  | noResuelve
  | noConecta
  | conectada (lecturas : List Lectura)

/-- The answers to the calls of a download: whether the local file can be created,
whether it can be opened again, and the connection to a host and a port. -/
structure Entorno where
  creaFichero : Bool
  abreDescriptor : Bool
  conexion : Bytes → Bytes → Conexion

/-! ## The thread -/

/-- `FileService::do_write`: the local file after some reads, and whether the thread
has ended.  Every error code stops it, without a difference. -/
def doWrite (contenido : Bytes) : List Lectura → Bytes × Bool
  | [] => (contenido, false)
  | .error _ :: _ => (contenido, true)
  | .datos trozo (.cortada bytes) :: _ => (contenido ++ trozo.bytes.take bytes, true)
  | .datos trozo .completa :: resto => doWrite (contenido ++ trozo.bytes) resto

/-- `do_connect`: the local files, and whether the thread has ended. -/
def doConnect (entorno : Entorno) (disco : Disco)
    (serverAddress serverPort nombreFichero : Bytes) : Disco × Bool :=
  let ruta := cString nombreFichero
  if entorno.creaFichero then
    let vaciado := Function.update disco ruta (some [])
    if entorno.abreDescriptor then
      match entorno.conexion serverAddress serverPort with
      | .noResuelve | .noConecta => (vaciado, true)
      | .conectada lecturas =>
          let (contenido, termina) := doWrite [] lecturas
          (Function.update vaciado ruta (some contenido), termina)
    else (vaciado, true)
  else (disco, true)

/-- `hebra_cliente_ficheros`: the local files, and whether the thread has ended.
Its `catch` prints the exception and nothing else. -/
def hebraClienteFicheros (entorno : Entorno) (disco : Disco) (fichero dirCliente : Bytes) :
    Disco × Bool :=
  match analizaDireccion dirCliente with
  | .error _ => (disco, true)
  | .ok (ip, portStr) => doConnect entorno disco ip portStr fichero

/-! ## What was received and what was stored -/

/-- Bytes received before the first error. -/
def recibidos : List Lectura → Bytes
  | .datos trozo .completa :: resto => trozo.bytes ++ recibidos resto
  | .datos trozo (.cortada _) :: _ => trozo.bytes
  | _ => []

/-- Bytes received and written before the first error. -/
def guardados : List Lectura → Bytes
  | .datos trozo .completa :: resto => trozo.bytes ++ guardados resto
  | .datos trozo (.cortada bytes) :: _ => trozo.bytes.take bytes
  | _ => []

/-- The reads of a download, none if there is no connection. -/
def Entorno.lecturas (entorno : Entorno) (dirCliente : Bytes) : List Lectura :=
  match analizaDireccion dirCliente with
  | .error _ => []
  | .ok (ip, portStr) =>
      match entorno.abreDescriptor, entorno.conexion ip portStr with
      | true, .conectada lecturas => lecturas
      | _, _ => []

/-- The download gets as far as emptying the local file. -/
def Entorno.vacia (entorno : Entorno) (dirCliente : Bytes) : Bool :=
  (analizaDireccion dirCliente).isOk && entorno.creaFichero

theorem guardados_prefix_recibidos (lecturas : List Lectura) :
    guardados lecturas <+: recibidos lecturas := by
  induction lecturas with
  | nil => exact List.prefix_refl _
  | cons lectura resto ih =>
      cases lectura with
      | error codigo => exact List.prefix_refl _
      | datos trozo escritura =>
          cases escritura with
          | completa => exact (List.prefix_append_right_inj _).mpr ih
          | cortada bytes => exact List.take_prefix _ _

/-- The handler appends what it has written to what was there. -/
theorem doWrite_contenido (contenido : Bytes) (lecturas : List Lectura) :
    (doWrite contenido lecturas).1 = contenido ++ guardados lecturas := by
  induction lecturas generalizing contenido with
  | nil => exact (List.append_nil _).symm
  | cons lectura resto ih =>
      cases lectura with
      | error codigo => exact (List.append_nil _).symm
      | datos trozo escritura =>
          cases escritura with
          | completa =>
              rw [doWrite, ih, guardados, List.append_assoc]
          | cortada bytes => rfl

/-- The only effect of a download: the local file holds what was written. -/
theorem hebraClienteFicheros_disco (entorno : Entorno) (disco : Disco)
    (fichero dirCliente : Bytes) :
    (hebraClienteFicheros entorno disco fichero dirCliente).1 =
      if entorno.vacia dirCliente then
        Function.update disco (cString fichero) (some (guardados (entorno.lecturas dirCliente)))
      else disco := by
  unfold hebraClienteFicheros Entorno.vacia Entorno.lecturas
  cases analizaDireccion dirCliente with
  | error causa => rfl
  | ok parsed =>
      rcases parsed with ⟨ip, portStr⟩
      rcases entorno with ⟨creates, opens, conexion⟩
      cases creates
      · rfl
      · cases opens
        · rfl
        · simp only [doConnect, if_true, Except.isOk, Except.toBool, Bool.and_self]
          cases conexion ip portStr with
          | noResuelve => rfl
          | noConecta => rfl
          | conectada lecturas =>
              simp [doWrite_contenido]

/-! ## All or nothing -/

/-- The local file holds the complete remote contents, or what it held before. -/
def TodoONada (remoto : Bytes) (antes despues : Disco) (fichero : Bytes) : Prop :=
  despues (cString fichero) = some remoto ∨ despues (cString fichero) = antes (cString fichero)

/-- A download that fails before it creates the local file leaves every file alone.
Any other download leaves in the local file the bytes it received and wrote, a part
of the remote contents from their beginning, and nothing is kept of what the file
held; so it is all or nothing only if everything was stored, or if the same bytes
were there. -/
theorem descarga_guarda_lo_recibido (entorno : Entorno) (disco : Disco)
    (fichero dirCliente remoto : Bytes)
    (delivers : recibidos (entorno.lecturas dirCliente) <+: remoto) :
    (∀ ruta, ruta ≠ cString fichero →
      (hebraClienteFicheros entorno disco fichero dirCliente).1 ruta = disco ruta) ∧
    (entorno.vacia dirCliente = false →
      (hebraClienteFicheros entorno disco fichero dirCliente).1 = disco) ∧
    (entorno.vacia dirCliente = true →
      guardados (entorno.lecturas dirCliente) <+: remoto ∧
      (hebraClienteFicheros entorno disco fichero dirCliente).1 (cString fichero) =
        some (guardados (entorno.lecturas dirCliente))) ∧
    (TodoONada remoto disco (hebraClienteFicheros entorno disco fichero dirCliente).1 fichero ↔
      entorno.vacia dirCliente = false ∨ guardados (entorno.lecturas dirCliente) = remoto ∨
        disco (cString fichero) = some (guardados (entorno.lecturas dirCliente))) := by
  have stored := guardados_prefix_recibidos (entorno.lecturas dirCliente)
  rw [TodoONada, hebraClienteFicheros_disco]
  cases reached : entorno.vacia dirCliente with
  | false => simp
  | true =>
      rw [if_pos rfl]
      refine ⟨?_, nofun, ?_, ?_⟩
      · intro ruta different
        exact Function.update_of_ne different _ _
      · intro _
        exact ⟨stored.trans delivers, Function.update_self ..⟩
      · rw [Function.update_self, Option.some.injEq, eq_comm (a := some _)]
        simp

/-- A download of everything over an older file. -/
theorem descarga_completa_guarda_todo :
    ∃ entorno : Entorno, entorno.vacia (ascii "tcp://10.0.0.1:80") = true ∧
      (hebraClienteFicheros entorno (fun _ => some (ascii "viejo")) (ascii "f")
        (ascii "tcp://10.0.0.1:80")).1 (ascii "f") = some (ascii "nuevo") := by
  let entorno : Entorno :=
    ⟨true, true, fun _ _ => .conectada [.datos ⟨ascii "nu", by decide, by decide⟩ .completa,
      .datos ⟨ascii "evo", by decide, by decide⟩ .completa, .error .eof]⟩
  have reached : entorno.vacia (ascii "tcp://10.0.0.1:80") = true := by decide +kernel
  have delivered : recibidos (entorno.lecturas (ascii "tcp://10.0.0.1:80")) <+: ascii "nuevo" := by
    decide +kernel
  have all : guardados (entorno.lecturas (ascii "tcp://10.0.0.1:80")) = ascii "nuevo" := by
    decide +kernel
  have held := ((descarga_guarda_lo_recibido entorno (fun _ => some (ascii "viejo")) (ascii "f")
    (ascii "tcp://10.0.0.1:80") (ascii "nuevo") delivered).2.2.1 reached).2
  rw [all] at held
  exact ⟨entorno, reached, held⟩

/-- A refused connection empties a file that was there; a reset leaves a part of a
file that was not. -/
theorem descarga_fallida_estropea_el_fichero :
    (∃ (entorno : Entorno) (disco : Disco),
      recibidos (entorno.lecturas (ascii "tcp://10.0.0.1:80")) <+: ascii "nuevo" ∧
      (hebraClienteFicheros entorno disco (ascii "f") (ascii "tcp://10.0.0.1:80")).2 = true ∧
      ¬ TodoONada (ascii "nuevo") disco
        (hebraClienteFicheros entorno disco (ascii "f") (ascii "tcp://10.0.0.1:80")).1
        (ascii "f")) ∧
    ∃ (entorno : Entorno) (disco : Disco), disco (ascii "f") = none ∧
      recibidos (entorno.lecturas (ascii "tcp://10.0.0.1:80")) <+: ascii "nuevo" ∧
      (hebraClienteFicheros entorno disco (ascii "f") (ascii "tcp://10.0.0.1:80")).2 = true ∧
      ¬ TodoONada (ascii "nuevo") disco
        (hebraClienteFicheros entorno disco (ascii "f") (ascii "tcp://10.0.0.1:80")).1
        (ascii "f") := by
  constructor
  · refine ⟨⟨true, true, fun _ _ => .noConecta⟩, fun _ => some (ascii "viejo"), ?_, ?_, ?_⟩
    · decide +kernel
    · decide +kernel
    · unfold TodoONada
      decide +kernel
  · refine ⟨⟨true, true, fun _ _ => .conectada
      [.datos ⟨ascii "nu", by decide, by decide⟩ .completa, .error .connectionReset]⟩,
      fun _ => none, rfl, ?_, ?_, ?_⟩
    · decide +kernel
    · decide +kernel
    · unfold TodoONada
      decide +kernel

end DescargaP2P.Cliente
