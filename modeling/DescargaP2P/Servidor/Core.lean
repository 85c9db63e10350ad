import DescargaP2P.Almacen.Core
import DescargaP2P.Cpp.Process
import DescargaP2P.ReqRep.Core

/-!
# The server loop

`main` of the server is a loop around one reply socket.  A state is the socket
operation the loop is about to perform, with the text it is about to send, and
the address store.
-/

namespace DescargaP2P.Servidor

open DescargaP2P.Almacen
open DescargaP2P.Cpp
open DescargaP2P.ReqRep
open DescargaP2P.Text

/-- The socket operations of the loop. -/
inductive Punto
  | esperaOpcion
  | enviaListado (miAlmacen : Bytes)
  | enviaAckRegistro
  | esperaRegistro
  | enviaAckFinal
  | enviaAckConsulta
  | esperaNombre
  | enviaDireccion (clienteConFichero : Bytes)
  | terminado (causa : Termination)
  deriving DecidableEq, Repr

/-- The server between two socket operations. -/
structure Estado where
  punto : Punto
  tabla : Tabla
  deriving DecidableEq

/-- The server at the head of the loop. -/
def inicial (tabla : Tabla) : Estado where
  punto := .esperaOpcion
  tabla := tabla

def ack : Bytes := ascii "ACK"

/-- The text sent for option 0. -/
def listado (tabla : Tabla) : Bytes :=
  if obtenerFicheros tabla = [] then ascii "EMPTY" else obtenerFicheros tabla

def accion (servidor : Estado) : Action Bytes :=
  match servidor.punto with
  | .esperaOpcion | .esperaRegistro | .esperaNombre => .receive
  | .enviaListado texto | .enviaDireccion texto => .send texto
  | .enviaAckRegistro | .enviaAckFinal | .enviaAckConsulta => .send ack
  | .terminado _ => .idle

/-- The `switch` on the option, up to the first socket operation.  The `default`
branch prints a line and goes back to the head of the loop. -/
def trasOpcion (tabla : Tabla) (opcion : Int) : Punto :=
  match opcion with
  | 0 => .enviaListado (listado tabla)
  | 1 => .enviaAckRegistro
  | 2 => .enviaAckConsulta
  | _ => .esperaOpcion

/-- The code that runs on a request, up to the next socket operation. -/
def recibida (servidor : Estado) (request : Bytes) : Estado :=
  match servidor.punto with
  | .esperaOpcion =>
      match stoi request with
      | .error causa => { servidor with punto := .terminado (.uncaught causa) }
      | .ok opcion => { servidor with punto := trasOpcion servidor.tabla opcion }
  | .esperaRegistro =>
      match agregarCliente servidor.tabla request with
      | none => { servidor with punto := .terminado .undefined }
      | some (false, _) => { servidor with punto := .terminado .exitFailure }
      | some (true, tabla) => { punto := .enviaAckFinal, tabla := tabla }
  | .esperaNombre =>
      match obtenerCliente servidor.tabla request with
      | none => { servidor with punto := .terminado .undefined }
      | some (_, clienteConFichero) =>
          { servidor with punto := .enviaDireccion clienteConFichero }
  | _ => servidor

/-- The code that runs after a send, up to the next socket operation. -/
def enviada (servidor : Estado) : Estado :=
  match servidor.punto with
  | .enviaAckRegistro => { servidor with punto := .esperaRegistro }
  | .enviaAckConsulta => { servidor with punto := .esperaNombre }
  | _ => { servidor with punto := .esperaOpcion }

/-- The loop of `main`.  Nothing catches the exception of a refused operation. -/
def proceso : Process Estado Bytes where
  action := accion
  received := recibida
  sent := enviada
  failed servidor := { servidor with punto := .terminado .socketError }

/-- The process has not ended. -/
def Vivo (servidor : Estado) : Prop := ∀ causa, servidor.punto ≠ .terminado causa

/-! ## What a request does -/

theorem trasOpcion_cases (tabla : Tabla) (opcion : Int) :
    (opcion = 0 ∧ trasOpcion tabla opcion = .enviaListado (listado tabla)) ∨
      (opcion = 1 ∧ trasOpcion tabla opcion = .enviaAckRegistro) ∨
      (opcion = 2 ∧ trasOpcion tabla opcion = .enviaAckConsulta) ∨
      ((opcion ≠ 0 ∧ opcion ≠ 1 ∧ opcion ≠ 2) ∧ trasOpcion tabla opcion = .esperaOpcion) := by
  unfold trasOpcion
  split <;> simp_all

/-- No request removes an address: the table only grows, by the registration that
was sent. -/
theorem recibida_tabla (servidor : Estado) (request : Bytes) :
    (recibida servidor request).tabla = servidor.tabla ∨
      ∃ entrada, registro request = some entrada ∧ servidor.punto = .esperaRegistro ∧
        (recibida servidor request).tabla = servidor.tabla.append entrada.1 entrada.2 := by
  unfold recibida
  cases point : servidor.punto with
  | esperaRegistro =>
      cases outcome : agregarCliente servidor.tabla request with
      | none => exact .inl rfl
      | some result =>
          rcases result with ⟨stored, tabla⟩
          cases stored with
          | false => exact .inl rfl
          | true =>
              rcases (agregarCliente_eq_true_iff _ _ _).mp outcome with ⟨entrada, accepted, rfl⟩
              exact .inr ⟨entrada, accepted, rfl, rfl⟩
  | esperaOpcion => cases stoi request <;> exact .inl rfl
  | esperaNombre => cases obtenerCliente servidor.tabla request <;> exact .inl rfl
  | _ => exact .inl rfl

theorem nonemptyLists_recibida {servidor : Estado} (nonempty : servidor.tabla.NonemptyLists)
    (request : Bytes) : (recibida servidor request).tabla.NonemptyLists := by
  rcases recibida_tabla servidor request with same | ⟨entrada, _, _, grown⟩
  · rw [same]
    exact nonempty
  · rw [grown]
    exact nonempty.append entrada.1 entrada.2

@[simp]
theorem enviada_tabla (servidor : Estado) : (enviada servidor).tabla = servidor.tabla := by
  unfold enviada
  split <;> rfl

/-- After a reply the loop receives again. -/
theorem accion_enviada (servidor : Estado) : accion (enviada servidor) = .receive := by
  unfold accion enviada
  cases servidor.punto <;> rfl

theorem vivo_of_accion {servidor : Estado} (busy : accion servidor ≠ .idle) : Vivo servidor := by
  intro causa ended
  apply busy
  rw [accion, ended]

theorem vivo_enviada (servidor : Estado) : Vivo (enviada servidor) := by
  apply vivo_of_accion
  rw [accion_enviada]
  intro idle
  cases idle

end DescargaP2P.Servidor
