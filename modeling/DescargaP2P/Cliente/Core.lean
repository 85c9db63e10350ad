import DescargaP2P.Cpp.Process
import DescargaP2P.ReqRep.Core

/-!
# The client menu

`main` of the client reads an operation, performs its exchange over a request
socket and goes back to the menu.  What the user types is a script of operations.
A state records the replies the operations ended with and the threads started:
the listeners of uploaded files and the downloads.
-/

namespace DescargaP2P.Cliente

open DescargaP2P.Cpp
open DescargaP2P.ReqRep
open DescargaP2P.Text

/-- The entries of the menu, with the words typed for them. -/
inductive Operacion
  | listar
  | subir (nombre ip puerto : Bytes)
  | descargar (nombre : Bytes)
  deriving DecidableEq, Repr

/-- The number typed at the menu. -/
def Operacion.opcion : Operacion → Nat
  | .listar => 0
  | .subir .. => 1
  | .descargar _ => 2

/-- The socket operations of the menu loop. -/
inductive Punto
  | menu
  | recibeListado
  | recibeAckSubida (nombre ip puerto : Bytes)
  | enviaSolicitud (nombre ip puerto : Bytes)
  | recibeAckFinal (nombre ip puerto : Bytes)
  | recibeAckConsulta (nombre : Bytes)
  | enviaNombre (nombre : Bytes)
  | recibeDireccion (nombre : Bytes)
  | terminado (causa : Termination)
  deriving DecidableEq, Repr

/-- The client between two socket operations.  `servidorasEscuchando` and
`descargas` are the arguments of the threads started so far. -/
structure Estado where
  punto : Punto
  guion : List Operacion
  respuestas : List (Operacion × Bytes)
  servidorasEscuchando : List (UInt16 × Bytes)
  descargas : List (Bytes × Bytes)
  deriving DecidableEq

/-- The client before its first operation. -/
def inicial (guion : List Operacion) : Estado where
  punto := .menu
  guion := guion
  respuestas := []
  servidorasEscuchando := []
  descargas := []

def ack : Bytes := ascii "ACK"

def separador : Bytes := ascii "</>"

/-- The second message of an upload. -/
def solicitud (nombre ip puerto : Bytes) : Bytes :=
  nombre ++ separador ++ (ip ++ separador) ++ (puerto ++ separador)

def accion (cliente : Estado) : Action Bytes :=
  match cliente.punto with
  | .menu =>
      match cliente.guion with
      | [] => .idle
      | operacion :: _ => .send (decimal operacion.opcion)
  | .enviaSolicitud nombre ip puerto => .send (solicitud nombre ip puerto)
  | .enviaNombre nombre => .send nombre
  | .terminado _ => .idle
  | _ => .receive

/-- The socket operation after the option has been sent. -/
def Operacion.espera : Operacion → Punto
  | .listar => .recibeListado
  | .subir nombre ip puerto => .recibeAckSubida nombre ip puerto
  | .descargar nombre => .recibeAckConsulta nombre

/-- The code that runs after a send, up to the next socket operation. -/
def enviada (cliente : Estado) : Estado :=
  match cliente.punto with
  | .menu =>
      match cliente.guion with
      | [] => cliente
      | operacion :: resto => { cliente with punto := operacion.espera, guion := resto }
  | .enviaSolicitud nombre ip puerto => { cliente with punto := .recibeAckFinal nombre ip puerto }
  | .enviaNombre nombre => { cliente with punto := .recibeDireccion nombre }
  | _ => cliente

/-- Go to the next point if the reply is the acknowledgement, else `exit(-1)`. -/
def siAck (cliente : Estado) (reply : Bytes) (punto : Punto) : Estado :=
  { cliente with punto := if reply = ack then punto else .terminado .exitFailure }

/-- Back to the menu after an operation that ended with a reply. -/
def completa (cliente : Estado) (operacion : Operacion) (reply : Bytes) : Estado :=
  { cliente with punto := .menu, respuestas := cliente.respuestas ++ [(operacion, reply)] }

/-- After the last acknowledgement of an upload: start the listener thread.  The
port is read by `std::stoi`, whose exceptions nothing catches. -/
def lanzaServidora (cliente : Estado) (nombre puerto : Bytes) : Estado :=
  match stoi puerto with
  | .error causa => { cliente with punto := .terminado (.uncaught causa) }
  | .ok numero =>
      { cliente with
        servidorasEscuchando := cliente.servidorasEscuchando ++ [(narrow16 numero, nombre)] }

/-- After the address of a file: start the download unless there is none. -/
def lanzaDescarga (cliente : Estado) (nombre reply : Bytes) : Estado :=
  if reply = ascii "EMPTY" then cliente
  else { cliente with descargas := cliente.descargas ++ [(nombre, reply)] }

/-- The code that runs on a reply, up to the next socket operation. -/
def recibida (cliente : Estado) (reply : Bytes) : Estado :=
  match cliente.punto with
  | .recibeListado => completa cliente .listar reply
  | .recibeAckSubida nombre ip puerto => siAck cliente reply (.enviaSolicitud nombre ip puerto)
  | .recibeAckFinal nombre ip puerto =>
      if reply = ack then
        lanzaServidora (completa cliente (.subir nombre ip puerto) reply) nombre puerto
      else { cliente with punto := .terminado .exitFailure }
  | .recibeAckConsulta nombre => siAck cliente reply (.enviaNombre nombre)
  | .recibeDireccion nombre =>
      lanzaDescarga (completa cliente (.descargar nombre) reply) nombre reply
  | _ => cliente

/-- The loop of `main`.  Nothing catches the exception of a refused operation. -/
def proceso : Process Estado Bytes where
  action := accion
  received := recibida
  sent := enviada
  failed cliente := { cliente with punto := .terminado .socketError }

/-! ## Progress through the script -/

/-- The operation whose exchange has begun and not ended. -/
def Punto.enCurso : Punto → List Operacion
  | .menu | .terminado _ => []
  | .recibeListado => [.listar]
  | .recibeAckSubida nombre ip puerto | .enviaSolicitud nombre ip puerto
  | .recibeAckFinal nombre ip puerto => [.subir nombre ip puerto]
  | .recibeAckConsulta nombre | .enviaNombre nombre | .recibeDireccion nombre =>
      [.descargar nombre]

/-- A client that has not ended has completed, begun or still to do exactly the
operations of its script, in order. -/
def Progreso (guion : List Operacion) (cliente : Estado) : Prop :=
  (∀ causa, cliente.punto ≠ .terminado causa) →
    cliente.respuestas.map Prod.fst ++ cliente.punto.enCurso ++ cliente.guion = guion

theorem progreso_inicial (guion : List Operacion) : Progreso guion (inicial guion) :=
  fun _ => rfl

theorem Progreso.enviada {guion : List Operacion} {cliente : Estado} {mensaje : Bytes}
    (progreso : Progreso guion cliente) (sends : accion cliente = .send mensaje) :
    Progreso guion (enviada cliente) := by
  rcases cliente with ⟨punto, resto, respuestas, servidoras, descargas⟩
  intro _
  cases punto with
  | menu =>
      rcases resto with _ | ⟨operacion, resto⟩
      · cases sends
      · rw [← progreso nofun]
        cases operacion <;> simp [Cliente.enviada, Operacion.espera, Punto.enCurso]
  | enviaSolicitud nombre ip puerto => exact progreso nofun
  | enviaNombre nombre => exact progreso nofun
  | _ => cases sends

theorem Progreso.recibida {guion : List Operacion} {cliente : Estado} {mensaje : Bytes}
    (progreso : Progreso guion cliente) (receives : accion cliente = .receive) :
    Progreso guion (recibida cliente mensaje) := by
  rcases cliente with ⟨punto, resto, respuestas, servidoras, descargas⟩
  intro running
  cases punto with
  | recibeListado =>
      rw [← progreso nofun]
      simp [Cliente.recibida, completa, Punto.enCurso]
  | recibeAckSubida nombre ip puerto =>
      simp only [Cliente.recibida, siAck] at running ⊢
      split at running
      · rename_i acknowledged
        rw [if_pos acknowledged]
        exact progreso nofun
      · exact absurd rfl (running .exitFailure)
  | recibeAckFinal nombre ip puerto =>
      simp only [Cliente.recibida] at running ⊢
      split at running
      · rename_i acknowledged
        rw [if_pos acknowledged, ← progreso nofun]
        unfold lanzaServidora at running ⊢
        split at running
        · exact absurd rfl (running _)
        · simp [completa, Punto.enCurso]
      · exact absurd rfl (running .exitFailure)
  | recibeAckConsulta nombre =>
      simp only [Cliente.recibida, siAck] at running ⊢
      split at running
      · rename_i acknowledged
        rw [if_pos acknowledged]
        exact progreso nofun
      · exact absurd rfl (running .exitFailure)
  | recibeDireccion nombre =>
      rw [← progreso nofun]
      simp only [Cliente.recibida, lanzaDescarga]
      split <;> simp [completa, Punto.enCurso]
  | menu =>
      rcases resto with _ | ⟨operacion, resto⟩ <;> cases receives
  | enviaSolicitud nombre ip puerto => cases receives
  | enviaNombre nombre => cases receives
  | terminado causa => cases receives

end DescargaP2P.Cliente
