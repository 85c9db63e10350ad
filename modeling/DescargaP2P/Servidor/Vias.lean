import DescargaP2P.Servidor.Core
import DescargaP2P.Servidor.Rutas

/-!
# The three ways to register a file

A registration arrives over the reply socket, in the body of a form or in a path.
The first two answer what the store has said.  The third one answers that the file
was added without having looked.  The two answers over HTTP are sent by the library, and
behind a `HEAD` on the connection it sends none of them.
-/

namespace DescargaP2P.Servidor

open DescargaP2P.Almacen
open DescargaP2P.Collections
open DescargaP2P.Cpp
open DescargaP2P.Crow
open DescargaP2P.Text

universe u

/-- A registration: the second message of option 1, a form, or a path. -/
inductive Via
  | opcion1 (solicitud : Bytes)
  | guardar (body : Bytes)
  | agregarFichero (nombreFichero ip puerto : Segmento)

namespace Via

/-- What the server program answers, nothing if the process ends before it does, and the
table after the request: the message of option 1, or the text that a handler returns.
A request without a defined behaviour has no result. -/
def atiende (tabla : Tabla) : Via → Option (Option Bytes × Tabla)
  | .opcion1 solicitud =>
      let servidor := recibida ⟨.esperaRegistro, tabla⟩ solicitud
      match servidor.punto, accion servidor with
      | .terminado .undefined, _ => none
      | _, .send texto => some (some texto, servidor.tabla)
      | _, _ => some (none, servidor.tabla)
  | .guardar body =>
      match Servidor.guardar tabla body with
      | none => none
      | some (texto, siguiente) => some (some texto, siguiente)
  | .agregarFichero nombreFichero ip puerto =>
      match Servidor.agregarFichero tabla nombreFichero ip puerto with
      | none => none
      | some (texto, siguiente) => some (some texto, siguiente)

/-- The request that reaches the store. -/
def solicitud : Via → Bytes
  | .opcion1 solicitud => solicitud
  | .guardar body => formateaSolicitud body
  | .agregarFichero nombreFichero ip puerto => solicitudFichero nombreFichero ip puerto

/-- The answer that reports success. -/
def exito : Via → Bytes
  | .opcion1 _ => ack
  | .guardar _ => ascii "ACK"
  | .agregarFichero .. => paginaAgregado

/-- The answer when the store has returned false. -/
def fracaso : Via → Option Bytes
  | .opcion1 _ => none
  | .guardar body => some (formateaSolicitud body)
  | .agregarFichero .. => some paginaAgregado

/-- All three ways do what the store does with their request. -/
theorem atiende_eq (tabla : Tabla) (via : Via) :
    via.atiende tabla =
      match agregarCliente tabla via.solicitud with
      | none => none
      | some (true, siguiente) => some (some via.exito, siguiente)
      | some (false, siguiente) => some (via.fracaso, siguiente) := by
  cases via with
  | opcion1 s =>
      simp only [atiende, solicitud, recibida]
      cases outcome : agregarCliente tabla s with
      | none => simp
      | some result =>
          obtain ⟨stored, siguiente⟩ := result
          cases stored with
          | true => simp [accion, exito]
          | false =>
              have same := agregarCliente_eq_false outcome
              simp [accion, fracaso, same]
  | guardar body =>
      simp only [atiende, solicitud, Servidor.guardar]
      cases agregarCliente tabla (formateaSolicitud body) with
      | none => rfl
      | some result =>
          obtain ⟨stored, siguiente⟩ := result
          cases stored <;> rfl
  | agregarFichero nombreFichero ip puerto =>
      simp only [atiende, solicitud, Servidor.agregarFichero]
      cases agregarCliente tabla (solicitudFichero nombreFichero ip puerto) with
      | none => rfl
      | some result =>
          obtain ⟨stored, siguiente⟩ := result
          cases stored <;> rfl

end Via

/-! ## Calls -/

/-- The path of a registration. -/
def rutaFichero (nombreFichero ip puerto : Segmento) : Bytes :=
  ascii "/agregar_fichero/" ++ nombreFichero.texto ++ ascii "/" ++ ip.texto ++ ascii "/" ++
    puerto.texto

section Llamadas

variable {δ : Type u}
variable (strtod : Bytes → Option (δ × Bytes)) (files : Bytes → Option Bytes) (perfil : Bytes)

/-- A connection that has answered some requests and waits for another one. -/
structure Abierta where
  /-- The requests, each with the table that it has found. -/
  anteriores : List (Tabla × Request)
  conexion : Connection
  abierta : opened (app strtod files perfil) {} anteriores = some conexion

/-- A registration as it is sent: a message of option 1, or a request over an open
connection. -/
inductive Llamada
  | opcion1 (solicitud : Bytes)
  | guardar (abierta : Abierta strtod files perfil) (request : Request)
      (esGuardar : request.method = .Post ∧ request.url = ascii "/guardar")
  | agregarFichero (abierta : Abierta strtod files perfil) (request : Request)
      (nombreFichero ip puerto : Segmento)
      (esRuta : request.method = .Get ∧ request.url = rutaFichero nombreFichero ip puerto)

variable {strtod files perfil}

namespace Llamada

/-- The way of a call. -/
def via : Llamada strtod files perfil → Via
  | .opcion1 solicitud => .opcion1 solicitud
  | .guardar _ request _ => .guardar request.body
  | .agregarFichero _ _ nombreFichero ip puerto _ => .agregarFichero nombreFichero ip puerto

/-- What the caller receives, nothing if the process ends before it answers, and the table
after the call. -/
def recibe (tabla : Tabla) (llamada : Llamada strtod files perfil) :
    Option (Option Bytes × Tabla) :=
  match llamada with
  | .opcion1 solicitud => (Via.opcion1 solicitud).atiende tabla
  | .guardar abierta request _ | .agregarFichero abierta request _ _ _ _ =>
      (serve (app strtod files perfil) tabla abierta.conexion request).map
        fun (exchange, siguiente, _) => (exchange.received, siguiente)

end Llamada

end Llamadas

end DescargaP2P.Servidor
