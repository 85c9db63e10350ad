import DescargaP2P.Cliente.Descarga
import DescargaP2P.Sistema.Serie

/-!
# Peers

Every client is a peer with local files, a listener thread for each of its uploads
and a thread for each of its downloads.  A host has at most one acceptor on a port,
and a connection reaches the acceptor that is bound there; nothing in it names the
file.  A download is one step: the file it reads does not change meanwhile, and it does
not overlap with another download of the same name by the same peer, which would empty
what has been stored so far.
-/

namespace DescargaP2P.Sistema

open DescargaP2P.Almacen
open DescargaP2P.Cliente (Operacion Disco Entorno analizaDireccion hebraClienteFicheros
  guardados recibidos)
open DescargaP2P.Collections
open DescargaP2P.Cpp
open DescargaP2P.ReqRep
open DescargaP2P.Text
open DescargaP2P.Transition

universe u v

/-! ## The network of peers -/

/-- The host a peer runs on, and the host a peer reaches at an IP text, if any. -/
structure Topologia (ι : Type u) (η : Type v) where
  equipo : ι → η
  ruta : ι → Bytes → Option η

/-- `hebra_servidora_ficheros`: before its acceptor is bound, listening on a port, or
ended by an exception. -/
inductive HebraServidora
  | arranca
  | escucha (puerto : UInt16)
  | muerta
  deriving DecidableEq

/-- Clients and server, the listener threads of each client by the order of their
start, which of its downloads have ended, and its local files. -/
structure Pares (ι : Type u) where
  red : Red ι
  servidoras : ι → Nat → HebraServidora
  acabadas : ι → Nat → Bool
  discos : ι → Disco

/-- Peers before any operation, with an empty store. -/
def Pares.inicio {ι : Type u} (guiones : ι → List Operacion) (discos : ι → Disco) : Pares ι where
  red := Sistema.inicio guiones OrderedMap.empty
  servidoras _ _ := .arranca
  acabadas _ _ := false
  discos := discos

section Pares

variable {ι : Type u} {η : Type v}

/-- The process of the peer has not ended. -/
def Pares.EnMarcha (pares : Pares ι) (par : ι) : Prop :=
  ∀ causa, (pares.red.client par).punto ≠ .terminado causa

/-- A listener thread of a peer is bound to a port, for a file. -/
structure Pares.Escucha (pares : Pares ι) (par : ι) (hebra : Nat) (puerto : UInt16)
    (fichero : Bytes) : Prop where
  enMarcha : pares.EnMarcha par
  enlazada : pares.servidoras par hebra = .escucha puerto
  argumentos : ∃ pedido,
    (pares.red.client par).servidorasEscuchando[hebra]? = some (pedido, fichero)

/-- A connection from `par` to a host and a port in text form reaches a listener of
`origen` for a file. -/
structure Topologia.Alcanza (topologia : Topologia ι η) (pares : Pares ι) (par : ι)
    (ip portStr : Bytes) (origen : ι) (fichero : Bytes) : Prop where
  equipo : topologia.ruta par ip = some (topologia.equipo origen)
  puerto : ∃ hebra puerto, pares.Escucha origen hebra puerto fichero ∧
    portStr ≠ [] ∧ (∀ byte ∈ portStr, isDigit byte = true) ∧ numValue portStr = puerto.toNat

/-- Contents of a file of `origen` while `par` downloads under a name, once the
local file of that name has been emptied. -/
def Pares.contenido [DecidableEq ι] (pares : Pares ι) (par : ι) (nombre : Bytes) (origen : ι)
    (fichero : Bytes) : Bytes :=
  (Function.update pares.discos par (Function.update (pares.discos par) (cString nombre) (some []))
    origen (cString fichero)).getD []

/-- What a connection delivers comes from a listener that it reaches. -/
def Topologia.Entrega [DecidableEq ι] (topologia : Topologia ι η) (pares : Pares ι) (par : ι)
    (nombre : Bytes) (entorno : Entorno) : Prop :=
  ∀ ip portStr lecturas, entorno.conexion ip portStr = .conectada lecturas →
    ∃ origen fichero, topologia.Alcanza pares par ip portStr origen fichero ∧
      recibidos lecturas <+: pares.contenido par nombre origen fichero

/-- Events of the peers: one of clients and server, a bind, the end of a listener, the
run of a download, or the user writing a local file. -/
inductive Suceso (ι : Type u)
  | red (evento : Event ι)
  | enlaza (par : ι) (hebra : Nat) (puerto : UInt16)
  | cae (par : ι) (hebra : Nat)
  | descarga (par : ι) (hebra : Nat) (entorno : Entorno)
  | escribe (par : ι) (ruta contenido : Bytes)

/-- Replace the state of one listener thread. -/
def Pares.setServidora [DecidableEq ι] (pares : Pares ι) (par : ι) (hebra : Nat)
    (estado : HebraServidora) : Pares ι :=
  { pares with
    servidoras := Function.update pares.servidoras par
      (Function.update (pares.servidoras par) hebra estado) }

/-- Replace the local files of one peer. -/
def Pares.setDisco [DecidableEq ι] (pares : Pares ι) (par : ι) (disco : Disco) : Pares ι :=
  { pares with discos := Function.update pares.discos par disco }

/-- Note that a download has ended. -/
def Pares.acaba [DecidableEq ι] (pares : Pares ι) (par : ι) (hebra : Nat) : Pares ι :=
  { pares with
    acabadas := Function.update pares.acabadas par
      (Function.update (pares.acabadas par) hebra true) }

/-- One step of the peers.  A bind to port 0 takes any port; a bind to a port with an
acceptor on the same host throws, so that it is a `cae`.  The first `do_accept`
creates the served file if it is absent. -/
inductive PasoPares [DecidableEq ι] (topologia : Topologia ι η) :
    Labelled (Pares ι) (Suceso ι)
  | red {pares : Pares ι} {evento : Event ι} {siguiente : Red ι} :
      Paso pares.red evento siguiente →
      PasoPares topologia pares (.red evento) { pares with red := siguiente }
  | enlaza {pares : Pares ι} {par : ι} {hebra : Nat} {pedido puerto : UInt16} {fichero : Bytes} :
      pares.EnMarcha par → pares.servidoras par hebra = .arranca →
      (pares.red.client par).servidorasEscuchando[hebra]? = some (pedido, fichero) →
      puerto ≠ 0 → (pedido = puerto ∨ pedido = 0) →
      (∀ otro otra servido, topologia.equipo otro = topologia.equipo par →
        ¬ pares.Escucha otro otra puerto servido) →
      PasoPares topologia pares (.enlaza par hebra puerto)
        ((pares.setServidora par hebra (.escucha puerto)).setDisco par
          (Function.update (pares.discos par) (cString fichero)
            (some ((pares.discos par (cString fichero)).getD []))))
  | cae {pares : Pares ι} {par : ι} {hebra : Nat} :
      PasoPares topologia pares (.cae par hebra) (pares.setServidora par hebra .muerta)
  | descarga {pares : Pares ι} {par : ι} {hebra : Nat} {nombre direccion : Bytes}
      {entorno : Entorno} :
      pares.EnMarcha par → pares.acabadas par hebra = false →
      (pares.red.client par).descargas[hebra]? = some (nombre, direccion) →
      topologia.Entrega pares par nombre entorno →
      (hebraClienteFicheros entorno (pares.discos par) nombre direccion).2 = true →
      PasoPares topologia pares (.descarga par hebra entorno)
        ((pares.setDisco par
          (hebraClienteFicheros entorno (pares.discos par) nombre direccion).1).acaba par hebra)
  | escribe {pares : Pares ι} {par : ι} {ruta contenido : Bytes} :
      PasoPares topologia pares (.escribe par ruta contenido)
        (pares.setDisco par (Function.update (pares.discos par) ruta (some contenido)))

/-- The run of a download is complete: it reached a listener of `origen` for a file,
and received and wrote all of it. -/
structure Topologia.Completa [DecidableEq ι] (topologia : Topologia ι η) (pares : Pares ι)
    (par : ι) (nombre direccion : Bytes) (entorno : Entorno) (origen : ι) (fichero : Bytes) :
    Prop where
  creada : entorno.vacia direccion = true
  conectada : ∃ ip portStr, analizaDireccion direccion = .ok (ip, portStr) ∧
    topologia.Alcanza pares par ip portStr origen fichero
  entera : guardados (entorno.lecturas direccion) = pares.contenido par nombre origen fichero

/-- A peer has registered a file at an address: the server has processed its upload. -/
def Registra (serie : Serie ι) (par : ι) (nombre : Bytes) (direccion : ParIpPuerto) : Prop :=
  ∃ subido ip puerto respuesta,
    (.subir subido ip puerto, respuesta) ∈ serie.respuestas par ∧
    registro (Cliente.solicitud subido ip puerto) = some (nombre, direccion)

end Pares

end DescargaP2P.Sistema
