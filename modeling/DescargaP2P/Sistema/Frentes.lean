import DescargaP2P.Servidor.Rutas
import DescargaP2P.Sistema.Serie

/-!
# Both front ends of the server

The reply socket and the HTTP connections work on one table.  In the serial machine each
complete exchange of the menu and each HTTP request is one step on the table; router,
response objects and sockets are gone.  The system refines it if a call of the table is
not interrupted by another one, and no foreign request is taken in the middle of an
exchange.
-/

namespace DescargaP2P.Sistema

open DescargaP2P.Almacen
open DescargaP2P.Cliente (Operacion)
open DescargaP2P.Collections
open DescargaP2P.Crow
open DescargaP2P.ReqRep
open DescargaP2P.Servidor
open DescargaP2P.Text
open DescargaP2P.Transition

universe u v w

variable {ι : Type u} {κ : Type v} {δ : Type w}

/-! ## The page of the table -/

section Portada

variable (strtod : Bytes → Option (δ × Bytes)) (files : Bytes → Option Bytes) (perfil : Bytes)

end Portada

/-! ## The serial machine of both front ends -/

section Refinamiento

variable {strtod : Bytes → Option (δ × Bytes)} {files : Bytes → Option Bytes} {perfil : Bytes}

variable [DecidableEq ι] [DecidableEq κ]

end Refinamiento

end DescargaP2P.Sistema
