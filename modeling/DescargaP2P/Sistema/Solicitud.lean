import DescargaP2P.Almacen.Gramatica
import DescargaP2P.Cliente.Core
import DescargaP2P.Cliente.Direccion

/-!
# A registration from end to end

An address crosses four codecs: the client joins the fields of a request, the
store splits them, keeps the address in binary form and writes it out again, and
the download cuts the reply.
-/

namespace DescargaP2P.Sistema

open DescargaP2P.Almacen
open DescargaP2P.Cliente
open DescargaP2P.Collections
open DescargaP2P.Cpp
open DescargaP2P.Text

/-! ## Splitting a request -/

/-- Fields without a separator are split as they were joined. -/
theorem split_solicitud {nombre ip puerto : Bytes} (nombreClean : ¬ delimiter <:+: nombre)
    (ipClean : ¬ delimiter <:+: ip) (puertoClean : ¬ delimiter <:+: puerto) :
    split delimiter (solicitud nombre ip puerto) = ([nombre, ip, puerto], []) := by
  have clean : ∀ campo ∈ [nombre, ip, puerto], ¬ delimiter <:+: campo := by
    simp only [List.forall_mem_cons]
    exact ⟨nombreClean, ipClean, puertoClean, fun _ member => nomatch member⟩
  have asJoin : solicitud nombre ip puerto = joined delimiter [nombre, ip, puerto] := by
    simp only [solicitud, separador, delimiter, joined_cons, joined_nil, List.append_assoc,
      List.append_nil]
  rw [asJoin, split_joined delimiter_ne_nil delimiter_unbordered clean]

/-- The registration of a well-formed upload. -/
theorem registro_solicitud {nombre ip puerto : Bytes} {numero : Int}
    (nombreClean : ¬ delimiter <:+: nombre) (ipClean : ¬ delimiter <:+: ip)
    (puertoClean : ¬ delimiter <:+: puerto) (read : stoi puerto = .ok numero) :
    registro (solicitud nombre ip puerto) =
      some (nombre, (inetAddr ip, htons (narrow16 numero))) := by
  simp only [registro, separarString, split_solicitud nombreClean ipClean puertoClean, read]

/-! ## Well-formed fields -/

theorem length_dottedQuad_le (a b c d : UInt8) : (dottedQuad a b c d).length ≤ 15 := by
  have octet : ∀ byte : UInt8, (decimal byte.toNat).length ≤ 3 := by
    intro byte
    have small : byte.toNat < 10 ^ 3 := Nat.lt_trans byte.toNat_lt (by decide)
    exact length_decimal_le (by decide) small
  have first := octet a
  have second := octet b
  have third := octet c
  have fourth := octet d
  simp only [dottedQuad, ascii, List.length_append]
  simp
  omega

theorem stoi_port (port : UInt16) : stoi (decimal port.toNat) = .ok (port.toNat : Int) :=
  stoi_decimal (Nat.lt_trans port.toNat_lt (by decide))

/-! ## From registration to download -/

/-- The reply for an address is cut into its dotted quad and its port. -/
theorem analizaDireccion_direccionTexto (direccion : ParIpPuerto) :
    analizaDireccion (direccionTexto direccion) =
      .ok (inetNtoa direccion.1, decimal (ntohs direccion.2).toNat) := by
  have quad := @ne_of_mem_dottedQuad (addressByte direccion.1 0) (addressByte direccion.1 1)
    (addressByte direccion.1 2) (addressByte direccion.1 3)
  have noColon : ¬ ascii ":" <:+: inetNtoa direccion.1 := by
    intro colon
    have member : (58 : UInt8) ∈ inetNtoa direccion.1 := colon.subset (by decide)
    exact quad member (by decide) (by decide) rfl
  have portLength : (decimal (ntohs direccion.2).toNat).length ≤ 5 :=
    length_decimal_le (by decide) (Nat.lt_trans (ntohs direccion.2).toNat_lt (by decide))
  have quadLength : (inetNtoa direccion.1).length ≤ 15 := length_dottedQuad_le ..
  exact analizaDireccion_texto noColon (stoi_port (ntohs direccion.2)) (by omega)

/-- The reply for an address registered as a dotted quad and a port gives them back. -/
theorem analizaDireccion_dottedQuad (a b c d : UInt8) (port : UInt16) :
    analizaDireccion (direccionTexto (inetAddr (dottedQuad a b c d), htons port)) =
      .ok (dottedQuad a b c d, decimal port.toNat) := by
  rw [analizaDireccion_direccionTexto, inetNtoa_inetAddr, ntohs_htons]

/-- A file registered at a dotted quad and a port is looked up and parsed back to
exactly that quad and that port. -/
theorem direccion_registrada_se_recupera (tabla : Tabla) {nombre : Bytes}
    (absent : tabla.find? nombre = none) (clean : ¬ delimiter <:+: nombre)
    (a b c d : UInt8) (port : UInt16) :
    ∃ siguiente respuesta,
      agregarCliente tabla (solicitud nombre (dottedQuad a b c d) (decimal port.toNat)) =
        some (true, siguiente) ∧
      obtenerCliente siguiente nombre = some (true, respuesta) ∧
      analizaDireccion respuesta = .ok (dottedQuad a b c d, decimal port.toNat) := by
  have accepted := registro_solicitud clean (dottedQuad_clean a b c d)
    (decimal_clean port.toNat) (stoi_port port)
  have stored := agregarCliente_of_registro tabla accepted
  have held : obtenerCliente
      (tabla.append nombre (inetAddr (dottedQuad a b c d), htons port)) nombre =
        some (true, direccionTexto (inetAddr (dottedQuad a b c d), htons port)) := by
    simp [obtenerCliente, OrderedMap.find?_append, OrderedMap.elements, absent]
  rw [narrow16_natCast] at stored
  exact ⟨_, _, stored, held, analizaDireccion_dottedQuad a b c d port⟩

/-- A name that ends in a part of the separator, at the highest address. -/
theorem direccion_registrada_de_nombre_terminado_en_separador :
    ∃ siguiente respuesta,
      agregarCliente OrderedMap.empty
        (solicitud (ascii "fichero</") (dottedQuad 255 0 9 255) (decimal 65535)) =
          some (true, siguiente) ∧
      obtenerCliente siguiente (ascii "fichero</") = some (true, respuesta) ∧
      analizaDireccion respuesta = .ok (dottedQuad 255 0 9 255, decimal 65535) :=
  direccion_registrada_se_recupera OrderedMap.empty (by decide) (by decide) 255 0 9 255 65535

end DescargaP2P.Sistema
