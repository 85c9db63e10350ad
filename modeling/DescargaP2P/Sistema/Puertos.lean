import DescargaP2P.Almacen.Gramatica
import DescargaP2P.Cliente.Core

/-!
# The port of an upload

The client and the server read the port text of an upload on their own.  The client
reads the whole text for its listener; the server reads it up to the first separator
and keeps it in network byte order.  `std::stoi` stops at the separator, and both
conversions are modulo `2 ^ 16`.
-/

namespace DescargaP2P.Sistema

open DescargaP2P.Almacen
open DescargaP2P.Cliente
open DescargaP2P.Collections
open DescargaP2P.Cpp
open DescargaP2P.Text

/-- The third token of an upload is the port text, up to the first separator in it. -/
theorem campos_solicitud {nombre ip : Bytes} (nombreClean : ¬ delimiter <:+: nombre)
    (ipClean : ¬ delimiter <:+: ip) (puerto : Bytes) :
    ∃ token resto, puerto = token ++ resto ∧ (∀ byte ∈ resto.head?, byte = 60) ∧
      Campos (solicitud nombre ip puerto) nombre ip token := by
  obtain ⟨token, resto, despues, cut, opening, tokenClean, ended⟩ := exists_token puerto
  refine ⟨token, resto, cut, opening, ⟨despues, ?_⟩, nombreClean, ipClean, tokenClean⟩
  calc solicitud nombre ip puerto
      = nombre ++ delimiter ++ (ip ++ delimiter ++ (puerto ++ delimiter)) := by
        simp only [solicitud, separador, delimiter, List.append_assoc]
    _ = nombre ++ delimiter ++ (ip ++ delimiter ++ (token ++ delimiter ++ despues)) := by
        rw [ended]

/-- A token that the server reads as a port has the same value in the whole text. -/
theorem stoi_token {token resto : Bytes} {numero : Int} (read : stoi token = .ok numero)
    (opening : ∀ byte ∈ resto.head?, byte = 60) : stoi (token ++ resto) = .ok numero := by
  apply stoi_append read
  intro byte first
  rw [opening byte first]
  rfl

/-- An address stored for a port is written with that port. -/
theorem ipPuertoToString_htons (ip : UInt32) (puerto : UInt16) :
    ipPuertoToString ip (htons puerto) = (inetNtoa ip, decimal puerto.toNat) := by
  rw [ipPuertoToString, ntohs_htons]

/-- An upload that the server accepts starts a listener on the port that the server gives
out for its address. -/
theorem puerto_anunciado_es_el_de_escucha {nombre ip puerto : Bytes}
    (nombreClean : ¬ delimiter <:+: nombre) (ipClean : ¬ delimiter <:+: ip)
    {tabla siguiente : Tabla}
    (accepted : agregarCliente tabla (solicitud nombre ip puerto) = some (true, siguiente)) :
    ∃ (numero : Int) (direccion : ParIpPuerto), stoi puerto = .ok numero ∧
      (∀ cliente, lanzaServidora cliente nombre puerto =
        { cliente with
          servidorasEscuchando :=
            cliente.servidorasEscuchando ++ [(narrow16 numero, nombre)] }) ∧
      siguiente = tabla.append nombre direccion ∧
      ipPuertoToString direccion.1 direccion.2 =
        (inetNtoa direccion.1, decimal (narrow16 numero).toNat) ∧
      (tabla.find? nombre = none → obtenerCliente siguiente nombre =
        some (true, ascii "tcp://" ++ inetNtoa direccion.1 ++ ascii ":" ++
          decimal (narrow16 numero).toNat)) := by
  obtain ⟨token, resto, rfl, opening, fields⟩ := campos_solicitud nombreClean ipClean puerto
  obtain ⟨numero, read, rfl⟩ := fields.exists_of_accepted accepted
  have whole := stoi_token read opening
  have written := ipPuertoToString_htons (inetAddr ip) (narrow16 numero)
  refine ⟨numero, (inetAddr ip, htons (narrow16 numero)), whole, ?_, rfl, written, ?_⟩
  · intro cliente
    rw [lanzaServidora, whole]
  · intro absent
    rw [obtenerCliente, OrderedMap.find?_append, if_pos rfl, OrderedMap.elements, absent,
      Option.getD_none, List.nil_append]
    simp only [direccionTexto, written]

/-- A port above 65535 with trailing bytes and a separator in it. -/
theorem puerto_anunciado_es_el_de_escucha_con_separador :
    ∃ (numero : Int) (direccion : ParIpPuerto),
      stoi (ascii " +0070000x</>9") = .ok numero ∧ numero = 70000 ∧
        ipPuertoToString direccion.1 direccion.2 =
          (inetNtoa direccion.1, decimal (narrow16 numero).toNat) := by
  have accepted : agregarCliente OrderedMap.empty
      (solicitud (ascii "f") (ascii "1.2.3.4") (ascii " +0070000x</>9")) =
        some (true, OrderedMap.empty.append (ascii "f") (0x04030201, 0x7011)) := by
    decide +kernel
  obtain ⟨numero, direccion, read, _, _, written, _⟩ :=
    puerto_anunciado_es_el_de_escucha (by decide) (by decide) accepted
  have value : stoi (ascii " +0070000x</>9") = .ok 70000 := by decide +kernel
  exact ⟨numero, direccion, read, Except.ok.inj (read.symm.trans value), written⟩

end DescargaP2P.Sistema
