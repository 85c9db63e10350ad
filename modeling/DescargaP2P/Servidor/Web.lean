import DescargaP2P.Almacen.Gramatica
import DescargaP2P.Cpp.Streams
import Mathlib.Logic.Function.Basic

/-!
# Registrations over HTTP

The handlers of `/guardar` and `/agregar_fichero` join three texts into a request
for the store.  What a body or a path segment holds is arbitrary, but the handlers
end each of the three texts with a separator, so the store always finds its three
tokens.
-/

namespace DescargaP2P.Servidor

open DescargaP2P.Almacen
open DescargaP2P.Collections
open DescargaP2P.Cpp
open DescargaP2P.Text

/-- `SEPARADOR` of the server. -/
def SEPARADOR : Bytes := ascii "</>"

/-- `PUERTO_CROW`. -/
def PUERTO_CROW : Nat := 8080

/-! ## The body of a form -/

/-- The key and the value of a token, if it has an `=`. -/
def campoFormulario (token : Bytes) : Option (Bytes × Bytes) :=
  match findSub (ascii "=") token with
  | none => none
  | some pos => some (token.take pos, token.drop (pos + 1))

/-- `datos[clave] = valor` for one token. -/
def guardaCampo (datos : Bytes → Bytes) (token : Bytes) : Bytes → Bytes :=
  match campoFormulario token with
  | none => datos
  | some (clave, valor) => Function.update datos clave valor

/-- The map `datos`, as `operator[]` reads it: an absent key has the empty value. -/
def datosFormulario (body : Bytes) : Bytes → Bytes :=
  (getlines 38 body).foldl guardaCampo fun _ => []

/-- `formatea_solicitud`. -/
def formateaSolicitud (body : Bytes) : Bytes :=
  let datos := datosFormulario body
  datos (ascii "nombre_fichero") ++ SEPARADOR ++ datos (ascii "ip") ++ SEPARADOR ++
    datos (ascii "puerto") ++ SEPARADOR

/-! ## The handlers -/

/-- A `<string>` parameter of a route, as it stands in the path. -/
structure Segmento where
  texto : Bytes
  noVacio : texto ≠ []
  sinBarra : ∀ byte ∈ texto, byte ≠ 47

/-- The request of `/agregar_fichero`. -/
def solicitudFichero (nombreFichero ip puerto : Segmento) : Bytes :=
  nombreFichero.texto ++ SEPARADOR ++ ip.texto ++ SEPARADOR ++ puerto.texto ++ SEPARADOR

/-- `POST /guardar`: the body of the response, and the table after it. -/
def guardar (tabla : Tabla) (body : Bytes) : Option (Bytes × Tabla) :=
  let resultado := formateaSolicitud body
  match agregarCliente tabla resultado with
  | none => none
  | some (true, siguiente) => some (ascii "ACK", siguiente)
  | some (false, siguiente) => some (resultado, siguiente)

/-- The page of `/agregar_fichero`. -/
def paginaAgregado : Bytes :=
  ascii "<h2>Fichero agregado correctamente.</h2> <a href='localhost:" ++ decimal PUERTO_CROW ++
    ascii "/'>Inicio</a>"

/-- `GET /agregar_fichero`: the result of the store is not looked at. -/
def agregarFichero (tabla : Tabla) (nombreFichero ip puerto : Segmento) :
    Option (Bytes × Tabla) :=
  match agregarCliente tabla (solicitudFichero nombreFichero ip puerto) with
  | none => none
  | some (_, siguiente) => some (paginaAgregado, siguiente)

/-! ## Three tokens -/

/-- Three texts that were joined have three tokens, whatever separators they hold. -/
theorem campos_of_separador (first second third : Bytes) :
    ∃ fichero ip puerto, Campos (first ++ SEPARADOR ++ second ++ SEPARADOR ++ third ++ SEPARADOR)
      fichero ip puerto := by
  have joined : first ++ SEPARADOR ++ second ++ SEPARADOR ++ third ++ SEPARADOR =
      first ++ delimiter ++ (second ++ delimiter ++ (third ++ delimiter ++ [])) := by
    simp only [SEPARADOR, delimiter, List.append_assoc, List.append_nil]
  have tokens : 3 ≤ (split delimiter (first ++ SEPARADOR ++ second ++ SEPARADOR ++ third ++
      SEPARADOR)).1.length := by
    rw [joined]
    simp only [split_fst_append delimiter_ne_nil delimiter_unbordered, List.length_append,
      List.length_cons]
    omega
  simp only [campos_iff]
  match parts : (split delimiter (first ++ SEPARADOR ++ second ++ SEPARADOR ++ third ++
      SEPARADOR)).1, tokens with
  | fichero :: ip :: puerto :: resto, _ => exact ⟨fichero, ip, puerto, resto, rfl⟩

/-- Fields without a separator are the tokens. -/
theorem campos_of_limpios {first second third : Bytes} (firstClean : ¬ delimiter <:+: first)
    (secondClean : ¬ delimiter <:+: second) (thirdClean : ¬ delimiter <:+: third) :
    Campos (first ++ SEPARADOR ++ second ++ SEPARADOR ++ third ++ SEPARADOR)
      first second third := by
  refine ⟨⟨[], ?_⟩, firstClean, secondClean, thirdClean⟩
  simp only [SEPARADOR, delimiter, List.append_assoc, List.append_nil]

theorem Segmento.limpio (segmento : Segmento) : ¬ delimiter <:+: segmento.texto :=
  fun inside => segmento.sinBarra 47 (inside.subset (by decide)) rfl

/-- A request has three tokens, and the store either refuses the third as a port and
keeps the table, or adds one address at the end of the list of the first. -/
def RegistroSeguro (tabla : Tabla) (s : Bytes) : Prop :=
  ∃ fichero ip puerto, Campos s fichero ip puerto ∧
    (∃ resto, (split delimiter s).1 = fichero :: ip :: puerto :: resto) ∧
    ((∃ causa, stoi puerto = .error causa ∧ agregarCliente tabla s = some (false, tabla)) ∨
      ∃ direccion siguiente, agregarCliente tabla s = some (true, siguiente) ∧
        siguiente.find? fichero = some (tabla.elements fichero ++ [direccion]) ∧
        ∀ otro, otro ≠ fichero → siguiente.find? otro = tabla.find? otro)

theorem registroSeguro_of_campos {s fichero ip puerto : Bytes} (fields : Campos s fichero ip puerto)
    (tabla : Tabla) : RegistroSeguro tabla s := by
  refine ⟨fichero, ip, puerto, fields, campos_iff.mp fields, ?_⟩
  cases read : stoi puerto with
  | error causa => exact Or.inl ⟨causa, rfl, fields.agregarCliente_of_error read tabla⟩
  | ok numero =>
      right
      refine ⟨(inetAddr ip, htons (narrow16 numero)), _,
        fields.agregarCliente_of_ok read tabla, ?_, ?_⟩
      · rw [OrderedMap.find?_append, if_pos rfl]
      · intro otro different
        rw [OrderedMap.find?_append, if_neg different]

/-- Registrations over HTTP read no token out of bounds and add at most one address. -/
theorem registros_web_seguros (tabla : Tabla) :
    (∀ body, RegistroSeguro tabla (formateaSolicitud body)) ∧
      ∀ nombreFichero ip puerto, RegistroSeguro tabla (solicitudFichero nombreFichero ip puerto) := by
  constructor
  · intro body
    obtain ⟨fichero, ip, puerto, fields⟩ := campos_of_separador
      (datosFormulario body (ascii "nombre_fichero")) (datosFormulario body (ascii "ip"))
      (datosFormulario body (ascii "puerto"))
    exact registroSeguro_of_campos fields tabla
  · intro nombreFichero ip puerto
    exact registroSeguro_of_campos
      (campos_of_limpios nombreFichero.limpio ip.limpio puerto.limpio) tabla

end DescargaP2P.Servidor
