import DescargaP2P.Almacen.Persistencia
import DescargaP2P.Cliente.Core
import DescargaP2P.Servidor.Vias
import DescargaP2P.Url.Encoding

/-!
# One registration sent in three ways

The menu of the client sends the fields of a registration as they were typed.  A
browser encodes them, and the server does not decode them.  The three ways agree on
the fields that the encodings leave as they are.
-/

namespace DescargaP2P.Sistema

open DescargaP2P.Almacen
open DescargaP2P.Collections
open DescargaP2P.Cpp
open DescargaP2P.Servidor
open DescargaP2P.Text
open DescargaP2P.Url

/-! ## Encoded numbers and addresses -/

theorem dropWhile_isSpace_eq {text : Bytes} (noSpace : ∀ byte ∈ text, isSpace byte = false) :
    text.dropWhile isSpace = text := by
  cases text with
  | nil => rfl
  | cons first rest =>
      have notSpace : ¬ isSpace first = true := by
        rw [noSpace first List.mem_cons_self]
        exact Bool.false_ne_true
      exact List.dropWhile_cons_of_neg notSpace

/-- Except for `+`, a sign stays where it is. -/
theorem takeSign_encode (safe : SafeSet) {text : Bytes} (noPlus : text.head? ≠ some 43) :
    takeSign (encode safe text) = ((takeSign text).1, encode safe (takeSign text).2) := by
  cases text with
  | nil => rfl
  | cons first rest =>
      by_cases minus : first = 45
      · rw [minus, encode_cons, encodeByte_of_keeps safe.hyphen]
        rfl
      · have notPlus : first ≠ 43 := fun plus => noPlus (congrArg some plus)
        have sign : takeSign (first :: rest) = (false, first :: rest) := by
          rw [takeSign, if_neg minus, if_neg notPlus]
        rw [sign]
        cases kept : safe.keeps first with
        | true =>
            rw [encode_cons, encodeByte_of_keeps kept, List.singleton_append, takeSign,
              if_neg minus, if_neg notPlus]
        | false =>
            rw [encode_cons, encodeByte_of_not_keeps kept]
            rfl

/-- A port without `+` is read from its encoding as well. -/
theorem stoi_encode (safe : SafeSet) {text : Bytes}
    (noSpace : ∀ byte ∈ text, isSpace byte = false) (noPlus : text.head? ≠ some 43) :
    stoi (encode safe text) = stoi text := by
  have encodedSpaces : (encode safe text).dropWhile isSpace = encode safe text :=
    dropWhile_isSpace_eq fun _ member => isSpace_of_mem_encode member
  simp only [stoi, encodedSpaces, dropWhile_isSpace_eq noSpace, takeSign_encode safe noPlus,
    takeWhile_isDigit_encode]

/-- A form escapes the `+` of a port, and no number is left. -/
theorem stoi_encode_plus {safe : SafeSet} (changed : safe.keeps 43 = false) {text : Bytes}
    (plus : text.head? = some 43) : stoi (encode safe text) = .error .invalidArgument := by
  cases text with
  | nil => cases plus
  | cons first rest =>
      rw [Option.some.inj plus, encode_cons, encodeByte_of_not_keeps changed]
      rfl

/-- An encoded address is another one unless it was none. -/
theorem inetAddr_encode_iff (safe : SafeSet) (text : Bytes) :
    inetAddr (encode safe text) = inetAddr text ↔
      (∀ byte ∈ text, safe.keeps byte = true) ∨ inetAddr text = INADDR_NONE := by
  by_cases kept : ∀ byte ∈ text, safe.keeps byte = true
  · rw [encode_eq_self kept]
    exact ⟨fun _ => Or.inl kept, fun _ => rfl⟩
  · have noNul : ∀ byte ∈ encode safe text, byte ≠ 0 := by
      rintro byte member rfl
      have printable := printable_of_mem_encode member
      contradiction
    have unreadable : inetAddr (encode safe text) = INADDR_NONE :=
      inetAddr_eq_none (fun _ member => isSpace_of_mem_encode member) noNul
        (escape_mem_encode kept) rfl
    rw [unreadable]
    constructor
    · intro same
      exact Or.inr same.symm
    · rintro (all | none)
      · exact absurd all kept
      · exact none.symm

/-! ## The three requests -/

/-- A field as the user types it: a word without the separator. -/
structure Campo where
  texto : Bytes
  palabra : Palabra texto
  limpio : ¬ delimiter <:+: texto

/-- The body that a browser posts to `/guardar`. -/
def cuerpo (nombre ip puerto : Campo) : Bytes :=
  formBody [(ascii "nombre_fichero", nombre.texto), (ascii "ip", ip.texto),
    (ascii "puerto", puerto.texto)]

/-- A field as a segment of a path. -/
def segmento (safe : SafeSet) (campo : Campo) : Segmento where
  texto := encode safe campo.texto
  noVacio := encode_ne_nil campo.palabra.1
  sinBarra _ member := ne_of_mem_encode member (by decide) safe.slash

def porOpcion1 (nombre ip puerto : Campo) : Via :=
  .opcion1 (Cliente.solicitud nombre.texto ip.texto puerto.texto)

def porFormulario (nombre ip puerto : Campo) : Via := .guardar (cuerpo nombre ip puerto)

def porRuta (safe : SafeSet) (nombre ip puerto : Campo) : Via :=
  .agregarFichero (segmento safe nombre) (segmento safe ip) (segmento safe puerto)

theorem campoFormulario_append {clave : Bytes} (clean : ∀ byte ∈ clave, byte ≠ 61)
    (valor : Bytes) : campoFormulario (clave ++ ascii "=" ++ valor) = some (clave, valor) := by
  have absent : ¬ ascii "=" <:+: clave := fun inside => clean 61 (inside.subset (by decide)) rfl
  have unbordered : Unbordered (ascii "=") := by decide
  have sign : ascii "=" = [61] := rfl
  rw [campoFormulario, findSub_append unbordered absent, sign, List.append_assoc,
    List.singleton_append]
  simp

/-- An encoded field does not end its token. -/
theorem token_sin_ampersand {clave : Bytes} (clean : ∀ byte ∈ clave, byte ≠ 38)
    (valor : Bytes) : ∀ byte ∈ clave ++ ascii "=" ++ encode formSafe valor, byte ≠ 38 := by
  intro byte member
  rcases List.mem_append.mp member with front | encoded
  · rcases List.mem_append.mp front with key | sign
    · exact clean byte key
    · rw [List.mem_singleton.mp sign]
      decide
  · exact ne_of_mem_encode encoded (by decide) (by decide)

theorem formEncode_texto (campo : Campo) : formEncode campo.texto = encode formSafe campo.texto := by
  apply formEncode_eq
  rintro byte member rfl
  have notSpace := campo.palabra.2 32 member
  contradiction

/-- The tokens of a form. -/
theorem getlines_cuerpo (nombre ip puerto : Campo) :
    getlines 38 (cuerpo nombre ip puerto) =
      [ascii "nombre_fichero" ++ ascii "=" ++ encode formSafe nombre.texto,
        ascii "ip" ++ ascii "=" ++ encode formSafe ip.texto,
        ascii "puerto" ++ ascii "=" ++ encode formSafe puerto.texto] := by
  have nombreKey : formEncode (ascii "nombre_fichero") = ascii "nombre_fichero" := by
    decide
  have ipKey : formEncode (ascii "ip") = ascii "ip" := by decide
  have puertoKey : formEncode (ascii "puerto") = ascii "puerto" := by decide
  have ampersand : ascii "&" = [38] := rfl
  have body : cuerpo nombre ip puerto =
      (ascii "nombre_fichero" ++ ascii "=" ++ encode formSafe nombre.texto) ++ 38 ::
        ((ascii "ip" ++ ascii "=" ++ encode formSafe ip.texto) ++ 38 ::
          (ascii "puerto" ++ ascii "=" ++ encode formSafe puerto.texto)) := by
    simp only [cuerpo, formBody, nombreKey, ipKey, puertoKey, formEncode_texto, ampersand,
      List.append_assoc, List.singleton_append]
  rw [body, getlines_append (token_sin_ampersand (by simp [ascii]) nombre.texto),
    getlines_append (token_sin_ampersand (by simp [ascii]) ip.texto),
    getlines_of_clean _ (token_sin_ampersand (by simp [ascii]) puerto.texto)]
  exact List.append_ne_nil_of_left_ne_nil (List.append_ne_nil_of_right_ne_nil _ (by decide)) _

/-- The server reads the encoded fields of a form. -/
theorem formateaSolicitud_cuerpo (nombre ip puerto : Campo) :
    formateaSolicitud (cuerpo nombre ip puerto) =
      encode formSafe nombre.texto ++ SEPARADOR ++ encode formSafe ip.texto ++ SEPARADOR ++
        encode formSafe puerto.texto ++ SEPARADOR := by
  have clean : ∀ clave : Bytes, clave ∈ [ascii "nombre_fichero", ascii "ip", ascii "puerto"] →
      ∀ byte ∈ clave, byte ≠ 61 := by simp [ascii]
  have nombreIp : ascii "nombre_fichero" ≠ ascii "ip" := by decide
  have nombrePuerto : ascii "nombre_fichero" ≠ ascii "puerto" := by decide
  have ipPuerto : ascii "ip" ≠ ascii "puerto" := by decide
  have nombreToken := campoFormulario_append (clean (ascii "nombre_fichero") (by simp))
    (encode formSafe nombre.texto)
  have ipToken := campoFormulario_append (clean (ascii "ip") (by simp)) (encode formSafe ip.texto)
  have puertoToken := campoFormulario_append (clean (ascii "puerto") (by simp))
    (encode formSafe puerto.texto)
  simp only [formateaSolicitud, datosFormulario, getlines_cuerpo, List.foldl_cons, List.foldl_nil,
    guardaCampo, nombreToken, ipToken, puertoToken, Function.update_self,
    Function.update_of_ne nombrePuerto, Function.update_of_ne nombreIp,
    Function.update_of_ne ipPuerto]

/-! ## The stores they leave -/

/-- The store after a registration, none if the process has ended. -/
def deja (tabla : Tabla) (via : Via) : Option Tabla :=
  match via.atiende tabla with
  | some (some _, siguiente) => some siguiente
  | _ => none

theorem deja_of_ok {via : Via} {fichero ip puerto : Bytes} {numero : Int}
    (fields : Campos via.solicitud fichero ip puerto) (read : stoi puerto = .ok numero)
    (tabla : Tabla) :
    deja tabla via = some (tabla.append fichero (inetAddr ip, htons (narrow16 numero))) := by
  rw [deja, Via.atiende_eq, fields.agregarCliente_of_ok read]

theorem campos_opcion1 (nombre ip puerto : Campo) :
    Campos (porOpcion1 nombre ip puerto).solicitud nombre.texto ip.texto puerto.texto := by
  have joined : (porOpcion1 nombre ip puerto).solicitud =
      nombre.texto ++ SEPARADOR ++ ip.texto ++ SEPARADOR ++ puerto.texto ++ SEPARADOR := by
    simp only [porOpcion1, Via.solicitud, Cliente.solicitud, Cliente.separador, SEPARADOR,
      List.append_assoc]
  rw [joined]
  exact campos_of_limpios nombre.limpio ip.limpio puerto.limpio

theorem encode_formSafe_limpio (text : Bytes) : ¬ delimiter <:+: encode formSafe text :=
  not_delimiter_infix fun _ member => ne_of_mem_encode member (by decide) (by decide)

theorem campos_formulario (nombre ip puerto : Campo) :
    Campos (porFormulario nombre ip puerto).solicitud (encode formSafe nombre.texto)
      (encode formSafe ip.texto) (encode formSafe puerto.texto) := by
  rw [porFormulario, Via.solicitud, formateaSolicitud_cuerpo]
  exact campos_of_limpios (encode_formSafe_limpio _) (encode_formSafe_limpio _)
    (encode_formSafe_limpio _)

theorem campos_ruta (safe : SafeSet) (nombre ip puerto : Campo) :
    Campos (porRuta safe nombre ip puerto).solicitud (encode safe nombre.texto)
      (encode safe ip.texto) (encode safe puerto.texto) :=
  campos_of_limpios (segmento safe nombre).limpio (segmento safe ip).limpio
    (segmento safe puerto).limpio

/-- The three ways leave one store, where the file is found under its name. -/
def MismoEfecto (safe : SafeSet) (tabla : Tabla) (nombre ip puerto : Campo) : Prop :=
  ∃ siguiente, deja tabla (porOpcion1 nombre ip puerto) = some siguiente ∧
    deja tabla (porFormulario nombre ip puerto) = some siguiente ∧
    deja tabla (porRuta safe nombre ip puerto) = some siguiente ∧
    ∃ texto, obtenerCliente siguiente nombre.texto = some (true, texto)

/-- Both encodings leave every byte of a field as it is. -/
def Transparente (safe : SafeSet) (campo : Campo) : Prop :=
  ∀ byte ∈ campo.texto, formSafe.keeps byte = true ∧ safe.keeps byte = true

/-- The encoded fields make the same registration exactly when the name is left as it
is, and the address too unless it was none. -/
theorem append_encode_iff (safe : SafeSet) (tabla : Tabla) (nombre ip : Campo) (puerto : UInt16) :
    tabla.append nombre.texto (inetAddr ip.texto, puerto) =
        tabla.append (encode safe nombre.texto) (inetAddr (encode safe ip.texto), puerto) ↔
      (∀ byte ∈ nombre.texto, safe.keeps byte = true) ∧
        ((∀ byte ∈ ip.texto, safe.keeps byte = true) ∨ inetAddr ip.texto = INADDR_NONE) := by
  rw [← encode_eq_self_iff, ← inetAddr_encode_iff]
  constructor
  · intro same
    obtain ⟨name, address⟩ := OrderedMap.append_inj same
    exact ⟨name.symm, (Prod.mk.inj address).1.symm⟩
  · rintro ⟨name, address⟩
    rw [name, address]

/-- A file that has just been registered is found. -/
theorem obtenerCliente_append (tabla : Tabla) (fichero : Bytes) (direccion : ParIpPuerto) :
    ∃ texto, obtenerCliente (tabla.append fichero direccion) fichero = some (true, texto) := by
  have held : (tabla.append fichero direccion).find? fichero =
      some (tabla.elements fichero ++ [direccion]) := by
    rw [OrderedMap.find?_append, if_pos rfl]
  rw [obtenerCliente, held]
  cases tabla.elements fichero with
  | nil => exact ⟨_, rfl⟩
  | cons first rest => exact ⟨_, rfl⟩

/-- A port that cannot be read ends the process in the first way. -/
theorem deja_opcion1_of_error {nombre ip puerto : Campo} {causa : Exception}
    (refused : stoi puerto.texto = .error causa) (tabla : Tabla) :
    deja tabla (porOpcion1 nombre ip puerto) = none := by
  rw [deja, Via.atiende_eq,
    (campos_opcion1 nombre ip puerto).agregarCliente_of_error refused]
  rfl

/-- A form with a `+` before the port leaves the store as it was. -/
theorem deja_formulario_of_plus {nombre ip puerto : Campo}
    (plus : puerto.texto.head? = some 43) (tabla : Tabla) :
    deja tabla (porFormulario nombre ip puerto) = some tabla := by
  rw [deja, Via.atiende_eq, (campos_formulario nombre ip puerto).agregarCliente_of_error
    (stoi_encode_plus rfl plus)]
  rfl

/-- With a port that all three read, the stores are compared field by field. -/
theorem mismoEfecto_of_ok {safe : SafeSet} {tabla : Tabla} {nombre ip puerto : Campo}
    {numero : Int} (read : stoi puerto.texto = .ok numero)
    (noPlus : puerto.texto.head? ≠ some 43) :
    MismoEfecto safe tabla nombre ip puerto ↔
      ((∀ byte ∈ nombre.texto, formSafe.keeps byte = true) ∧
        ((∀ byte ∈ ip.texto, formSafe.keeps byte = true) ∨ inetAddr ip.texto = INADDR_NONE)) ∧
      (∀ byte ∈ nombre.texto, safe.keeps byte = true) ∧
        ((∀ byte ∈ ip.texto, safe.keeps byte = true) ∨ inetAddr ip.texto = INADDR_NONE) := by
  have readForm : stoi (encode formSafe puerto.texto) = .ok numero :=
    (stoi_encode formSafe puerto.palabra.2 noPlus).trans read
  have readRuta : stoi (encode safe puerto.texto) = .ok numero :=
    (stoi_encode safe puerto.palabra.2 noPlus).trans read
  rw [← append_encode_iff formSafe tabla nombre ip (htons (narrow16 numero)),
    ← append_encode_iff safe tabla nombre ip (htons (narrow16 numero)), MismoEfecto,
    deja_of_ok (campos_opcion1 nombre ip puerto) read,
    deja_of_ok (campos_formulario nombre ip puerto) readForm,
    deja_of_ok (campos_ruta safe nombre ip puerto) readRuta]
  constructor
  · rintro ⟨siguiente, first, second, third, _⟩
    rw [← first] at second third
    exact ⟨(Option.some.inj second).symm, (Option.some.inj third).symm⟩
  · rintro ⟨second, third⟩
    exact ⟨_, rfl, congrArg some second.symm, congrArg some third.symm,
      obtenerCliente_append tabla _ _⟩

/-- The three ways have the same effect exactly for a port that can be read and has no
`+`, a name that both encodings leave as it is, and an address that they leave as it
is or that was none. -/
theorem mismo_efecto_iff (safe : SafeSet) (tabla : Tabla) (nombre ip puerto : Campo) :
    MismoEfecto safe tabla nombre ip puerto ↔
      (∃ numero, stoi puerto.texto = .ok numero) ∧ puerto.texto.head? ≠ some 43 ∧
        Transparente safe nombre ∧
        (Transparente safe ip ∨ inetAddr ip.texto = INADDR_NONE) := by
  cases read : stoi puerto.texto with
  | error causa =>
      constructor
      · rintro ⟨siguiente, first, _⟩
        rw [deja_opcion1_of_error read] at first
        cases first
      · rintro ⟨⟨numero, accepted⟩, _⟩
        cases accepted
  | ok numero =>
      by_cases plus : puerto.texto.head? = some 43
      · constructor
        · rintro ⟨siguiente, first, second, _⟩
          rw [deja_of_ok (campos_opcion1 nombre ip puerto) read, ← second,
            deja_formulario_of_plus plus] at first
          exact absurd (Option.some.inj first) (OrderedMap.append_ne_self tabla _ _)
        · rintro ⟨_, noPlus, _⟩
          exact absurd plus noPlus
      · rw [mismoEfecto_of_ok read plus]
        constructor
        · rintro ⟨⟨formName, formIp⟩, rutaName, rutaIp⟩
          refine ⟨⟨numero, rfl⟩, plus, ?_, ?_⟩
          · exact fun byte member => ⟨formName byte member, rutaName byte member⟩
          · rcases formIp with form | none
            · rcases rutaIp with ruta | none
              · exact Or.inl fun byte member => ⟨form byte member, ruta byte member⟩
              · exact Or.inr none
            · exact Or.inr none
        · rintro ⟨_, _, name, address⟩
          refine ⟨⟨fun byte member => (name byte member).1, ?_⟩,
            fun byte member => (name byte member).2, ?_⟩
          · exact address.imp_left fun both byte member => (both byte member).1
          · exact address.imp_left fun both byte member => (both byte member).2

/-- A name with a `+`: what was registered on the web is found under another name. -/
theorem nombre_codificado_se_pierde :
    ∃ nombre ip puerto : Campo, nombre.texto = ascii "a+b" ∧
      (∃ siguiente, deja OrderedMap.empty (porFormulario nombre ip puerto) = some siguiente ∧
        obtenerCliente siguiente (ascii "a+b") = some (false, ascii "EMPTY") ∧
        siguiente.keys = [ascii "a%2Bb"]) ∧
      ¬ MismoEfecto unreserved OrderedMap.empty nombre ip puerto := by
  let nombre : Campo := ⟨ascii "a+b", by simp [Palabra, ascii, isSpace], by decide⟩
  let ip : Campo := ⟨ascii "10.0.0.1", by simp [Palabra, ascii, isSpace], by decide⟩
  let puerto : Campo := ⟨ascii "80", by simp [Palabra, ascii, isSpace], by decide⟩
  have typed : deja OrderedMap.empty (porOpcion1 nombre ip puerto) =
      some (OrderedMap.empty.append (ascii "a+b") (0x0100000a, 0x5000)) := by decide +kernel
  have posted : deja OrderedMap.empty (porFormulario nombre ip puerto) =
      some (OrderedMap.empty.append (ascii "a%2Bb") (0x0100000a, 0x5000)) := by decide +kernel
  refine ⟨nombre, ip, puerto, rfl, ⟨_, posted, by decide +kernel, by decide +kernel⟩, ?_⟩
  rintro ⟨siguiente, first, second, _⟩
  rw [typed] at first
  rw [posted, ← first] at second
  have names := (OrderedMap.append_inj (Option.some.inj second)).1
  exact absurd names (by decide)

end DescargaP2P.Sistema
