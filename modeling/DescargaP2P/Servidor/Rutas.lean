import DescargaP2P.Almacen.Pagina
import DescargaP2P.Crow.Connection
import DescargaP2P.Crow.Filenames
import DescargaP2P.Servidor.Web

/-!
# The routes of the server

`servidor_crow_handler` gives the HTTP library four rules, and the library adds one for
static files.  The rule that is run for a request, and with it what the request does to
the table, is decided by the router; the table changes only for a `POST` of a form and
for the path of a registration, which `HEAD` asks for as well as `GET`.
-/

namespace DescargaP2P.Servidor

open DescargaP2P.Almacen
open DescargaP2P.Cpp
open DescargaP2P.Crow
open DescargaP2P.Patterns
open DescargaP2P.Text

universe u

variable {δ : Type u}

/-! ## The rules -/

/-- The handlers. -/
inductive Manejador
  | inicio
  | guardar
  | perfil
  | agregarFichero
  | estatico
  deriving DecidableEq, Repr

/-- `"GET"_method`, which a rule has without `methods`, and `"POST"_method`. -/
def soloGet : BitVec 32 := 1 <<< HTTPMethod.Get.number

def soloPost : BitVec 32 := 1 <<< HTTPMethod.Post.number

def reglaInicio : Rule Manejador where
  rule := ascii "/"
  methods := soloGet
  handler := .inicio
  noNull := by decide
  compiles := by decide

def reglaGuardar : Rule Manejador where
  rule := ascii "/guardar"
  methods := soloPost
  handler := .guardar
  noNull := by decide
  compiles := by decide

def reglaPerfil : Rule Manejador where
  rule := ascii "/perfil"
  methods := soloGet
  handler := .perfil
  noNull := by decide
  compiles := by decide

def reglaAgregarFichero : Rule Manejador where
  rule := ascii "/agregar_fichero/<string>/<string>/<string>"
  methods := soloGet
  handler := .agregarFichero
  noNull := by decide
  compiles := by decide

/-- `CROW_STATIC_ENDPOINT`. -/
def reglaEstatico : Rule Manejador where
  rule := ascii "/static/<path>"
  methods := soloGet
  handler := .estatico
  noNull := by decide
  compiles := by decide

/-- The rules in the order of their registration. -/
def reglas : List (Rule Manejador) :=
  [reglaInicio, reglaGuardar, reglaPerfil, reglaAgregarFichero, reglaEstatico]

/-- What a handler does, with the rendered page of `/perfil`.  A parameter that is not
there is read out of bounds. -/
def maneja (perfil : Bytes) : Manejador → RoutingParams δ → Request → Tabla →
    Option (Reply × Tabla)
  | .inicio, _, _, tabla => some (.text (toHtml tabla), tabla)
  | .guardar, _, request, tabla =>
      (guardar tabla request.body).map fun (texto, siguiente) => (.text texto, siguiente)
  | .perfil, _, _, tabla => some (.text perfil, tabla)
  | .agregarFichero, params, _, tabla =>
      match params.stringParams with
      | nombreFichero :: ip :: puerto :: _ =>
          let solicitud :=
            nombreFichero ++ SEPARADOR ++ ip ++ SEPARADOR ++ puerto ++ SEPARADOR
          (agregarCliente tabla solicitud).map fun (_, siguiente) =>
            (.text paginaAgregado, siguiente)
      | _ => none
  | .estatico, params, _, tabla =>
      match params.stringParams with
      | filePathPartial :: _ =>
          some (.file (CROW_STATIC_DIRECTORY ++ sanitizeFilename filePathPartial), tabla)
      | _ => none

/-- `app`, with what its rules have left in the router. -/
def app (strtod : Bytes → Option (δ × Bytes)) (files : Bytes → Option Bytes) (perfil : Bytes) :
    App Manejador δ Tabla where
  strtod := strtod
  perMethods := (validate reglas).getD fun _ => {}
  files := files
  handler := maneja perfil

/-! ## What the rules match -/

/-- Three segments between slashes, none of them empty. -/
def tresSegmentos (texto : Bytes) : Option (Bytes × Bytes × Bytes) :=
  match texto.splitOn 47 with
  | [nombreFichero, ip, puerto] =>
      if nombreFichero = [] ∨ ip = [] ∨ puerto = [] then none else some (nombreFichero, ip, puerto)
  | _ => none

/-- The parameters of a path of `/agregar_fichero`. -/
def paramsRegistro (url : Bytes) : Option (Bytes × Bytes × Bytes) :=
  if ascii "/agregar_fichero/" <+: url then
    tresSegmentos (url.drop (ascii "/agregar_fichero/").length)
  else none

section Emparejamiento

variable (strtod : Bytes → Option (δ × Bytes))

/-- A text has no slash, or begins with a segment and a slash. -/
theorem corte (texto : Bytes) :
    ((47 : UInt8) ∉ texto ∧ texto.splitOn 47 = [texto]) ∨
      ∃ segmento resto, (47 : UInt8) ∉ segmento ∧ texto = segmento ++ 47 :: resto ∧
        texto.splitOn 47 = segmento :: resto.splitOn 47 := by
  by_cases inside : (47 : UInt8) ∈ texto
  · obtain ⟨segmento, resto, rfl, absent⟩ := List.eq_append_cons_of_mem inside
    exact Or.inr ⟨segmento, resto, absent, rfl,
      List.splitOn_append_cons_self_of_not_mem absent resto⟩
  · exact Or.inl ⟨inside, List.splitOn_eq_singleton inside⟩

/-- What a `GET` of a URL runs. -/
def seleccionGet (url : Bytes) : Option (Selected Manejador δ) :=
  if url = ascii "/" then some (.found reglaInicio {})
  else if url = ascii "/perfil" then some (.found reglaPerfil {})
  else
    match paramsRegistro url with
    | some (nombreFichero, ip, puerto) =>
        some (.found reglaAgregarFichero { stringParams := [nombreFichero, ip, puerto] })
    | none =>
        if ascii "/static/" <+: url ∧ url ≠ ascii "/static/" then
          some (.found reglaEstatico
            { stringParams := [url.drop (ascii "/static/").length] })
        else none

/-- A `GET` of the URL finds a rule. -/
def esDeGet (url : Bytes) : Bool :=
  url == ascii "/" || url == ascii "/perfil" || (paramsRegistro url).isSome ||
    decide (ascii "/static/" <+: url ∧ url ≠ ascii "/static/")

theorem isSome_seleccionGet (url : Bytes) : (seleccionGet (δ := δ) url).isSome = esDeGet url := by
  unfold seleccionGet esDeGet
  by_cases esInicio : url = ascii "/"
  · simp [esInicio]
  · by_cases esPerfil : url = ascii "/perfil"
    · simp only [if_neg esInicio, if_pos esPerfil, beq_iff_eq.mpr esPerfil]
      simp
    · cases paramsRegistro url with
      | some segmentos => simp [esInicio, esPerfil]
      | none =>
          by_cases esEstatico : ascii "/static/" <+: url ∧ url ≠ ascii "/static/"
          · simp [esInicio, esPerfil, esEstatico]
          · simp only [if_neg esEstatico, decide_eq_false esEstatico]
            simp [esInicio, esPerfil]

/-- The text of `Allow`. -/
def permitidos (get post : Bool) : Bytes :=
  ascii "OPTIONS, HEAD" ++ (if get then ascii ", GET" else []) ++
    if post then ascii ", POST" else []

/-- What the server does with a request: the handler, or the code. -/
def encamina (method : HTTPMethod) (url : Bytes) : Outcome Manejador δ :=
  match method with
  | .Get =>
      match seleccionGet url with
      | some found => found.outcome false
      | none => .respond (if url = ascii "/guardar" then 405 else 404) none
  | .Head =>
      match seleccionGet url with
      | some found => found.outcome true
      | none => .respond 404 none
  | .Post =>
      if url = ascii "/guardar" then .run reglaGuardar {} false
      else .respond (if esDeGet url then 405 else 404) none
  | .Options =>
      if url = ascii "/*" then .respond 204 (some (permitidos true true))
      else if esDeGet url ∨ url = ascii "/guardar" then
        .respond 204 (some (permitidos (esDeGet url) (url == ascii "/guardar")))
      else .respond 404 none
  | _ =>
      .respond (if esDeGet url ∨ url = ascii "/guardar" then 405 else 404) none

end Emparejamiento

/-! ## What a request does to the table -/

/-- A request to the store, whatever it answers. -/
def anota (tabla : Tabla) (s : Bytes) : Tabla :=
  match registro s with
  | some entrada => tabla.append entrada.1 entrada.2
  | none => tabla

/-- Three texts that were joined are a request without undefined behaviour. -/
theorem agregarCliente_unidos (tabla : Tabla) (first second third : Bytes) :
    ∃ stored, agregarCliente tabla
        (first ++ SEPARADOR ++ second ++ SEPARADOR ++ third ++ SEPARADOR) =
      some (stored,
        anota tabla (first ++ SEPARADOR ++ second ++ SEPARADOR ++ third ++ SEPARADOR)) := by
  obtain ⟨fichero, ip, puerto, fields⟩ := campos_of_separador first second third
  generalize first ++ SEPARADOR ++ second ++ SEPARADOR ++ third ++ SEPARADOR = s at fields
  unfold anota
  cases accepted : registro s with
  | some entrada => exact ⟨true, agregarCliente_of_registro tabla accepted⟩
  | none =>
      cases read : stoi puerto with
      | error causa => exact ⟨false, fields.agregarCliente_of_error read tabla⟩
      | ok numero =>
          obtain ⟨entrada, its, _⟩ := (agregarCliente_eq_true_iff tabla _ s).mp
            (fields.agregarCliente_of_ok read tabla)
          rw [its] at accepted
          cases accepted

/-- The text that reaches the store, if the request registers. -/
def solicitudDe (request : Request) : Option Bytes :=
  if invalidRequest request then none
  else
    match request.method with
    | .Post =>
        if request.url = ascii "/guardar" then some (formateaSolicitud request.body) else none
    | .Get | .Head =>
        (paramsRegistro request.url).map fun (nombreFichero, ip, puerto) =>
          nombreFichero ++ SEPARADOR ++ ip ++ SEPARADOR ++ puerto ++ SEPARADOR
    | _ => none

/-- The table after a request. -/
def tras (tabla : Tabla) (request : Request) : Tabla :=
  match solicitudDe request with
  | some s => anota tabla s
  | none => tabla

/-- A rule is found for the request. -/
def encuentra (request : Request) : Bool :=
  match request.method with
  | .Post => request.url == ascii "/guardar"
  | .Get | .Head => esDeGet request.url
  | _ => false

section Peticiones

variable (strtod : Bytes → Option (δ × Bytes)) (files : Bytes → Option Bytes) (perfil : Bytes)

/-- The code of a reply. -/
def codigoDe (reply : Reply) : Nat :=
  match reply with
  | .text _ => 200
  | .file path => if (files path).isSome then 200 else 404
  | .thrown => 500

theorem code_apply (res : Response) (reply : Reply) :
    (reply.apply files res).code = codigoDe files reply := by
  cases reply with
  | text body => simp [Reply.apply, codigoDe]
  | thrown => simp [Reply.apply, codigoDe]
  | file path =>
      rw [Reply.apply, Response.code_end, Response.setStaticFileInfoUnsafe, codigoDe]
      cases files path <;> rfl

/-- A handler that is found has a defined behaviour. -/
theorem answer_found {regla : Rule Manejador} {params : RoutingParams δ} {request : Request}
    {tabla siguiente : Tabla} {reply : Reply}
    (handled : maneja perfil regla.handler params request tabla = some (reply, siguiente))
    {code : Nat} (coded : codigoDe files reply = code) (res : Response) (skipBody : Bool) :
    ∃ shown next, answer (app strtod files perfil) request tabla res
        (Selected.outcome skipBody (.found regla params)) =
      some (shown, next, true, if invalidRequest request then tabla else siguiente) ∧
      next.code = if invalidRequest request then 400 else code := by
  dsimp only [Selected.outcome, answer]
  split
  · exact ⟨none, _, rfl, rfl⟩
  · exact ⟨some reply, _, congrArg (Option.map _) handled, (code_apply files _ reply).trans coded⟩

/-- The table after a path of a registration. -/
def trasRuta (tabla : Tabla) (url : Bytes) : Tabla :=
  match paramsRegistro url with
  | some (nombreFichero, ip, puerto) =>
      anota tabla (nombreFichero ++ SEPARADOR ++ ip ++ SEPARADOR ++ puerto ++ SEPARADOR)
  | none => tabla

/-- A form is answered, and reaches the store. -/
theorem maneja_guardar (params : RoutingParams δ) (request : Request) (tabla : Tabla) :
    ∃ texto, maneja perfil reglaGuardar.handler params request tabla =
      some (.text texto, anota tabla (formateaSolicitud request.body)) := by
  obtain ⟨stored, result⟩ := agregarCliente_unidos tabla
    (datosFormulario request.body (ascii "nombre_fichero"))
    (datosFormulario request.body (ascii "ip")) (datosFormulario request.body (ascii "puerto"))
  have stores : agregarCliente tabla (formateaSolicitud request.body) =
      some (stored, anota tabla (formateaSolicitud request.body)) := result
  cases stored <;> simp [reglaGuardar, maneja, guardar, stores]

/-- The file that is asked for. -/
def ficheroDe (url : Bytes) : Option Bytes :=
  if ascii "/static/" <+: url ∧ url ≠ ascii "/static/" then
    some (CROW_STATIC_DIRECTORY ++ sanitizeFilename (url.drop (ascii "/static/").length))
  else none

/-- The code of a `GET` for which there is a rule. -/
def codigoGet (url : Bytes) : Nat :=
  match ficheroDe url with
  | some path => if (files path).isSome then 200 else 404
  | none => 200

/-- No URL is in both directories. -/
theorem ficheroDe_of_registro {url : Bytes} {segmentos : Bytes × Bytes × Bytes}
    (registra : paramsRegistro url = some segmentos) : ficheroDe url = none := by
  unfold paramsRegistro at registra
  split at registra
  · rename_i agrega
    obtain ⟨resto, rfl⟩ := agrega
    rw [ficheroDe, if_neg]
    rintro ⟨⟨otro, same⟩, _⟩
    simp [ascii] at same
  · cases registra

theorem answer_get {request : Request} {selected : Selected Manejador δ}
    (found : seleccionGet request.url = some selected) (tabla : Tabla) (res : Response)
    (skipBody : Bool) :
    ∃ shown next, answer (app strtod files perfil) request tabla res (selected.outcome skipBody) =
      some (shown, next, true,
        if invalidRequest request then tabla else trasRuta tabla request.url) ∧
      next.code = if invalidRequest request then 400 else codigoGet files request.url := by
  have enInicio : paramsRegistro (ascii "/") = none ∧ ficheroDe (ascii "/") = none := by
    decide
  have enPerfil : paramsRegistro (ascii "/perfil") = none ∧ ficheroDe (ascii "/perfil") = none := by
    decide
  unfold seleccionGet at found
  unfold trasRuta codigoGet
  split at found
  · rename_i esInicio
    obtain rfl := Option.some.inj found
    have handled : maneja perfil reglaInicio.handler ({} : RoutingParams δ) request tabla =
        some (.text (toHtml tabla), tabla) := rfl
    rw [esInicio, enInicio.1, enInicio.2]
    exact answer_found strtod files perfil handled rfl res skipBody
  · split at found
    · rename_i esPerfil
      obtain rfl := Option.some.inj found
      have handled : maneja perfil reglaPerfil.handler ({} : RoutingParams δ) request tabla =
          some (.text perfil, tabla) := rfl
      rw [esPerfil, enPerfil.1, enPerfil.2]
      exact answer_found strtod files perfil handled rfl res skipBody
    · split at found
      · rename_i nombreFichero ip puerto segmentos
        obtain rfl := Option.some.inj found
        obtain ⟨stored, result⟩ := agregarCliente_unidos tabla nombreFichero ip puerto
        rw [ficheroDe_of_registro segmentos]
        have handled : maneja perfil reglaAgregarFichero.handler
            ({ stringParams := [nombreFichero, ip, puerto] } : RoutingParams δ) request tabla =
              some (.text paginaAgregado, anota tabla
                (nombreFichero ++ SEPARADOR ++ ip ++ SEPARADOR ++ puerto ++ SEPARADOR)) := by
          simp only [reglaAgregarFichero, maneja, result, Option.map_some]
        exact answer_found strtod files perfil handled rfl res skipBody
      · split at found
        · rename_i esEstatico
          obtain rfl := Option.some.inj found
          have handled : maneja perfil reglaEstatico.handler
              ({ stringParams := [request.url.drop (ascii "/static/").length] } : RoutingParams δ)
              request tabla =
                some (.file (CROW_STATIC_DIRECTORY ++
                  sanitizeFilename (request.url.drop (ascii "/static/").length)), tabla) := rfl
          rw [ficheroDe, if_pos esEstatico]
          exact answer_found strtod files perfil handled rfl res skipBody
        · cases found

/-- The table after a request for which a rule of `GET` is asked. -/
theorem tras_get {request : Request} (asks : request.method = .Get ∨ request.method = .Head)
    (tabla : Tabla) :
    tras tabla request =
      if invalidRequest request then tabla else trasRuta tabla request.url := by
  by_cases invalid : invalidRequest request = true
  · simp only [tras, solicitudDe, if_pos invalid]
  · simp only [tras, solicitudDe, if_neg invalid, trasRuta]
    rcases asks with method | method <;> rw [method] <;> cases paramsRegistro request.url <;> rfl

/-- The table after a form. -/
theorem tras_guardar {request : Request} (posts : request.method = .Post)
    (esGuardar : request.url = ascii "/guardar") (tabla : Tabla) :
    tras tabla request =
      if invalidRequest request then tabla
      else anota tabla (formateaSolicitud request.body) := by
  by_cases invalid : invalidRequest request = true
  · simp only [tras, solicitudDe, if_pos invalid]
  · simp only [tras, solicitudDe, if_neg invalid, posts, if_pos esGuardar]

theorem trasRuta_of_not {url : Bytes} (absent : esDeGet url = false) (tabla : Tabla) :
    trasRuta tabla url = tabla := by
  have none_ : paramsRegistro url = none := by
    simp only [esDeGet, Bool.or_eq_false_iff] at absent
    simpa using absent.1.2
  rw [trasRuta, none_]

/-- The code of the response to a request. -/
def codigo (request : Request) : Nat :=
  if encuentra request then
    if invalidRequest request then 400
    else if request.method = .Post then 200 else codigoGet files request.url
  else
    match request.method with
    | .Head => 404
    | .Options =>
        if request.url = ascii "/*" ∨ esDeGet request.url ∨ request.url = ascii "/guardar" then 204
        else 404
    | _ => if esDeGet request.url ∨ request.url = ascii "/guardar" then 405 else 404

/-- What the response is for a request. -/
def Contesta (request : Request) (tabla : Tabla) (res : Response) : Prop :=
  ∃ shown next, answer (app strtod files perfil) request tabla res
      (encamina request.method request.url) =
    some (shown, next, encuentra request, tras tabla request) ∧ next.code = codigo files request

/-- A request for a rule of `GET`. -/
theorem answer_de_get {request : Request}
    (asks : request.method = .Get ∨ request.method = .Head) (code : Nat) (skipBody : Bool)
    (tabla : Tabla) (res : Response) :
    ∃ shown next, answer (app strtod files perfil) request tabla res
        (match seleccionGet request.url with
          | some found => found.outcome skipBody
          | none => .respond code none) =
      some (shown, next, esDeGet request.url, tras tabla request) ∧
      next.code = if esDeGet request.url then
        if invalidRequest request then 400 else codigoGet files request.url else code := by
  have get := isSome_seleccionGet (δ := δ) request.url
  rw [tras_get asks]
  cases found : seleccionGet (δ := δ) request.url with
  | some selected =>
      rw [found] at get
      rw [← get]
      exact answer_get strtod files perfil found tabla res skipBody
  | none =>
      rw [found] at get
      rw [trasRuta_of_not get.symm, ← get, ite_self]
      refine ⟨_, _, rfl, ?_⟩
      rw [Response.code_end]
      split <;> rfl

/-- Requests with a method that no rule has. -/
theorem contesta_otro {request : Request} (noGet : request.method ≠ .Get)
    (noHead : request.method ≠ .Head) (noPost : request.method ≠ .Post)
    (noOptions : request.method ≠ .Options) (tabla : Tabla) (res : Response) :
    Contesta strtod files perfil request tabla res := by
  have outcome : encamina (δ := δ) request.method request.url =
      .respond (if esDeGet request.url ∨ request.url = ascii "/guardar" then 405 else 404)
        none := by
    simp [encamina]
  have encontrada : encuentra request = false := by simp [encuentra]
  have registra : solicitudDe request = none := by simp [solicitudDe]
  unfold Contesta
  rw [outcome, encontrada, tras, registra]
  exact ⟨_, _, rfl, by simp [codigo, encontrada, noHead, noOptions]⟩

/-- Every request is answered, whatever the object holds. -/
theorem contesta (request : Request) (tabla : Tabla) (res : Response) :
    Contesta strtod files perfil request tabla res := by
  have otro : solicitudDe request = none → tras tabla request = tabla := by
    intro none_
    rw [tras, none_]
  cases method : request.method with
  | Get =>
      rw [Contesta, method]
      obtain ⟨shown, next, answered, code⟩ := answer_de_get strtod files perfil (Or.inl method)
        (if request.url = ascii "/guardar" then 405 else 404) false tabla res
      have encontrada : encuentra request = esDeGet request.url := by rw [encuentra, method]
      rw [encontrada]
      refine ⟨shown, next, answered, code.trans ?_⟩
      rw [codigo, encontrada, method]
      by_cases hay : esDeGet request.url = true <;> simp [hay]
  | Head =>
      rw [Contesta, method]
      obtain ⟨shown, next, answered, code⟩ :=
        answer_de_get strtod files perfil (Or.inr method) 404 true tabla res
      have encontrada : encuentra request = esDeGet request.url := by rw [encuentra, method]
      rw [encontrada]
      refine ⟨shown, next, answered, code.trans ?_⟩
      rw [codigo, encontrada, method]
      by_cases hay : esDeGet request.url = true <;> simp [hay]
  | Post =>
      rw [Contesta, method]
      by_cases esGuardar : request.url = ascii "/guardar"
      · obtain ⟨texto, handled⟩ := maneja_guardar perfil ({} : RoutingParams δ) request tabla
        have found := answer_found strtod files perfil handled rfl res false
        rw [← tras_guardar method esGuardar] at found
        have encontrada : encuentra request = true := by simp [encuentra, method, esGuardar]
        rw [codigo, encontrada, encamina, if_pos esGuardar, method]
        exact found
      · have encontrada : encuentra request = false := by simp [encuentra, method, esGuardar]
        rw [otro (by simp [solicitudDe, method, esGuardar]), encontrada, encamina, if_neg esGuardar]
        exact ⟨_, _, rfl, by simp [codigo, encontrada, method, esGuardar]⟩
  | Options =>
      rw [Contesta, method]
      have encontrada : encuentra request = false := by simp [encuentra, method]
      rw [otro (by simp [solicitudDe, method]), encontrada]
      simp only [encamina]
      by_cases todo : request.url = ascii "/*"
      · rw [if_pos todo]
        exact ⟨_, _, rfl, by simp [codigo, encontrada, method, todo]⟩
      · rw [if_neg todo]
        by_cases hay : esDeGet request.url = true ∨ request.url = ascii "/guardar"
        · rw [if_pos hay]
          exact ⟨_, _, rfl, by simp [codigo, encontrada, method, todo, hay]⟩
        · rw [if_neg hay]
          exact ⟨_, _, rfl, by simp [codigo, encontrada, method, todo, hay]⟩
  | _ =>
      exact contesta_otro strtod files perfil (by simp [method]) (by simp [method])
        (by simp [method]) (by simp [method]) tabla res

end Peticiones

end DescargaP2P.Servidor
