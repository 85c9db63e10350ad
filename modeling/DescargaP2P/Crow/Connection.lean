import DescargaP2P.Crow.Dispatch
import DescargaP2P.Text.Search

/-!
# Requests over one connection

A connection has one response object for all its requests.  `clear` prepares it for the
next request, but leaves `skip_body` and `manual_length_header` as they are, and a response
that was written at once gets a header after it.  A request arrives here as a whole and
after the response to the one before has been written.  Timers, middleware, `Expect`,
upgrades and `Content-Type` are left out.
-/

namespace DescargaP2P.Crow

open DescargaP2P.Cpp
open DescargaP2P.Text

universe u v w

/-! ## Headers -/

/-- A header field.  `ci_map` compares names without regard to case. -/
abbrev Header := Bytes × Bytes

def lower (c : UInt8) : UInt8 := if 65 ≤ c ∧ c ≤ 90 then c + 32 else c

def sameKey (first second : Bytes) : Bool := first.map lower == second.map lower

/-- `set_header`. -/
def setHeader (key value : Bytes) (headers : List Header) : List Header :=
  headers.filter (fun header => !sameKey header.1 key) ++ [(key, value)]

/-- `get_header_value`. -/
def headerValue (key : Bytes) (headers : List Header) : Bytes :=
  match headers.find? fun header => sameKey header.1 key with
  | none => []
  | some header => header.2

def CONTENT_LENGTH : Bytes := ascii "Content-Length"

/-- What `handle` sets on the response after it. -/
def KEEP_ALIVE : Header := (ascii "connection", ascii "Keep-Alive")

/-! ## The response object -/

/-- `response`. -/
structure Response where
  code : Nat := 200
  body : Bytes := []
  headers : List Header := []
  skipBody : Bool := false
  manualLengthHeader : Bool := false
  completed : Bool := false
  /-- `file_info.path`. -/
  path : Bytes := []
  deriving DecidableEq, Repr

namespace Response

/-- `operator=`. -/
def assign (res value : Response) : Response :=
  { value with skipBody := res.skipBody, manualLengthHeader := res.manualLengthHeader }

/-- `clear`. -/
def clear (res : Response) : Response :=
  { skipBody := res.skipBody, manualLengthHeader := res.manualLengthHeader }

/-- `end`. -/
def end_ (res : Response) : Response :=
  if res.completed then res
  else if res.skipBody then
    { res with
      completed := true
      headers := setHeader CONTENT_LENGTH (decimal res.body.length) res.headers
      body := []
      manualLengthHeader := true }
  else { res with completed := true }

/-- `set_static_file_info_unsafe`, with the regular files of the system. -/
def setStaticFileInfoUnsafe (files : Bytes → Option Bytes) (path : Bytes) (res : Response) :
    Response :=
  match files path with
  | some content =>
      { res with
        code := 200
        path := path
        headers := res.headers ++ [(CONTENT_LENGTH, decimal content.length)] }
  | none => { res with code := 404, path := [] }

@[simp]
theorem code_assign (res value : Response) : (res.assign value).code = value.code := rfl

@[simp]
theorem code_end (res : Response) : res.end_.code = res.code := by
  unfold end_
  split
  · rfl
  · split <;> rfl

end Response

/-- `statusCodes`, without `HTTP/1.1 ` and the line end. -/
def statusCodes : List (Nat × Bytes) :=
  [(100, ascii "100 Continue"), (101, ascii "101 Switching Protocols"), (200, ascii "200 OK"),
    (201, ascii "201 Created"), (202, ascii "202 Accepted"),
    (203, ascii "203 Non-Authoritative Information"), (204, ascii "204 No Content"),
    (205, ascii "205 Reset Content"), (206, ascii "206 Partial Content"),
    (300, ascii "300 Multiple Choices"), (301, ascii "301 Moved Permanently"),
    (302, ascii "302 Found"), (303, ascii "303 See Other"), (304, ascii "304 Not Modified"),
    (307, ascii "307 Temporary Redirect"), (308, ascii "308 Permanent Redirect"),
    (400, ascii "400 Bad Request"), (401, ascii "401 Unauthorized"), (403, ascii "403 Forbidden"),
    (404, ascii "404 Not Found"), (405, ascii "405 Method Not Allowed"),
    (407, ascii "407 Proxy Authentication Required"), (409, ascii "409 Conflict"),
    (410, ascii "410 Gone"), (413, ascii "413 Payload Too Large"),
    (415, ascii "415 Unsupported Media Type"), (416, ascii "416 Range Not Satisfiable"),
    (417, ascii "417 Expectation Failed"), (428, ascii "428 Precondition Required"),
    (429, ascii "429 Too Many Requests"), (451, ascii "451 Unavailable For Legal Reasons"),
    (500, ascii "500 Internal Server Error"), (501, ascii "501 Not Implemented"),
    (502, ascii "502 Bad Gateway"), (503, ascii "503 Service Unavailable"),
    (504, ascii "504 Gateway Timeout"), (506, ascii "506 Variant Also Negotiates")]

/-- The text of a code. -/
def statusText (code : Nat) : Option Bytes :=
  (statusCodes.find? fun status => status.1 == code).map Prod.snd

/-! ## Requests and replies -/

/-- `request`, after parsing. -/
structure Request where
  method : HTTPMethod
  url : Bytes
  body : Bytes := []
  /-- The header `Host`. -/
  host : Option Bytes := none
  /-- `check_version(1, 1)`. -/
  version11 : Bool := true
  /-- `keep_alive`. -/
  keepAlive : Bool := true
  /-- `close_connection`. -/
  closeConnection : Bool := false
  deriving DecidableEq, Repr

/-- What a handler does with the response. -/
inductive Reply
  /-- It returns a text. -/
  | text (body : Bytes)
  /-- It names a static file. -/
  | file (path : Bytes)
  /-- It throws. -/
  | thrown
  deriving DecidableEq, Repr

/-- A response as it is given to the socket. -/
structure Sent where
  status : Bytes
  headers : List Header
  body : Bytes
  deriving DecidableEq, Repr

/-- What a server is made of. -/
structure App (η : Type u) (δ : Type v) (σ : Type w) where
  strtod : Bytes → Option (δ × Bytes)
  perMethods : PerMethods η
  files : Bytes → Option Bytes
  /-- A handler without a defined behaviour has no result. -/
  handler : η → RoutingParams δ → Request → σ → Option (Reply × σ)

/-- `complete_request` makes a partial location whole. -/
def absoluteLocation (request : Request) (res : Response) : Response :=
  let location := headerValue (ascii "Location") res.headers
  if location ≠ [] ∧ findSub (ascii "://") location = none then
    { res with
      headers := setHeader (ascii "location")
        (ascii "http://" ++ request.host.getD [] ++ location) res.headers }
  else res

/-- `prepare_buffers`: an unknown code is replaced, and an error has a body. -/
def prepareCode (res : Response) : Response :=
  if (statusText res.code).isSome then res else { res with code := 500 }

def prepareBody (res : Response) : Response :=
  if 400 ≤ res.code ∧ res.body = [] then
    { res with body := (statusText res.code).getD [] ++ ascii "\r\n" }
  else res

/-- What `complete_request` and `prepare_buffers` do to the object. -/
def prepare (request : Request) (res : Response) : Response :=
  prepareBody (prepareCode (absoluteLocation request res))

/-- The length is added to the headers of the object. -/
def addsLength (res : Response) : Bool :=
  !res.manualLengthHeader && !res.headers.any fun header => sameKey header.1 CONTENT_LENGTH

/-- The headers of the object, and the length if it has not been set. -/
def prepareHeaders (res : Response) : List Header :=
  if addsLength res then res.headers ++ [(CONTENT_LENGTH, decimal res.body.length)]
  else res.headers

/-- A static file is sent in the place of the body. -/
def sentBody (files : Bytes → Option Bytes) (res : Response) : Bytes :=
  if res.path = [] then res.body else (files res.path).getD []

/-- `complete_request`. -/
def completeRequest (files : Bytes → Option Bytes) (request : Request) (res : Response) : Sent :=
  let res := prepare request res
  { status := ascii "HTTP/1.1 " ++ (statusText res.code).getD []
    headers := prepareHeaders res
    body := sentBody files res }

/-! ## Buffers -/

/-- A buffer for the socket.  The name of the server and the date are not modelled. -/
inductive Buffer
  | text (text : Bytes)
  | serverName
  | dateStr
  deriving DecidableEq, Repr

def crlf : Bytes := ascii "\r\n"

def headerBuffers (header : Header) : List Buffer :=
  [.text header.1, .text (ascii ": "), .text header.2, .text crlf]

/-- `prepare_buffers`, for a response that is prepared, without the line that ends the
head. -/
def headBuffers (addKeepAlive : Bool) (res : Response) : List Buffer :=
  let missing (key : Bytes) : Bool := !res.headers.any fun header => sameKey header.1 key
  [.text (ascii "HTTP/1.1 " ++ (statusText res.code).getD [] ++ crlf)] ++
    res.headers.flatMap headerBuffers ++
    (if addsLength res then
      [.text (ascii "Content-Length: "), .text (decimal res.body.length), .text crlf] else []) ++
    (if missing (ascii "server") then [.text (ascii "Server: "), .serverName, .text crlf]
      else []) ++
    (if missing (ascii "date") then [.text (ascii "Date: "), .dateStr, .text crlf] else []) ++
    if addKeepAlive then [.text (ascii "Connection: Keep-Alive"), .text crlf] else []

/-- asio passes over empty buffers. -/
def nonempty (buffers : List Buffer) : List Buffer :=
  buffers.filter fun buffer => buffer != .text []

/-- All that is given to the socket, the body behind the head. -/
def allBuffers (files : Bytes → Option Bytes) (addKeepAlive : Bool) (res : Response) :
    List Buffer :=
  nonempty (headBuffers addKeepAlive res ++ [.text crlf, .text (sentBody files res)])

/-- `stream_threshold()`. -/
def STREAM_THRESHOLD : Nat := 1048576

/-- `do_write_static`, and `do_write_general` with a long body, return after the whole
response has been written. -/
def writesAtOnce (res : Response) : Bool := res.path != [] || STREAM_THRESHOLD ≤ res.body.length

/-- `max_buffers` of one `async_write_some`. -/
def MAX_BUFFERS : Nat := 16

/-- What is written.  `async_write` begins with the first buffers.  Without a rule the
connection is closed before it can go on. -/
def writtenBuffers (found : Bool) (res : Response) (buffers : List Buffer) : List Buffer :=
  if found || writesAtOnce res then buffers else buffers.take MAX_BUFFERS

/-- A reply, from the handler to the end of the response. -/
def Reply.apply (files : Bytes → Option Bytes) (res : Response) : Reply → Response
  | .text body => (res.assign { body := body }).end_
  | .file path => (res.setStaticFileInfoUnsafe files path).end_
  | .thrown => (res.assign { code := 500 }).end_

/-- The response to a URL without its slash. -/
def redirectResponse (request : Request) : Response :=
  let host := request.host.getD []
  let location :=
    if host = [] then request.url ++ ascii "/"
    else ascii "http://" ++ host ++ request.url ++ ascii "/"
  { code := 301, headers := [(ascii "Location", location)] }

/-- `is_invalid_request`. -/
def invalidRequest (request : Request) : Bool := request.version11 && request.host.isNone

/-- One request and what has become of it. -/
structure Exchange where
  request : Request
  /-- What the handler has done, if one has run. -/
  reply : Option Reply
  sent : Sent
  /-- The buffers of the response. -/
  buffers : List Buffer
  /-- Those that are written. -/
  written : List Buffer
  /-- A rule has been found. -/
  found : Bool
  /-- The connection waits for another request. -/
  stays : Bool
  deriving DecidableEq, Repr

/-- The body that arrives, if all of the response is written. -/
def Exchange.received (exchange : Exchange) : Option Bytes :=
  if exchange.written = exchange.buffers then some exchange.sent.body else none

/-- What a connection keeps from one request to the next. -/
structure Connection where
  res : Response := {}
  addKeepAlive : Bool := false
  deriving DecidableEq, Repr

section Serving

variable {η : Type u} {δ : Type v} {σ : Type w} (app : App η δ σ)

/-- What the response becomes for an outcome, whether a rule has been found, and the
state of the application. -/
def answer (request : Request) (state : σ) (res : Response) :
    Outcome η δ → Option (Option Reply × Response × Bool × σ)
  | .respond code allow =>
      let headers := (allow.map fun listed => (ascii "Allow", listed)).toList
      -- `get_error` only sets the code.
      let res :=
        if request.method = .Head ∨ request.method = .Options then
          res.assign { code := code, headers := headers }
        else { res with code := code }
      some (none, res.end_, false, state)
  | .redirect skipBody =>
      let res := { res with skipBody := res.skipBody || skipBody }
      if invalidRequest request then some (none, res.assign { code := 400 }, true, state)
      else some (none, (res.assign (redirectResponse request)).end_, true, state)
  | .run rule params skipBody =>
      let res := { res with skipBody := res.skipBody || skipBody }
      if invalidRequest request then some (none, res.assign { code := 400 }, true, state)
      else
        (app.handler rule.handler params request state).map fun (reply, next) =>
          (some reply, reply.apply app.files res, true, next)
  | .corrupted => none

/-- The response object after a request: `handle` sets a header on it, and if the
response was not written at once, it is cleared after that. -/
def Response.after (res : Response) (keepsHeader : Bool) : Response :=
  if keepsHeader then { res.clear with headers := setHeader KEEP_ALIVE.1 KEEP_ALIVE.2 [] }
  else res.clear

/-- One request.  A request without a rule closes the connection. -/
def serve (state : σ) (connection : Connection) (request : Request) :
    Option (Exchange × σ × Connection) :=
  (answer app request state connection.res
      (route app.strtod app.perMethods request.method request.url)).map
    fun (reply, res, found, next) =>
      let ready := prepare request res
      let addKeepAlive := if found then request.keepAlive else connection.addKeepAlive
      let buffers := allBuffers app.files addKeepAlive ready
      ({ request := request
         reply := reply
         sent := completeRequest app.files request res
         buffers := buffers
         written := writtenBuffers found ready buffers
         found := found
         stays := found && !request.closeConnection }, next,
        { res := res.after
            (found && !invalidRequest request && addKeepAlive && writesAtOnce ready)
          addKeepAlive := addKeepAlive })

/-- The requests of a connection, as long as it stays. -/
def serveAll (state : σ) (connection : Connection) :
    List Request → Option (List Exchange × σ)
  | [] => some ([], state)
  | request :: requests =>
      (serve app state connection request).bind fun (exchange, next, connection) =>
        if exchange.stays then
          (serveAll next connection requests).map fun (exchanges, last) =>
            (exchange :: exchanges, last)
        else some ([exchange], next)

/-- The connection behind some requests, if it is still open.  Each of them comes with the
state that it finds, since others work on the state as well. -/
def opened (connection : Connection) : List (σ × Request) → Option Connection
  | [] => some connection
  | (state, request) :: requests =>
      (serve app state connection request).bind fun (exchange, _, next) =>
        if exchange.stays then opened next requests else none

/-! ## What is kept from one request to the next -/

/-- The response object between two requests. -/
def resting (silent manual kept : Bool) : Response :=
  { skipBody := silent
    manualLengthHeader := manual
    headers := if kept then [KEEP_ALIVE] else [] }

theorem Response.after_eq (res : Response) (kept : Bool) :
    res.after kept = resting res.skipBody res.manualLengthHeader kept := by
  cases kept with
  | false => rfl
  | true => rfl

/-- `skip_body` of an outcome, none if no rule has been found. -/
def Outcome.skips : Outcome η δ → Option Bool
  | .redirect skipBody | .run _ _ skipBody => some skipBody
  | .respond .. | .corrupted => none

theorem skipBody_of_handleInitial (strtod : Bytes → Option (δ × Bytes))
    (perMethods : PerMethods η) {method own : HTTPMethod} {url : Bytes} {index : Nat}
    {params : RoutingParams δ} {skipBody : Bool}
    (found : handleInitial strtod perMethods method url = .found own index params skipBody) :
    skipBody = (method == .Head) := by
  unfold handleInitial at found
  split at found
  · dsimp only at found
    split at found
    · cases found
      rfl
    · split at found <;> cases found
      rfl
  · split at found
    · cases found
    · split at found <;> cases found
  · rename_i notHead _
    dsimp only at found
    split at found
    · cases found
      exact (beq_eq_false_iff_ne.mpr notHead).symm
    · split at found <;> cases found

/-- Only a request for `HEAD` sets `skip_body`. -/
theorem skips_route (strtod : Bytes → Option (δ × Bytes)) (perMethods : PerMethods η)
    (method : HTTPMethod) (url : Bytes) {skipBody : Bool}
    (skips : (route strtod perMethods method url).skips = some skipBody) :
    skipBody = (method == .Head) := by
  unfold route at skips
  cases initial : handleInitial strtod perMethods method url with
  | respond code allow =>
      rw [initial] at skips
      cases skips
  | found own index params skip =>
      rw [initial, handle] at skips
      have same : skip = skipBody := by
        split at skips
        · cases skips
        · split at skips
          · exact Option.some.inj skips
          · split at skips
            · exact Option.some.inj skips
            · cases skips
      rw [← same]
      exact skipBody_of_handleInitial strtod perMethods initial

/-- The response object that a request for which a rule has been found leaves. -/
theorem Response.skipBody_end (res : Response) : res.end_.skipBody = res.skipBody := by
  unfold Response.end_
  split
  · rfl
  · split <;> rfl

/-- The length is set by hand only where the body is dropped. -/
def Response.Sound (res : Response) : Prop := res.manualLengthHeader = true → res.skipBody = true

theorem Response.Sound.end {res : Response} (sound : res.Sound) : res.end_.Sound := by
  unfold Response.Sound Response.end_
  split
  · exact sound
  · split
    · rename_i silent
      exact fun _ => silent
    · exact sound

theorem Reply.skipBody_apply (files : Bytes → Option Bytes) (res : Response) (reply : Reply) :
    (reply.apply files res).skipBody = res.skipBody := by
  cases reply with
  | text body => exact Response.skipBody_end _
  | thrown => exact Response.skipBody_end _
  | file path =>
      rw [Reply.apply, Response.skipBody_end, Response.setStaticFileInfoUnsafe]
      split <;> rfl

theorem Reply.sound_apply (files : Bytes → Option Bytes) {res : Response} (sound : res.Sound)
    (reply : Reply) : (reply.apply files res).Sound := by
  cases reply with
  | text body => exact Response.Sound.end sound
  | thrown => exact Response.Sound.end sound
  | file path =>
      apply Response.Sound.end
      unfold Response.setStaticFileInfoUnsafe
      split <;> exact sound

variable {app}

/-- The response object after a request, from the one before it. -/
structure Answered (app : App η δ σ) (silent manual kept : Bool) (request : Request)
    (reply : Option Reply) (res : Response) (found : Bool) : Prop where
  sound : res.Sound
  silent_of_found : found = true → res.skipBody = (silent || request.method == .Head)
  reply_cases : reply = none ∨ ∃ own, reply = some own ∧ found = true ∧
    res = own.apply app.files (resting (silent || request.method == .Head) manual kept)

theorem answered_of_answer {state next : σ} {silent manual kept : Bool}
    (sound : manual = true → silent = true) {request : Request} {outcome : Outcome η δ}
    (skips : ∀ skipBody, outcome.skips = some skipBody → skipBody = (request.method == .Head))
    {reply : Option Reply} {res : Response} {found : Bool}
    (answered : answer app request state (resting silent manual kept) outcome =
      some (reply, res, found, next)) :
    Answered app silent manual kept request reply res found := by
  have soundNow : ∀ skip, (resting (silent || skip) manual kept).Sound :=
    fun skip manual => by simp [resting, sound manual]
  cases outcome with
  | corrupted => cases answered
  | respond code allow =>
      cases answered
      refine ⟨Response.Sound.end ?_, nofun, Or.inl rfl⟩
      split
      · exact sound
      · exact sound
  | redirect skipBody =>
      obtain rfl := skips skipBody rfl
      dsimp only [answer] at answered
      split at answered
      · cases answered
        exact ⟨soundNow _, fun _ => rfl, Or.inl rfl⟩
      · cases answered
        exact ⟨Response.Sound.end (soundNow _), fun _ => Response.skipBody_end _, Or.inl rfl⟩
  | run rule params skipBody =>
      obtain rfl := skips skipBody rfl
      dsimp only [answer] at answered
      split at answered
      · cases answered
        exact ⟨soundNow _, fun _ => rfl, Or.inl rfl⟩
      · obtain ⟨⟨own, last⟩, _, same⟩ := Option.map_eq_some_iff.mp answered
        cases same
        exact ⟨Reply.sound_apply _ (soundNow _) own, fun _ => Reply.skipBody_apply _ _ own,
          Or.inr ⟨own, rfl, rfl, rfl⟩⟩

/-- What one request does to the connection. -/
theorem answered_of_serve {state next : σ} {silent manual kept addKeepAlive : Bool}
    (sound : manual = true → silent = true) {request : Request} {exchange : Exchange}
    {rest : Connection}
    (served : serve app state ⟨resting silent manual kept, addKeepAlive⟩ request =
      some (exchange, next, rest)) :
    ∃ res keeps, rest.res = resting res.skipBody res.manualLengthHeader keeps ∧
      exchange.request = request ∧ exchange.sent = completeRequest app.files request res ∧
      (exchange.stays = true → exchange.found = true) ∧
      Answered app silent manual kept request exchange.reply res exchange.found := by
  obtain ⟨⟨reply, res, found, last⟩, answered, same⟩ := Option.map_eq_some_iff.mp served
  cases same
  refine ⟨res, _, Response.after_eq res _, rfl, rfl, ?_, answered_of_answer sound
    (fun skipBody => skips_route app.strtod app.perMethods request.method request.url) answered⟩
  exact fun stays => (Bool.and_eq_true_iff.mp stays).1

theorem statusText_ok : statusText 200 = some (ascii "200 OK") := by decide

theorem not_sameKey_location : sameKey CONTENT_LENGTH (ascii "Location") = false := by
  decide

/-- Without a location and with a known code below 400 the object is sent as it is. -/
theorem prepare_eq_self (request : Request) {res : Response}
    (noLocation : headerValue (ascii "Location") res.headers = [])
    (known : (statusText res.code).isSome = true) (fine : res.code < 400) :
    prepare request res = res := by
  have located : absoluteLocation request res = res := by simp [absoluteLocation, noLocation]
  rw [prepare, located, prepareCode, if_pos known, prepareBody, if_neg]
  exact fun error => absurd error.1 (Nat.not_le.mpr fine)

/-- The response to a text. -/
theorem completeRequest_text (files : Bytes → Option Bytes) (request : Request)
    {silent manual : Bool} (sound : manual = true → silent = true) (kept : Bool)
    (body : Bytes) :
    completeRequest files request
        ((Reply.text body).apply files (resting silent manual kept)) =
      { status := ascii "HTTP/1.1 " ++ ascii "200 OK"
        headers := [(CONTENT_LENGTH, decimal body.length)]
        body := if silent then [] else body } := by
  cases silent with
  | true =>
      rw [completeRequest, prepare_eq_self]
      · simp [Reply.apply, Response.assign, Response.end_, resting, setHeader, statusText_ok,
          prepareHeaders, addsLength, sentBody]
      · simp [Reply.apply, Response.assign, Response.end_, resting, setHeader, headerValue,
          not_sameKey_location]
      · rfl
      · simp [Reply.apply]
  | false =>
      have unset : manual = false := by
        rw [← Bool.not_eq_true]
        exact fun set => Bool.false_ne_true (sound set)
      rw [completeRequest, prepare_eq_self]
      · simp [Reply.apply, Response.assign, Response.end_, resting, unset, statusText_ok,
          prepareHeaders, addsLength, sentBody]
      · rfl
      · rfl
      · simp [Reply.apply]

/-- A `HEAD` among the first requests. -/
def headSeen (exchanges : List Exchange) : Bool :=
  exchanges.any fun exchange => exchange.request.method == .Head

/-- What is sent for a text. -/
theorem text_of_serve {state next : σ} {silent manual kept addKeepAlive : Bool}
    (sound : manual = true → silent = true) {request : Request} {exchange : Exchange}
    {rest : Connection}
    (served : serve app state ⟨resting silent manual kept, addKeepAlive⟩ request =
      some (exchange, next, rest))
    {body : Bytes} (text : exchange.reply = some (.text body)) :
    exchange.sent =
      { status := ascii "HTTP/1.1 " ++ ascii "200 OK"
        headers := [(CONTENT_LENGTH, decimal body.length)]
        body := if silent || request.method == .Head then [] else body } := by
  obtain ⟨res, _, _, _, sent, _, answered⟩ := answered_of_serve sound served
  rcases answered.reply_cases with none_ | ⟨own, its, _, applied⟩
  · rw [none_] at text
    cases text
  · obtain rfl := Option.some.inj (its.symm.trans text)
    rw [sent, applied, completeRequest_text]
    intro set
    rw [sound set, Bool.true_or]

theorem texts_of_serveAll {requests : List Request} {state last : σ}
    {silent manual kept addKeepAlive : Bool} (sound : manual = true → silent = true)
    {exchanges : List Exchange}
    (served : serveAll app state ⟨resting silent manual kept, addKeepAlive⟩ requests =
      some (exchanges, last))
    {position : Nat} {exchange : Exchange} (here : exchanges[position]? = some exchange)
    {body : Bytes} (text : exchange.reply = some (.text body)) :
    exchange.sent =
      { status := ascii "HTTP/1.1 " ++ ascii "200 OK"
        headers := [(CONTENT_LENGTH, decimal body.length)]
        body := if silent || headSeen (exchanges.take (position + 1)) then [] else body } := by
  induction requests generalizing state silent manual kept addKeepAlive exchanges position with
  | nil =>
      cases served
      cases here
  | cons request requests ih =>
      obtain ⟨⟨first, next, rest⟩, one, others⟩ := Option.bind_eq_some_iff.mp served
      obtain ⟨_, _, left, same, _, found_of_stays, answered⟩ := answered_of_serve sound one
      obtain ⟨_, keepsAlive⟩ := rest
      obtain rfl := left
      dsimp only at others
      split at others
      · rename_i stays
        have silentNow := answered.silent_of_found (found_of_stays stays)
        obtain ⟨⟨later, final⟩, run, whole⟩ := Option.map_eq_some_iff.mp others
        cases whole
        cases position with
        | zero =>
            obtain rfl := Option.some.inj here
            rw [text_of_serve sound one text]
            simp [headSeen, same]
        | succ position =>
            have after := ih answered.sound run here
            rw [after, silentNow]
            simp [headSeen, same, Bool.or_assoc]
      · cases others
        cases position with
        | zero =>
            obtain rfl := Option.some.inj here
            rw [text_of_serve sound one text]
            simp [headSeen, same]
        | succ position => cases here

/-- On one connection a text is answered with its length, but it is sent only as long as
no request has been a `HEAD`: after the first one no text is sent any more. -/
theorem texts_stop_after_head {requests : List Request} {state last : σ}
    {exchanges : List Exchange}
    (served : serveAll app state {} requests = some (exchanges, last)) :
    ∀ (position : Nat) (exchange : Exchange) (body : Bytes),
      exchanges[position]? = some exchange → exchange.reply = some (.text body) →
      exchange.sent =
        { status := ascii "HTTP/1.1 " ++ ascii "200 OK"
          headers := [(CONTENT_LENGTH, decimal body.length)]
          body := if headSeen (exchanges.take (position + 1)) then [] else body } :=
  fun _ _ _ here text =>
    texts_of_serveAll (show false = true → false = true from nofun)
      (show serveAll app state ⟨resting false false false, false⟩ requests = _ from served)
      here text

/-- A server that says hello, or sends the file that the body of a request names. -/
def greeter : App Unit Unit Unit where
  strtod _ := none
  perMethods := (validate twoRules).getD fun _ => {}
  files path := if path = ascii "f" then some (ascii "AB") else none
  handler _ _ request state :=
    some (if request.body = [] then .text (ascii "hello") else .file request.body, state)

def headThenGet : List Request :=
  [{ method := .Head, url := ascii "/a/", host := some [] },
    { method := .Get, url := ascii "/a/", host := some [] }]

/-- The `GET` behind a `HEAD` is told that five bytes follow, and gets none. -/
theorem texts_stop_after_head_greeter : ∃ exchanges exchange,
    serveAll greeter () {} headThenGet = some (exchanges, ()) ∧
    exchanges[1]? = some exchange ∧ exchange.reply = some (.text (ascii "hello")) ∧
    exchange.sent = ⟨ascii "HTTP/1.1 200 OK", [(CONTENT_LENGTH, decimal 5)], []⟩ := by
  have observed : (serveAll greeter () {} headThenGet).bind (fun run =>
      run.1[1]?.map fun exchange => (exchange.reply, headSeen (run.1.take 2))) =
        some (some (.text (ascii "hello")), true) := by decide
  obtain ⟨⟨exchanges, last⟩, served, seen⟩ := Option.bind_eq_some_iff.mp observed
  obtain ⟨exchange, here, same⟩ := Option.map_eq_some_iff.mp seen
  obtain ⟨text, silent⟩ := Prod.mk.inj same
  refine ⟨exchanges, exchange, served, here, text, ?_⟩
  rw [texts_stop_after_head served 1 exchange _ here text, if_pos (show _ = true from silent)]
  decide

end Serving

end DescargaP2P.Crow
