/-
The MCP server over HTTP.  A request passes the host and origin check, the
router's authorization and the handler's own; a notification stream is checked
again at every item.  The configuration may be reloaded between any two of these
steps, so a request moves through the server in single steps.
-/
import Proxxx.RustStr
import Proxxx.SerdeJson
import Proxxx.StepSystem

namespace Proxxx

open SerdeJson StepSystem

structure HeaderValue where
  bytes : List UInt8
deriving Repr, DecidableEq

/-- Only visible ASCII and tabs are text. -/
def HeaderValue.toStr (value : HeaderValue) : Option String :=
  if value.bytes.all fun byte => byte == 9 || (32 ≤ byte && byte < 127) then
    some (String.ofList (value.bytes.map fun byte => Char.ofNat byte.toNat))
  else none

/-- The headers in the order of the request, with their names in lower case. -/
structure HeaderMap where
  entries : List (String × HeaderValue)
deriving Repr, DecidableEq

def HeaderMap.getAll (headers : HeaderMap) (name : String) : List HeaderValue :=
  (headers.entries.filter (·.1 == name)).map (·.2)

def HeaderMap.get (headers : HeaderMap) (name : String) : Option HeaderValue :=
  (headers.getAll name).head?

inductive IpAddr where
  | v4 (octets : Fin 4 → UInt8)
  | v6 (bits : BitVec 128)

def IpAddr.isLoopback : IpAddr → Bool
  | .v4 octets => octets 0 == 127
  | .v6 bits => bits == 1

/-- What the server takes from its libraries: reading an IP address, and a digest
of 32 bytes. -/
structure HttpLibrary where
  parseIpAddr : String → Option IpAddr
  sha256 : String → List UInt8
  length_sha256 : ∀ text, (sha256 text).length = 32

/-- The arguments of `serve-http`. -/
structure ServeHttpArgs where
  bind : String
  port : UInt16
  allowInsecureBind : Bool
  cliToken : Option String
  allowedHosts : List String

def toAsciiLowercase (text : String) : String :=
  String.ofList (text.toList.map Char.toLower)

def isBlank (text : String) : Bool :=
  (RustStr.trim text).isEmpty

section Authorities

def formatHostPort (host : String) (port : UInt16) : String :=
  let h := toAsciiLowercase (RustStr.trim host)
  if RustStr.startsWith h "[" && RustStr.endsWith h "]" then
    h ++ ":" ++ toString port.toNat
  else if RustStr.contains h ":" then "[" ++ h ++ "]:" ++ toString port.toNat
  else h ++ ":" ++ toString port.toNat

/-- The authorities an entry of `--allowed-host` adds. -/
def allowedHostEntry (raw : String) (defaultPort : UInt16) : List String :=
  let h := toAsciiLowercase (RustStr.trim raw)
  let withPort := h ++ ":" ++ toString defaultPort.toNat
  if h.isEmpty then []
  else if RustStr.startsWith h "[" then
    if RustStr.contains h "]:" then [h]
    else if RustStr.endsWith h "]" then [withPort, h]
    else []
  else
    match RustStr.rsplitOnce h ':' with
    | some (hostPart, portPart) =>
      if !RustStr.contains hostPart ":" && (RustStr.parseUnsigned (2 ^ 16) portPart).isSome then [h]
      else
        ["[" ++ h ++ "]:" ++ toString defaultPort.toNat, "[" ++ h ++ "]"]
    | none => [withPort, h]

variable (library : HttpLibrary)

def isLoopbackBind (bind : String) : Bool :=
  RustStr.eqIgnoreAsciiCase bind "localhost" || (library.parseIpAddr bind).any IpAddr.isLoopback

def buildAllowedAuthorities (bind : String) (port : UInt16)
    (allowedHosts : List String) : List String :=
  let loopback :=
    if isLoopbackBind library bind then
      ["127.0.0.1:" ++ toString port.toNat, "localhost:" ++ toString port.toNat,
        "[::1]:" ++ toString port.toNat]
    else []
  loopback ++ formatHostPort bind port :: allowedHosts.flatMap (allowedHostEntry · port)

end Authorities

section Checks

/-- The authority behind the scheme of an origin, which is ASCII text. -/
def originAuthority (origin : String) : Option String :=
  let text := origin.toList
  if 7 ≤ text.length && RustStr.eqIgnoreAsciiCase (String.ofList (text.take 7)) "http://" then
    some (String.ofList (text.drop 7))
  else if 8 ≤ text.length && RustStr.eqIgnoreAsciiCase (String.ofList (text.take 8)) "https://" then
    some (String.ofList (text.drop 8))
  else none

/-- A refusal: its status code and its text. -/
abbrev Refusal := Nat × String

def checkHost (allowed : List String) (headers : HeaderMap) : Except Refusal Unit :=
  match headers.getAll "host" with
  | [] => .error (400, "Bad Request: missing Host header")
  | [value] =>
    match value.toStr with
    | none => .error (400, "Bad Request: invalid Host header")
    | some raw =>
      let host := RustStr.trim raw
      if host.isEmpty then .error (400, "Bad Request: missing Host header")
      else if !allowed.contains (toAsciiLowercase host) then
        .error (403, "Forbidden: rejected Host '" ++ host ++ "'")
      else .ok ()
  | _ => .error (400, "Bad Request: multiple Host headers are not allowed")

def checkOrigin (allowed : List String) (headers : HeaderMap) : Except Refusal Unit :=
  match headers.getAll "origin" with
  | [] => .ok ()
  | [value] =>
    match value.toStr with
    | none => .error (403, "Forbidden: invalid Origin header")
    | some raw =>
      let origin := RustStr.trim raw
      let ok := (originAuthority origin).any fun authority =>
        !authority.isEmpty && allowed.contains (toAsciiLowercase authority)
      if ok then .ok ()
      else .error (403, "Forbidden: rejected Origin '" ++ origin ++ "'")
  | _ => .error (403, "Forbidden: multiple Origin headers are not allowed")

def checkHostAndOrigin (allowed : List String) (headers : HeaderMap) : Except Refusal Unit := do
  checkHost allowed headers
  checkOrigin allowed headers

/-- Compare two digests byte by byte, without stopping at a difference. -/
def digestsDiffer (expected got : List UInt8) : UInt8 :=
  (expected.zip got).foldl (fun acc pair => acc ||| (pair.1 ^^^ pair.2)) 0

def tokenGate (library : HttpLibrary) (expected : Option String)
    (bearer : String) (requireToken : Bool) : Bool :=
  match expected.filter fun token => !isBlank token with
  | none => !requireToken
  | some token => digestsDiffer (library.sha256 token) (library.sha256 bearer) == 0

/-- The bearer of a request, or the empty text. -/
def bearerOf (headers : HeaderMap) : String :=
  let presented := do
    let value ← headers.get "authorization"
    let text ← value.toStr
    if RustStr.startsWith text "Bearer " then
      some (String.ofList (text.toList.drop 7))
    else none
  presented.getD ""

end Checks

inductive HttpRoute where
  | postMcp (body : Option Json)
  | getMcp
  | health

structure McpRequest where
  headers : HeaderMap
  route : HttpRoute

/-- An authorization: the headers of the request, and the configured token and
the number of actions so far when it was given. -/
structure Grant where
  headers : HeaderMap
  configToken : Option String
  moment : Nat

/-- What a notification stream yields. -/
inductive StreamItem where
  | note (envelope : String)
  | lagged (missed : Nat)
  | recheck

/-- Where a request is on its way through the server. -/
inductive RequestStage where
  | received
  | screened
  | admitted
  | serving (grant : Grant) (calls : List Json)
  | streaming
  | passed (grant : Grant) (item : StreamItem)
  | closed

structure HttpConnection where
  request : McpRequest
  stage : RequestStage

/-- What the server did for a client, and on which authorization. -/
inductive ServerEntry where
  | dispatched (client : Nat) (grant : Grant) (method : String)
      (params : Option Json)
  | emitted (client : Nat) (grant : Grant) (event data : String)

def ServerEntry.client : ServerEntry → Nat
  | .dispatched client _ _ _ => client
  | .emitted client _ _ _ => client

def ServerEntry.grant : ServerEntry → Grant
  | .dispatched _ grant _ _ => grant
  | .emitted _ grant _ _ => grant

/-- The clock counts the actions. -/
structure ServerState where
  clock : Nat
  configToken : Option String
  connections : List HttpConnection
  log : List ServerEntry

/-- What can happen: a reload, which may fail; a request that arrives; one step
of a request; an item of a stream; the end of a connection. -/
inductive ServerAction where
  | reload (loaded : Except String (Option String))
  | arrive (request : McpRequest)
  | advance (client : Nat)
  | item (client : Nat) (item : StreamItem)
  | close (client : Nat)

section Server

variable (library : HttpLibrary) (args : ServeHttpArgs)

def ServeHttpArgs.requireToken : Bool :=
  !isLoopbackBind library args.bind && !args.allowInsecureBind

def ServeHttpArgs.allowedAuthorities : List String :=
  buildAllowedAuthorities library args.bind args.port args.allowedHosts

def authOk (configToken : Option String) (headers : HeaderMap) : Bool :=
  let cliToken := args.cliToken.filter fun token => !isBlank token
  let expected := cliToken.or configToken
  tokenGate library expected (bearerOf headers) (args.requireToken library)

/-- Start the server, which an exposed one without a token refuses. -/
def runHttpServer (configToken : Option String) : Except String ServerState :=
  let given (token : Option String) := token.any fun text => !isBlank text
  if args.requireToken library && !(given args.cliToken || given configToken) then
    .error ("Refusing to start the MCP HTTP server on non-loopback bind '" ++
      args.bind ++ "' without auth. Set `mcp_token` (or pass --token), bind " ++
      "to 127.0.0.1, or pass --insecure-bind to override consciously.")
  else .ok { clock := 0, configToken := configToken, connections := [], log := [] }

/-- A batch is its elements. -/
def rpcCalls : Json → List Json
  | .arr calls => calls
  | call => [call]

/-- The entry of one call: without a method nothing is dispatched. -/
def dispatchEntry (client : Nat) (grant : Grant) (call : Json) : List ServerEntry :=
  match (call.get? "method").bind Json.asStr with
  | some method => [.dispatched client grant method (call.get? "params")]
  | none => []

def eventEntry (client : Nat) (grant : Grant) : StreamItem → List ServerEntry
  | .note envelope => [.emitted client grant "notifications/cluster-event" envelope]
  | .lagged missed =>
    [.emitted client grant "notifications/lagged" ("\x7b\"missed\":" ++ toString missed ++ "\x7d")]
  | .recheck => []

/-- What an authorization by the present configuration records. -/
def ServerState.grantTo (state : ServerState) (connection : HttpConnection) : Grant where
  headers := connection.request.headers
  configToken := state.configToken
  moment := state.clock

/-- The next step of a request, and what it adds to the log. -/
def advanceRequest (state : ServerState) (client : Nat)
    (connection : HttpConnection) : RequestStage × List ServerEntry :=
  let headers := connection.request.headers
  let authorized := authOk library args state.configToken headers
  match connection.stage, connection.request.route with
  | .received, _ =>
    match checkHostAndOrigin (args.allowedAuthorities library) headers with
    | .ok () => (.screened, [])
    | .error _ => (.closed, [])
  | .screened, .health => (.closed, [])
  | .screened, _ => if authorized then (.admitted, []) else (.closed, [])
  | .admitted, .postMcp (some body) =>
    if authorized then
      (.serving (state.grantTo connection) (rpcCalls body), [])
    else (.closed, [])
  | .admitted, .getMcp => if authorized then (.streaming, []) else (.closed, [])
  | .admitted, _ => (.closed, [])
  | .serving given (call :: rest), _ => (.serving given rest, dispatchEntry client given call)
  | .serving _ [], _ => (.closed, [])
  | .streaming, _ => (.streaming, [])
  | .passed given item, _ => (.streaming, eventEntry client given item)
  | .closed, _ => (.closed, [])

/-- An item of a stream is checked before anything else becomes of it. -/
def checkItem (state : ServerState) (connection : HttpConnection)
    (item : StreamItem) : Option RequestStage :=
  match connection.stage with
  | .streaming =>
    if authOk library args state.configToken connection.request.headers then
      some (.passed (state.grantTo connection) item)
    else some .closed
  | _ => none

def ServerState.move (state : ServerState) (client : Nat)
    (connection : HttpConnection) (stage : RequestStage)
    (entries : List ServerEntry) : ServerState :=
  { state with
    connections := state.connections.set client
      { connection with stage := stage },
    log := state.log ++ entries }

def serverAct (state : ServerState) : ServerAction → Option ServerState
  | .reload (.ok configToken) => some { state with configToken := configToken }
  | .reload (.error _) => some state
  | .arrive request =>
    some { state with
      connections := state.connections ++ [{ request := request, stage := .received }] }
  | .advance client => do
      let connection ← state.connections[client]?
      let (stage, entries) := advanceRequest library args state client connection
      return state.move client connection stage entries
  | .item client item => do
      let connection ← state.connections[client]?
      let stage ← checkItem library args state connection item
      return state.move client connection stage []
  | .close client => do
      let connection ← state.connections[client]?
      return state.move client connection .closed []

def serverStep (state : ServerState) (action : ServerAction) : Option ServerState :=
  (serverAct library args state action).map fun next =>
    { next with clock := state.clock + 1 }

end Server

end Proxxx
