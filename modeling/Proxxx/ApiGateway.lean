/-
The write verbs of the gateway.  Each passes three gates in a fixed order, the
profile's write lock, the incident freeze and the write-ahead audit record, and
then sends; what came of it is recorded under the same action and parameters.
The trace of a call shows the gates, the requests and the records as they
happen, and what the gates promise is said of that trace.
-/
import Proxxx.ApiTransport
import Proxxx.IncidentFreeze
import Proxxx.MutationAudit

namespace Proxxx

open FaultProgram List

inductive ApiError where
  | unauthorized (text : String)
  | forbidden (text : String)
  | notFound (text : String)
  | rateLimited (text : String)
  | storageHang (text : String)
  | other (path : String) (status : Nat) (body : String)
deriving Repr, DecidableEq

structure NodeEntry where
  node : String
  online : Bool
deriving Repr, DecidableEq

/-- What the client reads out of answers with library code. -/
structure ReplyTexts where
  /-- The status code with its canonical reason. -/
  statusText : Nat → String
  pveMessage : String → String
  parseNodes : HttpResponse → Except String (List NodeEntry)

section Errors

variable (texts : ReplyTexts)

def fromStatus (status : Nat) (path body : String) : ApiError :=
  let shown := texts.statusText status
  if status = 401 then .unauthorized s!"{path}: {body}"
  else if status = 403 then .forbidden s!"{path}: {body}"
  else if status = 404 then .notFound s!"{path}: {body}"
  else if status = 429 ∨ status = 502 ∨ status = 503 ∨ status = 504 then
    .rateLimited s!"{path} {shown}: {body}"
  else if status = 594 ∨ status = 595 ∨ status = 596 ∨ status = 599 then
    .storageHang s!"{path} ({shown})"
  else .other path status body

def fromStatusWithIdempotency (status : Nat) (path body : String)
    (idempotency : RequestIdempotency) : ApiError :=
  let shown := texts.statusText status
  if idempotency = .mutation ∧ 502 ≤ status ∧ status ≤ 504 then
    .rateLimited (s!"{path} {shown}: {body} (mutation was not retried; PVE "
      ++ "may still have executed it — check `proxxx tasks` or the PVE task "
      ++ "log before retrying)")
  else fromStatus texts status path body

/-- The node in a "hostname lookup failed" answer under `/nodes/`. -/
def unresolvedNodeName : ApiError → Option String
  | .other path 500 body =>
    match RustStr.split path '/' with
    | "" :: "nodes" :: _ :: _ => do
        let (_, rest) ← RustStr.splitOnce body "hostname lookup '"
        let (name, _) ← RustStr.splitOnce rest "'"
        if name.isEmpty then none else some name
    | _ => none
  | _ => none

def classifyUnresolvedNode (error : ApiError) (nodes : List NodeEntry) : ApiError :=
  match error, unresolvedNodeName error with
  | .other path status body, some name =>
    match nodes.find? (·.node == name) with
    | none => .notFound s!"{path}: node {name} is not a member of this cluster"
    | some entry =>
      if entry.online then error
      else .other path status (s!"node {name} is a cluster member but "
        ++ s!"offline or unreachable ({texts.pveMessage body})")
  | _, _ => error

end Errors

inductive ClientError where
  | readOnly (profile path : String)
  | frozen (refusal : FreezeRefusal)
  | auditWrite (action : String) (reason : AuditFault)
  | send (error : SendError)
  | upload (error : TransportError)
  | api (error : ApiError)
  | body (reason : String)
  | localFile (reason : String)
deriving Repr, DecidableEq

inductive ClientEvent where
  | readOnly (found : Bool)
  | freezeChecked (result : Except FreezeRefusal Unit)
  | writeAhead (entry : LogEntry) (result : Except AuditFault RawAuditRow)
  | api (event : ApiEvent)
  | outcome (entry : LogEntry) (result : Except AuditFault RawAuditRow)
deriving DecidableEq

structure ClientState where
  trace : List ClientEvent
  cache : Option CachedLogger

def ClientState.note (state : ClientState) (event : ClientEvent) : ClientState :=
  { state with trace := state.trace ++ [event] }

/-- The part of a trace that left the process. -/
def apiLog (trace : List ClientEvent) : ApiLog :=
  trace.filterMap fun
    | .api event => some event
    | _ => none

/-- A client, and what it finds during one call. -/
structure PxClient where
  profileName : Option String
  /-- `read_only`, from the live configuration if there is one. -/
  readOnly : Bool
  freezeEnv : FreezeEnv
  toml : LockToml
  now : Nat
  locks : LockFiles
  mac : Mac
  keyName : String
  operatorLabel : String
  texts : AuditTexts
  sentView : AuditView
  outcomeView : AuditView
  api : ApiClient ApiLog
  replies : ReplyTexts

namespace PxClient

abbrev Client := Program ClientState ClientError

variable (client : PxClient) {ε α : Type}

/-- The requests of the call as seen from its whole state. -/
def transport : ApiClient ClientState :=
  { maxAttempts := client.api.maxAttempts, auth := client.api.auth
    ticketEnds := fun state => client.api.ticketEnds (apiLog state.trace)
    resolvePassword := fun state => client.api.resolvePassword (apiLog state.trace)
    login := fun state => client.api.login (apiLog state.trace)
    send := fun idempotency path state => client.api.send idempotency path (apiLog state.trace)
    record := fun event state => state.note (.api event) }

def profileLabel : String :=
  match client.profileName with
  | some name => if name.isEmpty then "default" else name
  | none => "default"

def guardReadOnly (path : String) : Client Unit := do
  modify (·.note (.readOnly client.readOnly))
  ensure (!client.readOnly) (.readOnly (client.profileName.getD "(default)") path)

def freezeResult : Except FreezeRefusal Unit :=
  checkNotFrozenFor client.freezeEnv client.toml client.now client.locks client.profileName

def checkNotFrozen : Client Unit := do
  modify (·.note (.freezeChecked client.freezeResult))
  liftResult (client.freezeResult.mapError .frozen)

def auditCtx (method path : String) (params : List (String × String)) : MutationAuditCtx :=
  mutationAuditCtx client.texts client.operatorLabel method path params client.profileLabel

/-- What the write-ahead record comes to. -/
def sentResult (ctx : MutationAuditCtx) (cache : Option CachedLogger) :
    Except AuditFault RawAuditRow :=
  (logMutationSent client.mac client.keyName client.sentView cache (ctx.entry "sent")).1

/-- The write-ahead record: without it the request must not leave. -/
def writeAheadAt (method path : String) (params : List (String × String)) :
    Client MutationAuditCtx := do
  let ctx := client.auditCtx method path params
  let entry := ctx.entry "sent"
  let state ← get
  modify fun state =>
    { state.note (.writeAhead entry (client.sentResult ctx state.cache)) with
      cache := (logMutationSent client.mac client.keyName client.sentView state.cache entry).2 }
  let _ ← liftResult ((client.sentResult ctx state.cache).mapError
    (.auditWrite ctx.action))
  return ctx

/-- The record of the outcome; failing to write it changes nothing else. -/
def recordOutcome (ctx : MutationAuditCtx) (outcome : String) : Program ClientState ε Unit :=
  modify fun state =>
    let entry := ctx.entry outcome
    let (result, cache) := logMutationOutcome client.mac client.keyName
      client.outcomeView state.cache entry
    { state.note (.outcome entry result) with cache }

def isSuccess (response : HttpResponse) : Bool :=
  decide (200 ≤ response.status ∧ response.status < 300)

/-- `GET /nodes`. -/
def listNodes : Client (List NodeEntry) := do
  let response ← mapError .send
    (client.transport.sendWithRetry .idempotent "/nodes")
  if isSuccess response then
    liftResult ((client.replies.parseNodes response).mapError .body)
  else
    throw (.error (.api (fromStatus client.replies response.status "/nodes" response.body)))

/-- Ask the cluster which of two causes a failed hostname lookup has. -/
def refineNodeLookupError (error : ApiError) : Client ApiError :=
  match unresolvedNodeName error with
  | none => return error
  | some _ =>
    onError (do
        let nodes ← client.listNodes
        return classifyUnresolvedNode client.replies error nodes)
      fun _ => return error

/-- The body of `post`, `put` and `delete`. -/
def mutate (parse : HttpResponse → Except String α) (method path : String)
    (params : List (String × String)) : Client α := do
  client.guardReadOnly path
  client.checkNotFrozen
  let ctx ← client.writeAheadAt method path params
  let response ← mapError .send
    (onError (client.transport.sendWithRetry .mutation path) fun e => do
      client.recordOutcome ctx ("error transport: " ++ client.texts.scrubSecrets e.text)
      throw (.error e))
  if isSuccess response then
    client.recordOutcome ctx s!"ok {response.status}"
    liftResult ((parse response).mapError .body)
  else
    client.recordOutcome ctx s!"error {response.status}"
    let error ← client.refineNodeLookupError (fromStatusWithIdempotency
      client.replies response.status path response.body .mutation)
    throw (.error (.api error))

def post (parse : HttpResponse → Except String α) (path : String)
    (params : List (String × String)) : Client α :=
  client.mutate parse "POST" path params

def put (parse : HttpResponse → Except String α) (path : String)
    (params : List (String × String)) : Client α :=
  client.mutate parse "PUT" path params

def delete (parse : HttpResponse → Except String α) (path : String) : Client α :=
  client.mutate parse "DELETE" path []

end PxClient

/-- Bytes a path segment may hold as they are. -/
def segmentByte (c : UInt8) : Bool :=
  let char := Char.ofNat c.toNat
  char.isAlphanum || "-_.~:@!$&'()*+,;=".toList.contains char

def urlencSegment (text : String) : String :=
  String.join (text.toUTF8.toList.map fun c =>
    if segmentByte c then (Char.ofNat c.toNat).toString
    else "%" ++ (HexText.encode [c]).toUpper)

/-- A local file to upload: its last path component, if it is text, and what
opening it gives. -/
structure LocalFile where
  display : String
  fileName : Option String
  opened : Except String Unit

def uploadPath (node storage : String) : String :=
  "/nodes/" ++ urlencSegment node ++ "/storage/" ++ urlencSegment storage ++ "/upload"

def uploadName (file : LocalFile) (remoteFilename : Option String) : Except String String :=
  match remoteFilename with
  | some name => .ok name
  | none =>
    match file.fileName with
    | some name => .ok name
    | none => .error s!"could not derive filename from local path {file.display}"

namespace PxClient

variable (client : PxClient) {α : Type}

/-- The upload sends once and by itself, as its body cannot be read twice. -/
def uploadToStorage (parse : HttpResponse → Except String α)
    (node storage : String) (file : LocalFile) (contentType : String)
    (remoteFilename : Option String) : Client α := do
  let filename ← liftResult
    ((uploadName file remoteFilename).mapError .localFile)
  liftResult (file.opened.mapError fun e => .localFile s!"opening {file.display} for upload: {e}")
  let path := uploadPath node storage
  client.guardReadOnly path
  client.checkNotFrozen
  let ctx ← client.writeAheadAt "POST" path
    [("content", contentType), ("filename", filename)]
  mapError .send client.transport.ensureAuth
  let outcome ← mapError .send (client.transport.sendOnce .mutation path)
  match outcome with
  | .error e => do
      client.recordOutcome ctx ("error transport: " ++ client.texts.scrubSecrets e.display)
      throw (.error (.upload e))
  | .ok response =>
    if isSuccess response then
      client.recordOutcome ctx s!"ok {response.status}"
      liftResult ((parse response).mapError .body)
    else
      client.recordOutcome ctx s!"error {response.status}"
      throw (.error (.api (fromStatus client.replies response.status path response.body)))

end PxClient

inductive GatewayCall where
  | post (path : String) (params : List (String × String))
  | put (path : String) (params : List (String × String))
  | delete (path : String)
  | upload (node storage : String) (file : LocalFile) (contentType : String)
      (remoteFilename : Option String)

namespace GatewayCall

def perform {α : Type} (client : PxClient)
    (parse : HttpResponse → Except String α) : GatewayCall → PxClient.Client α
  | .post path params => client.post parse path params
  | .put path params => client.put parse path params
  | .delete path => client.delete parse path
  | .upload node storage file contentType remoteFilename =>
    client.uploadToStorage parse node storage file contentType remoteFilename

def path : GatewayCall → String
  | .post path _ | .put path _ | .delete path => path
  | .upload node storage _ _ _ => uploadPath node storage

def method : GatewayCall → String
  | .post _ _ | .upload _ _ _ _ _ => "POST"
  | .put _ _ => "PUT"
  | .delete _ => "DELETE"

def params : GatewayCall → List (String × String)
  | .post _ params | .put _ params => params
  | .delete _ => []
  | .upload _ _ file contentType remoteFilename =>
    [("content", contentType), ("filename", (uploadName file remoteFilename).toOption.getD "")]

def isUpload : GatewayCall → Bool
  | .upload _ _ _ _ _ => true
  | _ => false

/-- There is something to send: an upload's file has a name and opens. -/
def Opens : GatewayCall → Prop
  | .upload _ _ file _ remoteFilename =>
    (∃ name, uploadName file remoteFilename = .ok name) ∧ file.opened = .ok ()
  | _ => True

def auditCtx (call : GatewayCall) (client : PxClient) : MutationAuditCtx :=
  client.auditCtx call.method call.path call.params

end GatewayCall

namespace PxClient

variable {client : PxClient} {ε α : Type} {state : ClientState}

theorem recorded_transport (events : List ApiEvent) (state : ClientState) :
    client.transport.recorded events state =
      { state with trace := state.trace ++ events.map .api } := by
  induction events generalizing state with
  | nil => simp [ApiClient.recorded]
  | cons event rest ih =>
    have hstep : client.transport.recorded (event :: rest) state =
        client.transport.recorded rest (state.note (.api event)) := rfl
    rw [hstep, ih]
    simp [ClientState.note]

theorem guardReadOnly_ends (path : String) : Ends (client.guardReadOnly path) state
    (fun _ final => client.readOnly = false ∧ final = state.note (.readOnly false))
    (fun _ final => client.readOnly = true ∧ final = state.note (.readOnly true)) := by
  refine Ends.seq (Ends.modify (Ends.ensure ?_ ?_))
  · intro hwritable
    have hreadOnly : client.readOnly = false := by simpa using hwritable
    exact ⟨hreadOnly, by rw [← hreadOnly]⟩
  · intro hlocked
    have hreadOnly : client.readOnly = true := by simpa using hlocked
    exact ⟨hreadOnly, by rw [← hreadOnly]⟩

theorem checkNotFrozen_ends : Ends client.checkNotFrozen state
    (fun _ final => client.freezeResult = .ok () ∧ final = state.note (.freezeChecked (.ok ())))
    (fun _ final => ∃ refusal, client.freezeResult = .error refusal ∧
      final = state.note (.freezeChecked (.error refusal))) := by
  refine Ends.seq (Ends.modify (Ends.liftMapError ?_ ?_))
  · exact fun _ hpasses => ⟨hpasses, by rw [← hpasses]⟩
  · exact fun refusal hrefuses => ⟨refusal, hrefuses, by rw [← hrefuses]⟩

theorem writeAheadAt_ends (method path : String) (params : List (String × String)) :
    Ends (client.writeAheadAt method path params) state
      (fun ctx final => ctx = client.auditCtx method path params ∧
        ∃ row, client.sentResult ctx state.cache = .ok row ∧ final.trace = state.trace ++
            [.writeAhead (ctx.entry "sent") (.ok row)])
      (fun _ final => ∃ fault, client.sentResult (client.auditCtx method path params) state.cache =
          .error fault ∧
        final.trace = state.trace ++
          [.writeAhead ((client.auditCtx method path params).entry "sent") (.error fault)]) := by
  refine Ends.seq (Ends.get (Ends.seq (Ends.modify (Ends.seq (Ends.liftMapError ?_ ?_)))))
  · exact fun row hrow => Ends.pure ⟨rfl, row, hrow, hrow ▸ rfl⟩
  · exact fun fault hfault => ⟨fault, hfault, hfault ▸ rfl⟩

/-- The trace up to the first request. -/
def gateTrace (ctx : MutationAuditCtx) (row : RawAuditRow) : List ClientEvent :=
  [.readOnly false, .freezeChecked (.ok ()), .writeAhead (ctx.entry "sent") (.ok row)]

/-- All three gates let the call through. -/
def Passes (client : PxClient) (ctx : MutationAuditCtx)
    (cache : Option CachedLogger) (row : RawAuditRow) : Prop :=
  client.readOnly = false ∧ client.freezeResult = .ok () ∧ client.sentResult ctx cache = .ok row

/-- The traces of the calls that a gate has refused. -/
inductive Refused (client : PxClient) (ctx : MutationAuditCtx)
    (cache : Option CachedLogger) : List ClientEvent → Prop where
  | readOnly (hreadOnly : client.readOnly = true) : Refused client ctx cache [.readOnly true]
  | frozen {refusal : FreezeRefusal} (hreadOnly : client.readOnly = false)
      (hfrozen : client.freezeResult = .error refusal) :
      Refused client ctx cache
        [.readOnly false, .freezeChecked (.error refusal)]
  | unlogged {fault : AuditFault} (hreadOnly : client.readOnly = false)
      (hopen : client.freezeResult = .ok ())
      (hfault : client.sentResult ctx cache = .error fault) :
      Refused client ctx cache
        [.readOnly false, .freezeChecked (.ok ()), .writeAhead (ctx.entry "sent") (.error fault)]

variable {ctx : MutationAuditCtx}

/-- A call is what its gates let through. -/
theorem gates_ends {P : List ClientEvent → Prop}
    {rest : MutationAuditCtx → Client α}
    {method path : String} {params : List (String × String)}
    {cache : Option CachedLogger}
    (hctx : client.auditCtx method path params = ctx)
    (hrefused : ∀ trace, client.Refused ctx cache trace → P trace)
    (hpassed : ∀ row state, client.Passes ctx cache row → state.trace = gateTrace ctx row →
      Ends (rest ctx) state (fun _ final => P final.trace) (fun _ final => P final.trace)) :
    Ends (do
        client.guardReadOnly path
        client.checkNotFrozen
        let ctx ← client.writeAheadAt method path params
        rest ctx)
      { trace := [], cache } (fun _ final => P final.trace)
      (fun _ final => P final.trace) := by
  subst hctx
  refine Ends.seq ((guardReadOnly_ends path).imp ?_ ?_)
  swap
  · rintro _ _ ⟨hreadOnly, rfl⟩
    exact hrefused _ (.readOnly hreadOnly)
  rintro _ _ ⟨hreadOnly, rfl⟩
  refine Ends.seq (checkNotFrozen_ends.imp ?_ ?_)
  swap
  · rintro _ _ ⟨refusal, hfrozen, rfl⟩
    exact hrefused _ (.frozen hreadOnly hfrozen)
  rintro _ _ ⟨hopen, rfl⟩
  refine Ends.seq ((writeAheadAt_ends method path params).imp ?_ ?_)
  · rintro _ final ⟨rfl, row, hrow, htrace⟩
    exact hpassed row final ⟨hreadOnly, hopen, hrow⟩ htrace
  · rintro _ _ ⟨fault, hfault, htrace⟩
    rw [htrace]
    exact hrefused _ (.unlogged hreadOnly hopen hfault)

/-- Behind the record of an outcome the trace has it as its last event. -/
theorem recordOutcome_seq {outcome : String} {rest : Unit → Program ClientState ε α}
    {Done : α → ClientState → Prop} {Halted : Halt ε → ClientState → Prop}
    (hrest : ∀ result final, final.trace = state.trace ++ [.outcome (ctx.entry outcome) result] →
      Ends (rest ()) final Done Halted) :
    Ends (client.recordOutcome ctx outcome >>= rest) state Done Halted :=
  Ends.seq (Ends.modify (hrest _ _ rfl))

/-- Requests have gone out behind the trace, and nothing else. -/
def OnlySends (start final : ClientState) : Prop :=
  ∃ sends : List ApiEvent, final.trace = start.trace ++ sends.map .api

variable {unsent : Prop}

theorem onlySends_of_leaves {final : ClientState}
    (hleaves : client.transport.Leaves unsent state final) :
    OnlySends state final := by
  obtain ⟨events, rfl, -⟩ := hleaves
  exact ⟨events, by rw [recorded_transport]⟩

theorem listNodes_ends : Ends client.listNodes state (fun _ => OnlySends state)
    (fun halt final => halt ≠ .stopped ∧ OnlySends state final) := by
  refine Ends.bind (fun _ => OnlySends state) (Ends.mapError ?_) ?_
  · refine (ApiClient.sendWithRetry_leaves "/nodes" state).imp
      (fun _ _ hdone => onlySends_of_leaves hdone.2) ?_
    rintro halt final ⟨hgoes, hleaves⟩
    cases halt with
    | error e => exact ⟨nofun, onlySends_of_leaves hleaves⟩
    | stopped => exact absurd rfl hgoes
  intro response mid hmid
  split
  · exact Ends.liftMapError (fun _ _ => hmid) fun _ _ => ⟨nofun, hmid⟩
  · exact Ends.throw ⟨nofun, hmid⟩

theorem refineNodeLookupError_ends (error : ApiError) :
    Ends (client.refineNodeLookupError error) state
      (fun _ => OnlySends state) (fun _ _ => False) := by
  unfold refineNodeLookupError
  split
  · exact Ends.pure ⟨[], by simp⟩
  · refine Ends.onError (fun _ => OnlySends state) (Ends.seq (listNodes_ends.imp ?_ ?_))
      fun _ _ hmid => Ends.pure hmid
    · exact fun _ _ hmid => Ends.pure hmid
    rintro halt final ⟨hgoes, hsends⟩
    cases halt with
    | error e => exact hsends
    | stopped => exact absurd rfl hgoes

/-- Requests, the record of their outcome, and requests behind it. -/
def recordedTail (sends later : List ApiEvent) (entry : LogEntry)
    (result : Except AuditFault RawAuditRow) : List ClientEvent :=
  sends.map .api ++ .outcome entry result :: later.map .api

/-- Behind the gates the outcome is recorded, with more requests behind it only
if there were some before. -/
def Accounted (ctx : MutationAuditCtx) (unsent : Prop) (gates trace : List ClientEvent) : Prop :=
  ∃ (sends later : List ApiEvent) (outcome : String) (result : Except AuditFault RawAuditRow),
    trace = gates ++ recordedTail sends later (ctx.entry outcome) result ∧
    (sends = [] ↔ unsent) ∧ (sends = [] → later = [])

variable {result : Except AuditFault RawAuditRow}

theorem Accounted.of_later
    {gates mid after trace : List ClientEvent} {sends later : List ApiEvent}
    {outcome : String}
    (hmid : mid = gates ++ sends.map .api)
    (hafter : after = mid ++ [.outcome (ctx.entry outcome) result])
    (htrace : trace = after ++ later.map .api)
    (hsends : sends = [] ↔ unsent) (hlater : sends = [] → later = []) :
    Accounted ctx unsent gates trace :=
  ⟨sends, later, outcome, result, by simp [recordedTail, htrace, hafter, hmid], hsends, hlater⟩

theorem Accounted.of_last
    {gates mid trace : List ClientEvent} {sends : List ApiEvent}
    {outcome : String}
    (hmid : mid = gates ++ sends.map .api)
    (htrace : trace = mid ++ [.outcome (ctx.entry outcome) result])
    (hsends : sends = [] ↔ unsent) : Accounted ctx unsent gates trace := by
  have hlater : trace = trace ++ ([] : List ApiEvent).map .api := by simp
  exact .of_later hmid htrace hlater hsends fun _ => rfl

/-- An upload whose authentication fails leaves no record behind the gates. -/
def UploadEnds (client : PxClient) (ctx : MutationAuditCtx) (state final : ClientState) : Prop :=
  (client.transport.AuthFails state ∧ ∃ sends : List ApiEvent,
    final.trace = state.trace ++ sends.map .api ∧ (sends = [] ↔ client.transport.Barred state)) ∨
  (¬client.transport.AuthFails state ∧
    Accounted ctx (client.transport.Barred state) state.trace final.trace)

end PxClient

section Gates

variable {client : PxClient} {call : GatewayCall} {α : Type}
  {cache : Option CachedLogger} {trace : List ClientEvent}

def callTrace (client : PxClient) (parse : HttpResponse → Except String α)
    (call : GatewayCall) (cache : Option CachedLogger) : List ClientEvent :=
  (execute (call.perform client parse) { trace := [], cache }).2.trace

/-- Nothing leaves the process for the call, not even a login. -/
def GatewayCall.Unsent (call : GatewayCall) (client : PxClient) : Prop :=
  (call.isUpload = false ∧ pathTraverses call.path = true) ∨ client.api.Barred []

/-- The authentication of an upload fails. -/
def GatewayCall.Lost (call : GatewayCall) (client : PxClient) : Prop :=
  call.isUpload = true ∧ client.api.AuthFails []

/-- Every trace a call can leave, and when. -/
inductive CallTrace (client : PxClient) (call : GatewayCall)
    (cache : Option CachedLogger) : List ClientEvent → Prop where
  | unopened (hopens : ¬call.Opens) : CallTrace client call cache []
  | refused {trace : List ClientEvent} (hopens : call.Opens)
      (hrefused : client.Refused (call.auditCtx client) cache trace) :
      CallTrace client call cache trace
  | lost {row : RawAuditRow} (hopens : call.Opens)
      (hpasses : client.Passes (call.auditCtx client) cache row)
      (hlost : call.Lost client) (sends : List ApiEvent)
      (hsends : sends = [] ↔ call.Unsent client) :
      CallTrace client call cache
        (PxClient.gateTrace (call.auditCtx client) row ++ sends.map .api)
  | accounted {row : RawAuditRow} {trace : List ClientEvent}
      (hopens : call.Opens)
      (hpasses : client.Passes (call.auditCtx client) cache row)
      (hkept : ¬call.Lost client)
      (haccounted : PxClient.Accounted (call.auditCtx client)
        (call.Unsent client) (PxClient.gateTrace (call.auditCtx client) row)
        trace) :
      CallTrace client call cache trace

theorem apiLog_gateTrace (ctx : MutationAuditCtx) (row : RawAuditRow) :
    apiLog (PxClient.gateTrace ctx row) = [] :=
  rfl

variable {row : RawAuditRow} {ctx : MutationAuditCtx}

theorem barred_transport
    {state : ClientState} (htrace : state.trace = PxClient.gateTrace ctx row) :
    client.transport.Barred state ↔ client.api.Barred [] := by
  rw [← apiLog_gateTrace ctx row, ← htrace]
  rfl

theorem authFails_transport
    {state : ClientState} (htrace : state.trace = PxClient.gateTrace ctx row) :
    client.transport.AuthFails state ↔ client.api.AuthFails [] := by
  rw [← apiLog_gateTrace ctx row, ← htrace]
  rfl

variable {parse : HttpResponse → Except String α}

theorem mutate_trace
    (hperform : call.perform client parse = client.mutate parse call.method call.path call.params)
    (hupload : call.isUpload = false) (hopens : call.Opens) :
    Ends (call.perform client parse) { trace := [], cache }
      (fun _ final => CallTrace client call cache final.trace)
      (fun _ final => CallTrace client call cache final.trace) := by
  rw [hperform]
  unfold PxClient.mutate
  refine PxClient.gates_ends rfl (fun _ => .refused hopens) ?_
  intro row state hpasses htrace
  have hunsent : client.transport.Unsent call.path state = call.Unsent client := by
    simp [ApiClient.Unsent, GatewayCall.Unsent, hupload, barred_transport htrace]
  have hrecorded : ∀ final : ClientState, PxClient.Accounted (call.auditCtx client)
      (client.transport.Unsent call.path state) state.trace final.trace →
      CallTrace client call cache final.trace := by
    intro final haccounted
    rw [hunsent, htrace] at haccounted
    exact .accounted hopens hpasses (by simp [GatewayCall.Lost, hupload]) haccounted
  refine Ends.seq (Ends.mapError (Ends.onError
    (fun _ => client.transport.Leaves (client.transport.Unsent call.path state) state)
    ((ApiClient.sendWithRetry_leaves call.path state).imp ?_ ?_) ?_))
  · rintro response _ ⟨hsent, sends, rfl, hevents⟩
    have hsome : sends ≠ [] := mt hevents.mp hsent
    split
    · refine PxClient.recordOutcome_seq fun result final hfinal => ?_
      rw [PxClient.recorded_transport] at hfinal
      have hcall := hrecorded final (.of_last rfl hfinal hevents)
      exact Ends.liftMapError (fun _ _ => hcall) fun _ _ => hcall
    · refine PxClient.recordOutcome_seq fun result after hafter => ?_
      rw [PxClient.recorded_transport] at hafter
      refine Ends.seq ((PxClient.refineNodeLookupError_ends _).imp ?_ fun _ _ => False.elim)
      rintro error final ⟨later, hfinal⟩
      exact Ends.throw (hrecorded final
        (.of_later rfl hafter hfinal hevents fun hnone => absurd hnone hsome))
  · rintro halt final ⟨hgoes, hleaves⟩
    cases halt with
    | error e => exact hleaves
    | stopped => exact absurd rfl hgoes
  · rintro e _ ⟨events, rfl, hevents⟩
    refine PxClient.recordOutcome_seq fun result final hfinal => ?_
    rw [PxClient.recorded_transport] at hfinal
    exact Ends.throw (hrecorded final (.of_last rfl hfinal hevents))

theorem upload_trace
    {node storage : String} {file : LocalFile} {contentType : String}
    {remoteFilename : Option String} {call : GatewayCall}
    (hcall : call = .upload node storage file contentType remoteFilename) :
    Ends (call.perform client parse) { trace := [], cache }
      (fun _ final => CallTrace client call cache final.trace)
      (fun _ final => CallTrace client call cache final.trace) := by
  have hperform : call.perform client parse = client.uploadToStorage parse
      node storage file contentType remoteFilename := by
    rw [hcall]
    rfl
  rw [hperform]
  unfold PxClient.uploadToStorage
  have hunopened : (∀ name, uploadName file remoteFilename = .ok name →
      file.opened ≠ .ok ()) → ¬call.Opens := by
    subst hcall
    rintro hnone ⟨⟨name, hname⟩, hopened⟩
    exact hnone name hname hopened
  refine Ends.seq (Ends.liftMapError (fun name hname => ?_)
    fun e herror => .unopened (hunopened fun name hname => by simp [herror] at hname))
  refine Ends.seq (Ends.liftMapError (fun _ hopened => ?_)
    fun e herror => .unopened (hunopened fun _ _ hopened => by simp [herror] at hopened))
  have hopens : call.Opens := by
    subst hcall
    exact ⟨⟨name, hname⟩, hopened⟩
  have hupload : call.isUpload = true := by
    subst hcall
    rfl
  have hctx : client.auditCtx "POST" (uploadPath node storage)
      [("content", contentType), ("filename", name)] = call.auditCtx client := by
    subst hcall
    simp [GatewayCall.auditCtx, GatewayCall.method, GatewayCall.path,
      GatewayCall.params, hname, Except.toOption]
  refine PxClient.gates_ends hctx (fun _ => .refused hopens) ?_
  intro row state hpasses htrace
  have hfinal : ∀ final : ClientState,
      client.UploadEnds (call.auditCtx client) state final →
      CallTrace client call cache final.trace := by
    have hunsent : client.transport.Barred state = call.Unsent client := by
      simp [GatewayCall.Unsent, hupload, barred_transport htrace]
    unfold PxClient.UploadEnds
    rw [hunsent, authFails_transport htrace, htrace]
    rintro final (⟨hauth, sends, hfinal, hsends⟩ | ⟨hauth, haccounted⟩)
    · rw [hfinal]
      exact .lost hopens hpasses ⟨hupload, hauth⟩ sends hsends
    · exact .accounted hopens hpasses (fun hlost => hauth hlost.2) haccounted
  refine Ends.seq (Ends.mapError (ApiClient.ensureAuth_ends.imp ?_ ?_))
  swap
  · rintro halt final ⟨hgoes, hauth, hleft⟩
    have hlost : CallTrace client call cache final.trace := by
      obtain ⟨events, rfl, hevents⟩ := ApiClient.ensureAuth_leaves hleft
      exact hfinal _ (.inl ⟨hauth, events, by rw [PxClient.recorded_transport], hevents⟩)
    cases halt with
    | error e => exact hlost
    | stopped => exact absurd rfl hgoes
  rintro _ ready ⟨hrenewed, hauth⟩
  obtain ⟨logins, rfl⟩ := hrenewed.recorded
  refine Ends.seq (Ends.mapError (ApiClient.sendOnce_ends.imp ?_ fun _ _ => id))
  intro outcome mid hmid
  have hsent : mid.trace = state.trace ++
      (logins ++ [ApiEvent.sent .mutation (uploadPath node storage) outcome]).map .api := by
    rw [hmid, PxClient.recorded_transport]
    simp [PxClient.transport, ClientState.note]
  have hrecorded {last : ClientState} {text : String} {result : Except AuditFault RawAuditRow}
      (hlast : last.trace = mid.trace ++ [.outcome ((call.auditCtx client).entry text) result]) :
      CallTrace client call cache last.trace :=
    hfinal last (.inr ⟨hauth, .of_last hsent hlast
      (iff_of_false (by simp) (ApiClient.not_barred_of_not_authFails hauth))⟩)
  cases outcome with
  | error e => exact PxClient.recordOutcome_seq fun _ _ hlast => Ends.throw (hrecorded hlast)
  | ok response =>
    simp only
    split
    · refine PxClient.recordOutcome_seq fun _ _ hlast => ?_
      exact Ends.liftMapError (fun _ _ => hrecorded hlast) fun _ _ => hrecorded hlast
    · exact PxClient.recordOutcome_seq fun _ _ hlast => Ends.throw (hrecorded hlast)

theorem callTrace_cases (parse : HttpResponse → Except String α) :
    CallTrace client call cache (callTrace client parse call cache) := by
  have htrace : Ends (call.perform client parse) { trace := [], cache }
      (fun _ final => CallTrace client call cache final.trace)
      (fun _ final => CallTrace client call cache final.trace) := by
    cases hcall : call with
    | post | put | delete => exact mutate_trace rfl rfl trivial
    | upload node storage file contentType remoteFilename => exact upload_trace rfl
  exact Ends.final (fun final : ClientState => CallTrace client call cache final.trace) htrace

/-- The locks that govern a profile: the fleet's and its own. -/
def PxClient.governing (client : PxClient) : List LockFile :=
  (none :: (client.profileName.map some).toList).map fun scope =>
    client.locks (freezePathFor client.freezeEnv scope)

/-- The event is a gate's refusal. -/
def ClientEvent.Refuses : ClientEvent → Prop
  | .readOnly found => found = true
  | .freezeChecked result => ∃ refusal, result = .error refusal
  | .writeAhead _ result => ∃ fault, result = .error fault
  | .api _ | .outcome _ _ => False

def ClientEvent.isOutcome : ClientEvent → Bool
  | .outcome _ _ => true
  | _ => false

/-- What the gates promise of a call: requests leave behind all three of them
only, a refusal is the end, and a committed write-ahead record is followed by
one attempt to record the outcome. -/
structure Gated (client : PxClient) (call : GatewayCall) (trace : List ClientEvent) : Prop where
  guarded : ∀ before event after, trace = before ++ .api event :: after →
    (∀ lock ∈ client.governing, ¬lock.Blocks client.toml client.now) ∧
    ∃ row, Committed client.mac client.sentView
        ((call.auditCtx client).entry "sent") row ∧
      [.readOnly false, .freezeChecked (.ok ()),
        .writeAhead ((call.auditCtx client).entry "sent") (.ok row)].Sublist
          before
  halted : ∀ before event after, trace = before ++ event :: after → event.Refuses → after = []
  accounted : ∀ before entry row after,
    trace = before ++ .writeAhead entry (.ok row) :: after →
    ∃ outcome result, after.filter ClientEvent.isOutcome =
      [.outcome ((call.auditCtx client).entry outcome) result]

theorem not_stops_of_freezeResult (hopen : client.freezeResult = .ok ()) :
    ∀ lock ∈ client.governing, ¬lock.Stops client.toml client.now := by
  have hpass : ∀ path : LockPath, ∀ done : Unit,
      checkNotFrozenAt client.toml client.now path (client.locks path) =
        .ok done → ¬(client.locks path).Stops client.toml client.now := by
    intro path done hpath hstops
    obtain ⟨refusal, hrefusal⟩ := (refuses_checkNotFrozenAt path).mpr hstops
    simp [hpath] at hrefusal
  unfold PxClient.freezeResult checkNotFrozenFor lockPathsFor checkNotFrozenPaths at hopen
  obtain ⟨done, hfleet, hown⟩ := RustStr.bind_eq_ok hopen
  unfold PxClient.governing
  cases hprofile : client.profileName with
  | none =>
    intro lock hlock
    obtain rfl : lock = _ := by simpa using hlock
    exact hpass _ done hfleet
  | some name =>
    rw [hprofile] at hown
    intro lock hlock
    have hcases : lock = client.locks (freezePathFor client.freezeEnv none) ∨
        lock = client.locks (freezePathFor client.freezeEnv (some name)) := by simpa using hlock
    rcases hcases with rfl | rfl
    · exact hpass _ done hfleet
    · exact hpass _ () hown

/-- If the check passes, only a lock it does not see can stand in the way. -/
theorem clear_iff_of_freezeResult (hopen : client.freezeResult = .ok ()) :
    (∀ lock ∈ client.governing, ¬lock.Blocks client.toml client.now) ↔
      LockFile.unseen ∉ client.governing := by
  constructor
  · exact fun hclear hunseen => hclear _ hunseen (Or.inr rfl)
  · rintro hseen lock hlock (hstops | rfl)
    · exact not_stops_of_freezeResult hopen lock hlock hstops
    · exact hseen hlock

theorem refused_gated (hrefused : client.Refused (call.auditCtx client) cache trace) :
    Gated client call trace := by
  constructor
  · intro before event after htrace
    have hmem : ClientEvent.api event ∈ trace := by simp [htrace]
    cases hrefused <;> simp at hmem
  · intro before event after htrace hrefuses
    cases hrefused with
    | readOnly => exact StepSystem.split_last [] htrace (by simp)
    | frozen =>
      refine StepSystem.split_last [_] htrace ?_
      simp only [mem_singleton]
      rintro rfl
      exact absurd hrefuses (by simp [ClientEvent.Refuses])
    | unlogged =>
      refine StepSystem.split_last [_, _] htrace ?_
      simp only [mem_cons, not_mem_nil, or_false]
      rintro (rfl | rfl)
      · exact absurd hrefuses (by simp [ClientEvent.Refuses])
      · obtain ⟨refusal, hrefusal⟩ := hrefuses
        cases hrefusal
  · intro before entry row after htrace
    have hmem : ClientEvent.writeAhead entry (.ok row) ∈ trace := by simp [htrace]
    cases hrefused <;> simp at hmem

theorem PxClient.Passes.not_refused
    (hpasses : client.Passes ctx cache row) :
    ¬client.Refused ctx cache trace := by
  obtain ⟨hwritable, hopen, hrow⟩ := hpasses
  intro hrefused
  cases hrefused with
  | readOnly hreadOnly => simp [hwritable] at hreadOnly
  | frozen _ hfrozen => simp [hopen] at hfrozen
  | unlogged _ _ hfault => simp [hrow] at hfault

/-- The events that come behind the gates. -/
def ClientEvent.Late : ClientEvent → Prop
  | .api _ | .outcome _ _ => True
  | .readOnly _ | .freezeChecked _ | .writeAhead _ _ => False

theorem not_refuses_of_mem_gates
    {rest : List ClientEvent} (hlate : ∀ event ∈ rest, event.Late)
    {event : ClientEvent} (hmem : event ∈ PxClient.gateTrace ctx row ++ rest) :
    ¬event.Refuses := by
  rcases mem_append.mp hmem with hgate | hrest
  · simp only [PxClient.gateTrace, mem_cons, not_mem_nil, or_false] at hgate
    rcases hgate with rfl | rfl | rfl <;> simp [ClientEvent.Refuses]
  · have hevent := hlate event hrest
    cases event with
    | api _ | outcome _ _ => exact id
    | readOnly _ | freezeChecked _ | writeAhead _ _ => exact hevent.elim

/-- Behind the gates, the promise is one about the rest of the trace. -/
theorem gated_passed_iff {rest : List ClientEvent}
    (hpasses : client.Passes (call.auditCtx client) cache row)
    (hlate : ∀ event ∈ rest, event.Late) :
    Gated client call (PxClient.gateTrace (call.auditCtx client) row ++ rest) ↔
      (LockFile.unseen ∈ client.governing → ∀ event, .api event ∉ rest) ∧
      ∃ outcome result, rest.filter ClientEvent.isOutcome =
        [.outcome ((call.auditCtx client).entry outcome) result] := by
  have hclear := clear_iff_of_freezeResult hpasses.2.1
  constructor
  · intro hgated
    constructor
    · intro hunseen event hmem
      obtain ⟨before, after, hrest⟩ := append_of_mem hmem
      have hguarded := hgated.guarded
        (PxClient.gateTrace (call.auditCtx client) row ++ before) event after
        (by rw [hrest, append_assoc])
      exact hclear.mp hguarded.1 hunseen
    · exact hgated.accounted [.readOnly false, .freezeChecked (.ok ())] _ row rest rfl
  · rintro ⟨hunsent, hrecorded⟩
    constructor
    · intro before event after htrace
      obtain ⟨middle, hbefore, hrest⟩ := StepSystem.split_behind _ htrace
        (by simp [PxClient.gateTrace])
      refine ⟨hclear.mpr fun hunseen => ?_, row, logMutationSent_eq_ok hpasses.2.2, ?_⟩
      · exact hunsent hunseen event (by simp [hrest])
      · rw [hbefore]
        exact sublist_append_left _ middle
    · intro before event after htrace hrefuses
      have hmem : event ∈ PxClient.gateTrace (call.auditCtx client) row ++ rest := by simp [htrace]
      exact absurd hrefuses (not_refuses_of_mem_gates hlate hmem)
    · intro before entry committed after htrace
      -- The write-ahead record is the third event and there is no other.
      obtain ⟨middle, -, hrest⟩ := StepSystem.split_behind
        [ClientEvent.readOnly false, .freezeChecked (.ok ())] htrace (by simp)
      cases middle with
      | nil =>
        obtain ⟨-, rfl⟩ := cons_eq_cons.mp hrest
        exact hrecorded
      | cons head tail =>
        have htail : rest = tail ++ .writeAhead entry (.ok committed) :: after :=
          (cons_eq_cons.mp hrest).2
        have hmem : ClientEvent.writeAhead entry (.ok committed) ∈ rest := by
          rw [htail]
          exact mem_append_right tail mem_cons_self
        exact (hlate _ hmem).elim

theorem late_map_api (sends : List ApiEvent) : ∀ event ∈ sends.map ClientEvent.api, event.Late := by
  simp [ClientEvent.Late]

theorem filter_isOutcome_map_api (sends : List ApiEvent) :
    (sends.map ClientEvent.api).filter ClientEvent.isOutcome = [] := by simp [ClientEvent.isOutcome]

theorem late_recordedTail (sends later : List ApiEvent) (entry : LogEntry)
    (result : Except AuditFault RawAuditRow) :
    ∀ event ∈ PxClient.recordedTail sends later entry result, event.Late := by
  intro event hmem
  rcases mem_append.mp hmem with hsend | hmem
  · exact late_map_api sends event hsend
  · rcases mem_cons.mp hmem with rfl | hlater
    · trivial
    · exact late_map_api later event hlater

theorem filter_isOutcome_recordedTail (sends later : List ApiEvent)
    (entry : LogEntry) (result : Except AuditFault RawAuditRow) :
    (PxClient.recordedTail sends later entry result).filter
      ClientEvent.isOutcome = [.outcome entry result] := by
  rw [PxClient.recordedTail, filter_append, filter_isOutcome_map_api,
    filter_cons_of_pos rfl, filter_isOutcome_map_api]
  rfl

theorem api_notMem_recordedTail {sends later : List ApiEvent}
    {entry : LogEntry} {result : Except AuditFault RawAuditRow}
    (hlater : sends = [] → later = []) :
    (∀ event, .api event ∉ PxClient.recordedTail sends later entry result) ↔ sends = [] := by
  constructor
  · intro hnone
    cases sends with
    | nil => rfl
    | cons event rest => exact absurd (by simp [PxClient.recordedTail]) (hnone event)
  · intro hsends event
    simp [PxClient.recordedTail, hsends, hlater hsends]

/-- A call keeps what its gates promise, exactly if it does not pass them past
a lock that is there but not seen, and is not an upload that passes them and
then cannot authenticate. -/
theorem gated_iff_seen_and_recorded (client : PxClient)
    (parse : HttpResponse → Except String α) (call : GatewayCall)
    (cache : Option CachedLogger) :
    Gated client call (callTrace client parse call cache) ↔
      ¬(call.Opens ∧ (∃ row, client.Passes (call.auditCtx client) cache row) ∧
        ((LockFile.unseen ∈ client.governing ∧ ¬call.Unsent client) ∨ call.Lost client)) := by
  have htrace : CallTrace client call cache
      (callTrace client parse call cache) := callTrace_cases parse
  generalize callTrace client parse call cache = trace at htrace
  cases htrace with
  | unopened hopens => refine iff_of_true ⟨?_, ?_, ?_⟩ fun hslips => hopens hslips.1 <;> simp
  | refused hopens hrefused =>
    refine iff_of_true (refused_gated hrefused) ?_
    rintro ⟨-, ⟨row, hpasses⟩, -⟩
    exact hpasses.not_refused hrefused
  | lost hopens hpasses hlost sends hsends =>
    rw [gated_passed_iff hpasses (late_map_api sends), filter_isOutcome_map_api]
    refine iff_of_false ?_ fun hkept => hkept ⟨hopens, ⟨_, hpasses⟩, Or.inr hlost⟩
    simp
  | accounted hopens hpasses hkept haccounted =>
    obtain ⟨sends, later, outcome, result, rfl, hsends, hlater⟩ := haccounted
    rw [gated_passed_iff hpasses (late_recordedTail _ _ _ _),
      filter_isOutcome_recordedTail, api_notMem_recordedTail hlater, hsends]
    constructor
    · rintro ⟨hunsent, -⟩ ⟨-, -, ⟨hunseen, hsent⟩ | hlost⟩
      · exact hsent (hunsent hunseen)
      · exact hkept hlost
    · intro hslips
      refine ⟨fun hunseen => ?_, outcome, result, rfl⟩
      by_contra hsent
      exact hslips ⟨hopens, ⟨_, hpasses⟩, Or.inl ⟨hunseen, hsent⟩⟩

end Gates

namespace GatewayWitness

def auditKey : Key := List.replicate 32 7

/-- An audit directory in order, with an empty log. -/
def auditView : AuditView :=
  { paths := .ok ()
    keyDir := fun name => if name = "audit.key" then some (newKeyFile auditKey) else none
    dbExists := true, openAt := .ok auditKey, rows := .ok [], secs := 1747700000
    commit := fun _ => .ok () }

/-- A client of the profile `prod` with a password and an expired ticket. -/
def prodClient (locks : LockFiles) (resolvePassword : Except String Unit) : PxClient :=
  { profileName := some "prod", readOnly := false, freezeEnv := FreezeWitness.hostEnv
    toml := FreezeWitness.prodToml, now := 1747700001
    locks
    mac := transcriptMac, keyName := "audit.key", operatorLabel := "ops@bastion"
    texts := { scrubSecrets := id, renderObject := fun _ => "\x7b\x7d" }
    sentView := auditView, outcomeView := auditView
    api :=
      { maxAttempts := 4, auth := .password, ticketEnds := fun _ => true
        resolvePassword := fun _ => resolvePassword
        login := fun _ => .ok ()
        send := fun _ _ _ => .ok ⟨200, none, "UPID"⟩
        record := fun _ log => log }
    replies :=
      { statusText := toString, pveMessage := id, parseNodes := fun _ => .error "none" } }

def stopCall : GatewayCall := .post "/nodes/pve1/qemu/100/status/stop" []

def isoUpload : GatewayCall :=
  .upload "pve1" "local" ⟨"/tmp/a.iso", some "a.iso", .ok ()⟩ "iso" none

def isApi : ClientEvent → Bool
  | .api _ => true
  | _ => false

/-- The trace ends with a committed write-ahead record. -/
def endsSent : List ClientEvent → Bool
  | [_, _, .writeAhead _ (.ok _)] => true
  | _ => false

theorem stopCall_sent : (callTrace (prodClient (fun _ => .unseen) (.ok ())) .ok stopCall
    none).any isApi = true := by decide +kernel

theorem isoUpload_endsSent :
    endsSent (callTrace (prodClient (fun _ => .absent) (.error "keyring locked"))
      .ok isoUpload none) = true := by decide +kernel

/-- A stop goes out past a lock that cannot be seen, and an upload whose
password cannot be resolved leaves its write-ahead record alone. -/
theorem unseen_lock_and_lost_upload :
    ¬Gated (prodClient (fun _ => .unseen) (.ok ())) stopCall
      (callTrace (prodClient (fun _ => .unseen) (.ok ())) .ok stopCall none) ∧
    ¬Gated (prodClient (fun _ => .absent) (.error "keyring locked")) isoUpload
      (callTrace (prodClient (fun _ => .absent) (.error "keyring locked")) .ok isoUpload none) := by
  constructor
  · intro hgated
    obtain ⟨event, hmem, hapi⟩ := any_eq_true.mp stopCall_sent
    cases event with
    | api event =>
      obtain ⟨before, after, htrace⟩ := append_of_mem hmem
      exact (hgated.guarded before event after htrace).1 .unseen mem_cons_self (Or.inr rfl)
    | readOnly _ | freezeChecked _ | writeAhead _ _ | outcome _ _ => cases hapi
  · intro hgated
    have hends := isoUpload_endsSent
    unfold endsSent at hends
    split at hends
    next first second entry row htrace =>
      obtain ⟨outcome, result, hnone⟩ := hgated.accounted [first, second] entry row [] htrace
      cases hnone
    next => cases hends

end GatewayWitness

end Proxxx
