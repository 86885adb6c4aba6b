/-
Sending one request to the cluster: which answers are retried, and the loop
that carries two budgets over them, the attempts and one renewal of the
authentication.  What the loop may lean on for a mutation is that an answer it
retries comes from a request that was not carried out.
-/
import Proxxx.FaultProgram
import Proxxx.RustStr

namespace Proxxx

open FaultProgram List

inductive RequestIdempotency where
  | idempotent
  | mutation
deriving Repr, DecidableEq

structure HttpResponse where
  status : Nat
  retryAfter : Option String
  body : String
deriving Repr, DecidableEq

/-- What is known of a request that got no answer. -/
structure TransportError where
  isConnect : Bool
  isTimeout : Bool
  isTlsOrCert : Bool
  /-- The outermost message, and the messages of all causes. -/
  display : String
  chain : String
deriving Repr, DecidableEq

abbrev SendOutcome := Except TransportError HttpResponse

section Classification

def isRetryableStatus (status : Nat) : Bool :=
  status == 503 || status == 429 || status == 502 || status == 504

def shouldRetryStatus (idempotency : RequestIdempotency) (status : Nat)
    (hasRetryAfter : Bool) : Bool :=
  match idempotency with
  | .idempotent => isRetryableStatus status
  | .mutation =>
    if status = 429 then true
    else if status = 503 then hasRetryAfter
    else false

def shouldRetryErrorFlags (idempotency : RequestIdempotency)
    (isConnect isTimeout isTlsOrCert : Bool) : Bool :=
  if isTlsOrCert then false
  else
    match idempotency with
    | .idempotent => isTimeout || isConnect
    | .mutation => isConnect && !isTimeout

def shouldRetryResponse (idempotency : RequestIdempotency) (response : HttpResponse) : Bool :=
  shouldRetryStatus idempotency response.status response.retryAfter.isSome

def shouldRetryReqwestError (idempotency : RequestIdempotency) (error : TransportError) : Bool :=
  shouldRetryErrorFlags idempotency error.isConnect error.isTimeout error.isTlsOrCert

/-- The path holds a relative segment, seen through the usual encodings. -/
@[irreducible]
def pathTraverses (path : String) : Bool :=
  let normalised := RustStr.replace
    (RustStr.replace (path.map Char.toLower) "%2e" ".") "%2f" "/"
  let segments := normalised.toList.splitOnP fun c => c == '/' || c == '?' || c == '&' || c == '='
  segments.any fun segment => segment == ['.', '.'] || segment == ['.']

end Classification

inductive SendError where
  | relativeSegment (path : String)
  | auth (reason : String)
  | transport (path : String) (error : TransportError)
      (idempotency : RequestIdempotency)
deriving Repr, DecidableEq

def SendError.text : SendError → String
  | .relativeSegment path =>
    s!"refusing request path containing a relative segment: {repr path} — "
      ++ "a path component was built from an unencoded caller-supplied value"
  | .auth reason => reason
  | .transport path error idempotency =>
    let context := s!"transport error: request to {path} failed: "
    if idempotency = .mutation ∧ error.isTimeout then
      context ++ error.chain ++ " (mutation was not retried after timeout; "
        ++ "PVE may still have executed it — check `proxxx tasks` or the PVE "
        ++ "task log before retrying)"
    else context ++ error.chain

/-- What leaves the process, with its answer. -/
inductive ApiEvent where
  | login (result : Except String Unit)
  | sent (idempotency : RequestIdempotency) (path : String)
      (outcome : SendOutcome)
deriving DecidableEq

inductive AuthMethod where
  | token
  | password
deriving Repr, DecidableEq

/-- A client and everything that answers it.  The answers may depend on all
that happened before. -/
structure ApiClient (σ : Type) where
  maxAttempts : Nat
  auth : AuthMethod
  /-- The ticket ends within two minutes. -/
  ticketEnds : σ → Bool
  resolvePassword : σ → Except String Unit
  login : σ → Except String Unit
  send : RequestIdempotency → String → σ → SendOutcome
  record : ApiEvent → σ → σ

namespace ApiClient

abbrev Api (σ : Type) := Program σ SendError

variable {σ : Type} (client : ApiClient σ)

def needsRefresh (state : σ) : Bool :=
  match client.auth with
  | .token => false
  | .password => client.ticketEnds state

def loginAgain : Api σ Unit := do
  let state ← get
  liftResult ((client.resolvePassword state).mapError .auth)
  let result := client.login state
  modify (client.record (.login result))
  liftResult (result.mapError .auth)

def ensureAuth : Api σ Unit := do
  let state ← get
  if client.needsRefresh state then client.loginAgain

def forceReauth : Api σ Unit :=
  match client.auth with
  | .token =>
    throw (.error (.auth "token auth rejected by server (401); secret may be wrong"))
  | .password => client.loginAgain

def sendOnce (idempotency : RequestIdempotency) (path : String) : Api σ SendOutcome := do
  let state ← get
  let outcome := client.send idempotency path state
  modify (client.record (.sent idempotency path outcome))
  return outcome

/-- The loop of `send_with_retry` after `attempt` attempts. -/
def sendLoop (idempotency : RequestIdempotency) (path : String)
    (attempt : Nat) (authRetryDone : Bool) : Api σ HttpResponse := do
  client.ensureAuth
  let outcome ← client.sendOnce idempotency path
  match outcome with
  | .ok response =>
    if response.status = 401 ∧ authRetryDone = false ∧ 1 < client.maxAttempts then
      let renewed ← onError (do client.forceReauth; return true)
        fun _ => return false
      if renewed then sendLoop idempotency path (attempt + 1) true
      else return response
    else if shouldRetryResponse idempotency response ∧ attempt + 1 < client.maxAttempts then
      sendLoop idempotency path (attempt + 1) authRetryDone
    else return response
  | .error error =>
    if shouldRetryReqwestError idempotency error ∧ attempt + 1 < client.maxAttempts then
      sendLoop idempotency path (attempt + 1) authRetryDone
    else throw (.error (.transport path error idempotency))
termination_by (client.maxAttempts - attempt) + (if authRetryDone then 0 else 1)
decreasing_by
  · simp_all
    omega
  · omega
  · omega

def sendWithRetry (idempotency : RequestIdempotency) (path : String) : Api σ HttpResponse := do
  ensure (!pathTraverses path) (.relativeSegment path)
  client.sendLoop idempotency path 0 false

/-- Logging in again goes wrong. -/
def LoginFails (client : ApiClient σ) (state : σ) : Prop :=
  (∃ e, client.resolvePassword state = .error e) ∨ ∃ e, client.login state = .error e

/-- The authentication is due for renewal and cannot be renewed. -/
def AuthFails (client : ApiClient σ) (state : σ) : Prop :=
  client.needsRefresh state = true ∧ client.LoginFails state

/-- The authentication is due, and there is no password to log in with. -/
def Barred (client : ApiClient σ) (state : σ) : Prop :=
  client.needsRefresh state = true ∧ ∃ e, client.resolvePassword state = .error e

/-- Nothing has left the process since `start` but at most one login. -/
def Renewed (client : ApiClient σ) (start final : σ) : Prop :=
  final = start ∨ ∃ result, final = client.record (.login result) start

section Rules

variable {client : ApiClient σ} {idempotency : RequestIdempotency}
  {path : String} {state : σ}

theorem loginAgain_ends : Ends client.loginAgain state
    (fun _ final => client.Renewed state final ∧ ¬client.LoginFails state)
    (fun halt final => halt ≠ .stopped ∧ client.LoginFails state ∧
      ((final = state ∧ ∃ e, client.resolvePassword state = .error e) ∨
        (∃ result, final = client.record (.login result) state) ∧
          ¬∃ e, client.resolvePassword state = .error e)) := by
  refine Ends.seq (Ends.get ?_)
  refine Ends.seq (Ends.liftMapError (fun done hpassword => ?_)
    fun e herror => ⟨nofun, Or.inl ⟨e, herror⟩, Or.inl ⟨rfl, e, herror⟩⟩)
  refine Ends.seq (Ends.modify (Ends.liftMapError (fun done hlogin => ⟨Or.inr ⟨_, rfl⟩, ?_⟩)
    fun e herror => ⟨nofun, Or.inr ⟨e, herror⟩, Or.inr ⟨⟨_, rfl⟩, ?_⟩⟩))
  · simp [LoginFails, hpassword, hlogin]
  · simp [hpassword]

theorem ensureAuth_ends : Ends client.ensureAuth state
    (fun _ final => client.Renewed state final ∧ ¬client.AuthFails state)
    (fun halt final => halt ≠ .stopped ∧ client.AuthFails state ∧
      ((final = state ∧ client.Barred state) ∨
        (∃ result, final = client.record (.login result) state) ∧ ¬client.Barred state)) := by
  refine Ends.seq (Ends.get ?_)
  split
  next hneeds =>
    refine loginAgain_ends.imp ?_ ?_
    · exact fun _ _ hdone => ⟨hdone.1, fun hfails => hdone.2 hfails.2⟩
    · rintro _ final ⟨hgoes, hfails, hleft⟩
      refine ⟨hgoes, ⟨hneeds, hfails⟩, hleft.imp ?_ ?_⟩
      · exact fun hunsent => ⟨hunsent.1, hneeds, hunsent.2⟩
      · exact fun hsent => ⟨hsent.1, fun hbarred => hsent.2 hbarred.2⟩
  next hfresh => exact Ends.pure ⟨Or.inl rfl, fun hfails => hfresh hfails.1⟩

theorem forceReauth_ends : Ends client.forceReauth state (fun _ => client.Renewed state)
    (fun halt final => halt ≠ .stopped ∧ client.Renewed state final) := by
  unfold forceReauth
  split
  · exact Ends.throw ⟨nofun, Or.inl rfl⟩
  · refine loginAgain_ends.imp (fun _ _ => And.left) ?_
    rintro _ final ⟨hgoes, -, hleft⟩
    exact ⟨hgoes, hleft.imp And.left And.left⟩

/-- The renewal answers whether it went well. -/
theorem renewal_ends : Ends (onError (do client.forceReauth; return true)
      fun _ => return false : Api σ Bool) state
    (fun _ => client.Renewed state) (fun _ _ => False) := by
  refine Ends.onError (fun _ => client.Renewed state)
    (Ends.seq (forceReauth_ends.imp (fun _ _ hmid => Ends.pure hmid) ?_))
    fun _ _ hmid => Ends.pure hmid
  intro halt final hfinal
  cases halt with
  | error e => exact hfinal.2
  | stopped => exact hfinal.1 rfl

variable {Halted : Halt SendError → σ → Prop}

theorem sendOnce_ends : Ends (client.sendOnce idempotency path) state (fun outcome final =>
      final = client.record (.sent idempotency path outcome) state)
    Halted := by
  exact Ends.seq (Ends.get (Ends.seq (Ends.modify (Ends.pure rfl))))

/-- The state after the events have been recorded in their order. -/
def recorded (client : ApiClient σ) (events : List ApiEvent) (state : σ) : σ :=
  events.foldl (fun state event => client.record event state) state

/-- Requests and logins have left the process, or none if `unsent` holds. -/
def Leaves (client : ApiClient σ) (unsent : Prop) (start final : σ) : Prop :=
  ∃ events, final = client.recorded events start ∧ (events = [] ↔ unsent)

variable {final : σ}

theorem Renewed.recorded (hrenewed : client.Renewed state final) :
    ∃ events, final = client.recorded events state := by
  rcases hrenewed with rfl | ⟨result, rfl⟩
  · exact ⟨[], rfl⟩
  · exact ⟨[.login result], rfl⟩

theorem recorded_append (first second : List ApiEvent) (state : σ) :
    client.recorded (first ++ second) state =
      client.recorded second (client.recorded first state) := by simp [recorded]

theorem Leaves.recorded {unsent : Prop} (hleaves : client.Leaves unsent state final) :
    ∃ events, final = client.recorded events state := by
  obtain ⟨events, hfinal, -⟩ := hleaves
  exact ⟨events, hfinal⟩

theorem Leaves.behind {unsent : Prop} {first : List ApiEvent}
    (hleaves : client.Leaves unsent (client.recorded first state) final) :
    ∃ events, final = client.recorded events state := by
  obtain ⟨events, hfinal, -⟩ := hleaves
  exact ⟨first ++ events, hfinal.trans (recorded_append _ _ _).symm⟩

theorem ensureAuth_leaves (hleft : (final = state ∧ client.Barred state) ∨
      (∃ result, final = client.record (.login result) state) ∧ ¬client.Barred state) :
    client.Leaves (client.Barred state) state final := by
  rcases hleft with ⟨rfl, hbarred⟩ | ⟨⟨result, rfl⟩, hsent⟩
  · exact ⟨[], rfl, iff_of_true rfl hbarred⟩
  · exact ⟨[.login result], rfl, iff_of_false (by simp) hsent⟩

theorem not_barred_of_not_authFails (hauth : ¬client.AuthFails state) : ¬client.Barred state :=
  fun hbarred => hauth ⟨hbarred.1, Or.inl hbarred.2⟩

/-- However the loop ends, a request has left, or a login, unless there was no
password to log in with before the first. -/
theorem sendLoop_leaves (attempt : Nat) (authRetryDone : Bool) (state : σ) :
    Ends (client.sendLoop idempotency path attempt authRetryDone) state
      (fun _ final => ¬client.Barred state ∧ client.Leaves (client.Barred state) state final)
      (fun halt final => halt ≠ .stopped ∧ client.Leaves (client.Barred state) state final) := by
  induction hrounds : (client.maxAttempts - attempt) +
      (if authRetryDone then 0 else 1) using Nat.strong_induction_on
      generalizing attempt authRetryDone state with
  | _ rounds ih =>
  rw [sendLoop]
  refine Ends.seq (ensureAuth_ends.imp ?_
    fun _ _ hfails => ⟨hfails.1, ensureAuth_leaves hfails.2.2⟩)
  rintro _ _ ⟨hrenewed, hauth⟩
  obtain ⟨logins, rfl⟩ := hrenewed.recorded
  have hbarred := not_barred_of_not_authFails hauth
  refine Ends.seq (sendOnce_ends.imp ?_ fun _ _ => id)
  intro outcome sent hsent
  -- Whatever is recorded from here on comes behind the request.
  have hlater : ∀ final, (∃ later, final = client.recorded later sent) →
      client.Leaves (client.Barred state) state final := by
    rintro _ ⟨later, rfl⟩
    rw [hsent]
    refine ⟨logins ++ .sent idempotency path outcome :: later, ?_, iff_of_false (by simp) hbarred⟩
    rw [recorded_append]
    rfl
  refine Ends.imp ?_ (fun _ final hfinal => ⟨hbarred, hlater final hfinal⟩)
    fun _ final (hfinal : _ ∧ _) => ⟨hfinal.1, hlater final hfinal.2⟩
  cases outcome with
  | ok response =>
    simp only
    split
    next hrenew =>
      obtain ⟨-, hdone, -⟩ := hrenew
      refine Ends.seq (renewal_ends.imp ?_ fun _ _ => False.elim)
      intro renewed after hrenewed
      obtain ⟨renewal, rfl⟩ := hrenewed.recorded
      split
      · have hless : (client.maxAttempts - (attempt + 1)) + 0 < rounds := by
          rw [hdone] at hrounds
          simp only [Bool.false_eq_true, if_false] at hrounds
          omega
        refine (ih _ hless (attempt + 1) true _ rfl).imp ?_ ?_
        · exact fun _ _ hdone => hdone.2.behind
        · exact fun _ _ hfails => ⟨hfails.1, hfails.2.behind⟩
      · exact Ends.pure ⟨renewal, rfl⟩
    next =>
      split
      next hretry =>
        refine (ih _ (by omega) (attempt + 1) authRetryDone _ rfl).imp ?_ ?_
        · exact fun _ _ hdone => hdone.2.recorded
        · exact fun _ _ hfails => ⟨hfails.1, hfails.2.recorded⟩
      next => exact Ends.pure ⟨[], rfl⟩
  | error error =>
    simp only
    split
    next hretry =>
      refine (ih _ (by omega) (attempt + 1) authRetryDone _ rfl).imp ?_ ?_
      · exact fun _ _ hdone => hdone.2.recorded
      · exact fun _ _ hfails => ⟨hfails.1, hfails.2.recorded⟩
    next => exact Ends.throw ⟨nofun, [], rfl⟩

theorem sendWithRetry_ends {Done : HttpResponse → σ → Prop}
    (hrefused : pathTraverses path = true → Halted (.error (.relativeSegment path)) state)
    (hloop : pathTraverses path = false →
      Ends (client.sendLoop idempotency path 0 false) state Done Halted) :
    Ends (client.sendWithRetry idempotency path) state Done Halted := by
  unfold sendWithRetry
  cases htraverses : pathTraverses path with
  | true => exact hrefused htraverses
  | false => exact hloop htraverses

/-- Nothing leaves the process for the request, not even a login. -/
def Unsent (client : ApiClient σ) (path : String) (state : σ) : Prop :=
  pathTraverses path = true ∨ client.Barred state

theorem sendWithRetry_leaves (path : String) (state : σ) :
    Ends (client.sendWithRetry idempotency path) state (fun _ final => ¬client.Unsent path state ∧
        client.Leaves (client.Unsent path state) state final)
      (fun halt final => halt ≠ .stopped ∧
        client.Leaves (client.Unsent path state) state final) := by
  refine sendWithRetry_ends (fun hpath => ⟨nofun, [], rfl, iff_of_true rfl (Or.inl hpath)⟩) ?_
  intro hpath
  have hunsent : client.Unsent path state = client.Barred state := by simp [Unsent, hpath]
  rw [hunsent]
  exact sendLoop_leaves 0 false state

end Rules

end ApiClient

abbrev ApiLog := List ApiEvent

/-- The client that keeps a log of what left the process. -/
def ApiClient.logged (client : ApiClient ApiLog) : ApiClient ApiLog :=
  { client with record := fun event log => log ++ [event] }

/-- How the requests of the log ended; logins are not among them. -/
def outcomes (log : ApiLog) : List SendOutcome :=
  log.filterMap fun
    | .sent _ _ outcome => some outcome
    | .login _ => none

/-- The request was turned away before it was carried out. -/
def Unprocessed : SendOutcome → Prop
  | .ok response =>
    response.status = 401 ∨ response.status = 429 ∨
      (response.status = 503 ∧ response.retryAfter.isSome = true)
  | .error error =>
    error.isConnect = true ∧ error.isTimeout = false ∧ error.isTlsOrCert = false

section Retries

variable {client : ApiClient ApiLog} {path : String} {log : ApiLog}

theorem outcomes_concat_login (log : ApiLog) (result : Except String Unit) :
    outcomes (log ++ [.login result]) = outcomes log := by simp [outcomes]

theorem unprocessed_of_shouldRetryResponse {response : HttpResponse}
    (hretry : shouldRetryResponse .mutation response = true) :
    Unprocessed (.ok response) := by
  simp only [shouldRetryResponse, shouldRetryStatus] at hretry
  split at hretry
  next hstatus => exact Or.inr (Or.inl hstatus)
  next =>
    split at hretry
    next hstatus => exact Or.inr (Or.inr ⟨hstatus, hretry⟩)
    next => cases hretry

theorem unprocessed_of_shouldRetryReqwestError {error : TransportError}
    (hretry : shouldRetryReqwestError .mutation error = true) :
    Unprocessed (.error error) := by
  simp only [shouldRetryReqwestError, shouldRetryErrorFlags] at hretry
  split at hretry
  next => cases hretry
  next htls =>
    simp only [Bool.and_eq_true, Bool.not_eq_true'] at hretry
    exact ⟨hretry.1, hretry.2, by simpa using htls⟩

variable {final : ApiLog}

theorem outcomes_of_renewed (hrenewed : client.logged.Renewed log final) :
    outcomes final = outcomes log := by
  rcases hrenewed with rfl | ⟨result, rfl⟩
  · rfl
  · exact outcomes_concat_login log result

/-- A request behind a login that may have been renewed. -/
theorem outcomes_of_sent {ready : ApiLog} {outcome : SendOutcome}
    (hrenewed : client.logged.Renewed log ready)
    (hsent : final = client.logged.record (.sent .mutation path outcome) ready) :
    outcomes final = outcomes log ++ [outcome] := by
  rw [← outcomes_of_renewed hrenewed, hsent]
  simp [ApiClient.logged, outcomes]

/-- The log has grown by at most `bound` requests, all but the last of which
were turned away. -/
def Spent (bound : Nat) (log final : ApiLog) : Prop :=
  ∃ sends, outcomes final = outcomes log ++ sends ∧ sends.length ≤ bound ∧
    ∀ outcome ∈ sends.dropLast, Unprocessed outcome

theorem Spent.none {bound : Nat} (hsame : outcomes final = outcomes log) : Spent bound log final :=
  ⟨[], by simpa using hsame, by simp, by simp⟩

theorem Spent.one {bound : Nat} {outcome : SendOutcome} (hbound : 1 ≤ bound)
    (hsent : outcomes final = outcomes log ++ [outcome]) :
    Spent bound log final :=
  ⟨[outcome], hsent, hbound, by simp⟩

/-- A request that was turned away, and what came after it. -/
theorem Spent.after {bound rest : Nat} {mid : ApiLog}
    {outcome : SendOutcome} (houtcome : Unprocessed outcome)
    (hsent : outcomes mid = outcomes log ++ [outcome])
    (hbound : rest + 1 ≤ bound) (hrest : Spent rest mid final) :
    Spent bound log final := by
  obtain ⟨sends, hsends, hlength, hunprocessed⟩ := hrest
  refine ⟨outcome :: sends, by simp [hsends, hsent], ?_, ?_⟩
  · rw [length_cons]
    omega
  intro other hother
  cases sends with
  | nil => simp at hother
  | cons first rest =>
    rcases mem_cons.mp hother with rfl | hlater
    · exact houtcome
    · exact hunprocessed other hlater

/-- The sends that are left after `attempt` attempts: one more renewal, and
the attempts up to the limit. -/
def sendBudget (maxAttempts attempt : Nat) (authRetryDone : Bool) : Nat :=
  max 1 (maxAttempts - attempt) + (if authRetryDone = true ∨ maxAttempts ≤ 1 then 0 else 1)

theorem sendBudget_renew {maxAttempts : Nat} (attempt : Nat) (hmax : 1 < maxAttempts) :
    sendBudget maxAttempts (attempt + 1) true + 1 ≤ sendBudget maxAttempts attempt false := by
  have hmany : ¬maxAttempts ≤ 1 := by omega
  simp only [sendBudget, true_or, if_true, Bool.false_eq_true, hmany, or_self, if_false]
  omega

theorem sendBudget_retry {maxAttempts attempt : Nat} (authRetryDone : Bool)
    (hmore : attempt + 1 < maxAttempts) :
    sendBudget maxAttempts (attempt + 1) authRetryDone + 1 ≤
      sendBudget maxAttempts attempt authRetryDone := by
  unfold sendBudget
  omega

theorem sendLoop_ends (attempt : Nat) (authRetryDone : Bool) (log : ApiLog) :
    Ends (client.logged.sendLoop .mutation path attempt authRetryDone) log
      (fun _ => Spent (sendBudget client.maxAttempts attempt authRetryDone) log)
      (fun _ => Spent (sendBudget client.maxAttempts attempt authRetryDone) log) := by
  -- The loop ends because each round spends the renewal or an attempt.
  induction hrounds : (client.maxAttempts - attempt) +
      (if authRetryDone then 0 else 1) using Nat.strong_induction_on
      generalizing attempt authRetryDone log with
  | _ rounds ih =>
  have hone : 1 ≤ sendBudget client.maxAttempts attempt authRetryDone := by
    unfold sendBudget
    omega
  have hlimit : client.logged.maxAttempts = client.maxAttempts := rfl
  rw [ApiClient.sendLoop, hlimit]
  refine Ends.seq (ApiClient.ensureAuth_ends.imp ?_
    fun _ _ hfails => Spent.none (outcomes_of_renewed (hfails.2.2.imp And.left And.left)))
  intro _ ready hready
  refine Ends.seq (ApiClient.sendOnce_ends.imp ?_ fun _ _ => id)
  intro outcome mid hsent
  have hmid := outcomes_of_sent hready.1 hsent
  cases outcome with
  | ok response =>
    simp only
    split
    next hrenew =>
      -- The renewal is spent; the attempts go on counting.
      obtain ⟨hstatus, hdone, hmax⟩ := hrenew
      have hturned : Unprocessed (.ok response) := Or.inl hstatus
      have hbudget := hdone ▸ sendBudget_renew attempt hmax
      refine Ends.seq (ApiClient.renewal_ends.imp ?_ fun _ _ => False.elim)
      intro renewed after hrenewed
      have hafter := (outcomes_of_renewed hrenewed).trans hmid
      split
      · have hless : (client.maxAttempts - (attempt + 1)) + 0 < rounds := by
          rw [hdone] at hrounds
          simp only [Bool.false_eq_true, if_false] at hrounds
          omega
        refine (ih _ hless (attempt + 1) true after rfl).imp ?_ ?_
        · exact fun _ _ => Spent.after hturned hafter hbudget
        · exact fun _ _ => Spent.after hturned hafter hbudget
      · exact Ends.pure (Spent.one hone hafter)
    next =>
      split
      next hretry =>
        have hturned := unprocessed_of_shouldRetryResponse hretry.1
        have hbudget := sendBudget_retry authRetryDone hretry.2
        refine (ih _ (by omega) (attempt + 1) authRetryDone mid rfl).imp ?_ ?_
        · exact fun _ _ => Spent.after hturned hmid hbudget
        · exact fun _ _ => Spent.after hturned hmid hbudget
      next => exact Ends.pure (Spent.one hone hmid)
  | error error =>
    simp only
    split
    next hretry =>
      have hturned := unprocessed_of_shouldRetryReqwestError hretry.1
      have hbudget := sendBudget_retry authRetryDone hretry.2
      refine (ih _ (by omega) (attempt + 1) authRetryDone mid rfl).imp ?_ ?_
      · exact fun _ _ => Spent.after hturned hmid hbudget
      · exact fun _ _ => Spent.after hturned hmid hbudget
    next => exact Ends.throw (Spent.one hone hmid)

theorem sendLoop_single (hsingle : client.maxAttempts = 1) :
    Ends (client.logged.sendLoop .mutation path 0 false) log (fun _ final => ¬client.AuthFails log ∧
        ∃ outcome, outcomes final = outcomes log ++ [outcome])
      (fun _ final =>
        (client.AuthFails log ∧ outcomes final = outcomes log) ∨
        (¬client.AuthFails log ∧ ∃ outcome, outcomes final = outcomes log ++ [outcome])) := by
  have hlimit : client.logged.maxAttempts = 1 := hsingle
  rw [ApiClient.sendLoop, hlimit]
  refine Ends.seq (ApiClient.ensureAuth_ends.imp ?_ fun _ _ hfails =>
    Or.inl ⟨hfails.2.1, outcomes_of_renewed (hfails.2.2.imp And.left And.left)⟩)
  rintro _ ready ⟨hready, hauth⟩
  refine Ends.seq (ApiClient.sendOnce_ends.imp ?_ fun _ _ => id)
  intro outcome mid hsent
  have hmid := outcomes_of_sent hready hsent
  cases outcome with
  | ok response =>
    simp only [Nat.lt_irrefl, and_false, if_false, Nat.zero_add]
    exact Ends.pure ⟨hauth, _, hmid⟩
  | error error =>
    simp only [Nat.lt_irrefl, and_false, if_false, Nat.zero_add]
    exact Ends.throw (Or.inr ⟨hauth, _, hmid⟩)

theorem sendWithRetry_spent (path : String) (log : ApiLog) :
    Spent (sendBudget client.maxAttempts 0 false) log
      (execute (client.logged.sendWithRetry .mutation path) log).2 := by
  apply Ends.final (Spent (sendBudget client.maxAttempts 0 false) log)
  exact ApiClient.sendWithRetry_ends (fun _ => Spent.none rfl) fun _ => sendLoop_ends 0 false log

/-- The request is refused before anything is sent. -/
def RefusedUnsent (client : ApiClient ApiLog) (path : String) (log : ApiLog) : Prop :=
  pathTraverses path = true ∨ client.AuthFails log

theorem sendWithRetry_single (path : String) (log : ApiLog) (hsingle : client.maxAttempts = 1) :
    outcomes (execute (client.logged.sendWithRetry .mutation path) log).2 =
      outcomes log ↔ RefusedUnsent client path log := by
  apply Ends.final fun final => outcomes final = outcomes log ↔ RefusedUnsent client path log
  refine ApiClient.sendWithRetry_ends (fun hpath => iff_of_true rfl (Or.inl hpath)) ?_
  intro hpath
  have hone : ∀ {final : ApiLog}, ¬client.AuthFails log →
      (∃ outcome, outcomes final = outcomes log ++ [outcome]) →
      (outcomes final = outcomes log ↔ RefusedUnsent client path log) := by
    rintro final hauth ⟨outcome, hfinal⟩
    simp [RefusedUnsent, hpath, hauth, hfinal]
  refine (sendLoop_single hsingle).imp (fun _ _ hdone => hone hdone.1 hdone.2) ?_
  rintro _ final (⟨hauth, hfinal⟩ | ⟨hauth, hfinal⟩)
  · exact iff_of_true hfinal (Or.inr hauth)
  · exact hone hauth hfinal

/-- Whatever the server and the network answer: the loop ends after at most one
send more than the attempts, with a single attempt after one send or, if the
request is refused before that, none; every send but the last was turned away.
So if requests that are turned away are not carried out, at most one is. -/
theorem mutation_sends_bounded (client : ApiClient ApiLog)
    (hattempts : 1 ≤ client.maxAttempts) (path : String) (log : ApiLog) :
    ∃ sends, outcomes (execute (client.logged.sendWithRetry .mutation path) log).2 =
          outcomes log ++ sends ∧
      sends.length ≤ client.maxAttempts + 1 ∧
      (client.maxAttempts = 1 → (RefusedUnsent client path log ∧ sends.length = 0) ∨
        (¬RefusedUnsent client path log ∧ sends.length = 1)) ∧
      (∀ outcome ∈ sends.dropLast, Unprocessed outcome) ∧
      ∀ processed : Fin sends.length → Prop, (∀ i, Unprocessed (sends.get i) → ¬processed i) →
        ∀ i j, processed i → processed j → i = j := by
  have hspent : Spent (sendBudget client.maxAttempts 0 false) log
      (execute (client.logged.sendWithRetry .mutation path) log).2 :=
    sendWithRetry_spent path log
  obtain ⟨sends, hsends, hlength, hturned⟩ := hspent
  refine ⟨sends, hsends, ?_, ?_, hturned, ?_⟩
  · unfold sendBudget at hlength
    split at hlength <;> omega
  · intro hsingle
    have hrefused := sendWithRetry_single path log hsingle
    have hsame : outcomes log ++ sends = outcomes log ↔ sends.length = 0 := by simp
    rw [hsends, hsame] at hrefused
    have hmost : sends.length ≤ 1 := by simpa [sendBudget, hsingle] using hlength
    by_cases hunsent : RefusedUnsent client path log
    · exact Or.inl ⟨hunsent, hrefused.mpr hunsent⟩
    · have hsome := mt hrefused.mp hunsent
      exact Or.inr ⟨hunsent, by omega⟩
  · intro processed hprocessed
    have hlast : ∀ i, processed i → i.val + 1 = sends.length := by
      intro i hi
      by_contra hearly
      have hbound : i.val < sends.dropLast.length := by
        rw [length_dropLast]
        omega
      apply hprocessed i _ hi
      apply hturned
      have hget := getElem_mem hbound
      rwa [getElem_dropLast] at hget
    intro i j hi hj
    have hilast := hlast i hi
    have hjlast := hlast j hj
    exact Fin.ext (by omega)

end Retries

namespace RetryWitness

/-- Three refusals for load, then an expired ticket, then the answer. -/
def busyServer (maxAttempts : Nat) : ApiClient ApiLog :=
  { maxAttempts
    auth := .password
    ticketEnds := fun _ => false
    resolvePassword := fun _ => .ok ()
    login := fun _ => .ok ()
    send := fun _ _ log =>
      if log.length < 3 then .ok ⟨429, none, "busy"⟩
      else if log.length = 3 then .ok ⟨401, none, "expired"⟩
      else .ok ⟨200, none, "UPID"⟩
    record := fun _ log => log }

theorem mutation_sends_bounded_busy :
    (outcomes (execute ((busyServer 4).logged.sendWithRetry .mutation
      "/nodes/pve1/qemu/100/status/stop") []).2).length = 5 ∧
    ∃ sends, outcomes (execute ((busyServer 4).logged.sendWithRetry .mutation
        "/nodes/pve1/qemu/100/status/stop") []).2 = outcomes [] ++ sends ∧
      sends.length ≤ 5 := by
  obtain ⟨sends, hsends, hlength, -⟩ := mutation_sends_bounded (busyServer 4)
    (by decide) "/nodes/pve1/qemu/100/status/stop" []
  exact ⟨by decide +kernel, sends, hsends, hlength⟩

/-- With one attempt, a path with a relative segment is not sent once. -/
theorem relative_path_not_sent : outcomes (execute ((busyServer 1).logged.sendWithRetry .mutation
    "/nodes/pve1/qemu/../lxc") []).2 = [] := by decide +kernel

end RetryWitness

end Proxxx
