/-
An exposed MCP server does nothing for a client that has not shown the token in
force.  The invariant says of every request how far it has come: past the host
check its headers name an allowed host, and past a grant its bearer was the token
of that moment.
-/
import Proxxx.McpHttpServer
import Mathlib.Data.Set.Function

namespace Proxxx

open SerdeJson StepSystem List

/-- The token a client has to show: the one of the command line if there is one,
else the configured one. -/
def tokenInForce (args : ServeHttpArgs) (configToken : Option String) : Option String :=
  match args.cliToken.filter fun token => !isBlank token with
  | some token => some token
  | none => configToken.filter fun token => !isBlank token

/-- There is one `Host`, and it is allowed. -/
def OneAllowedHost (allowed : List String) (headers : HeaderMap) : Prop :=
  ∃ value text, headers.getAll "host" = [value] ∧ value.toStr = some text ∧
    toAsciiLowercase (RustStr.trim text) ∈ allowed

/-- Every `Origin` is allowed. -/
def NoForeignOrigin (allowed : List String) (headers : HeaderMap) : Prop :=
  ∀ value ∈ headers.getAll "origin", ∃ text authority, value.toStr = some text ∧
    originAuthority (RustStr.trim text) = some authority ∧
    toAsciiLowercase authority ∈ allowed

/-- The texts that can be compared in a run: tokens and bearers. -/
def spokenTexts (args : ServeHttpArgs) (configToken : Option String)
    (actions : List ServerAction) : Set String :=
  { text | args.cliToken = some text ∨ configToken = some text ∨
    ServerAction.reload (.ok (some text)) ∈ actions ∨
    ∃ request, ServerAction.arrive request ∈ actions ∧ bearerOf request.headers = text }

/-- The action whose check let this entry through. -/
def ServerEntry.StemsFrom (entry : ServerEntry) (action : ServerAction) : Prop :=
  match entry with
  | .dispatched client _ _ _ => action = .advance client
  | .emitted client grant event data => ∃ item, action = .item client item ∧
      eventEntry client grant item = [.emitted client grant event data]

def ServerEntry.isEvent : ServerEntry → Bool
  | .dispatched _ _ _ _ => false
  | .emitted _ _ _ _ => true

/-- Every event of a stream has a later authorization than the one before it. -/
def EventsRechecked (log : List ServerEntry) : Prop :=
  log.Pairwise fun earlier later =>
    earlier.isEvent = true → later.isEvent = true →
      earlier.client = later.client → earlier.grant.moment < later.grant.moment

/-- The action of the run that the grant was given by, and the configured token
it found. -/
structure Grant.GivenBy (library : HttpLibrary) (args : ServeHttpArgs)
    (start : ServerState) (actions : List ServerAction) (action : ServerAction)
    (grant : Grant) : Prop where
  action_eq : actions[grant.moment]? = some action
  config_eq : ∃ moment, runFrom (serverStep library args) start
      (actions.take grant.moment) = some moment ∧
    moment.configToken = grant.configToken

section Checks

variable {library : HttpLibrary} {args : ServeHttpArgs} {allowed : List String}
  {headers : HeaderMap}

theorem oneAllowedHost_of_checkHost (hok : checkHost allowed headers = .ok ()) :
    OneAllowedHost allowed headers := by
  revert hok
  fun_cases checkHost allowed headers <;> intro hok <;> cases hok
  next value hvalue raw hraw _ _ hallowed =>
    exact ⟨value, raw, hvalue, hraw, by simpa using hallowed⟩

theorem noForeignOrigin_of_checkOrigin (hok : checkOrigin allowed headers = .ok ()) :
    NoForeignOrigin allowed headers := by
  revert hok
  fun_cases checkOrigin allowed headers <;> intro hok <;> cases hok
  next hnone => simp [NoForeignOrigin, hnone]
  next value hvalue raw hraw _ _ hallowed =>
    obtain ⟨authority, hauthority, hmem⟩ := (Option.any_eq_true _ _).mp hallowed
    intro other hother
    rw [hvalue, mem_singleton] at hother
    subst hother
    refine ⟨raw, authority, hraw, hauthority, ?_⟩
    simp only [Bool.and_eq_true, contains_iff_mem] at hmem
    exact hmem.2

theorem foldl_or_eq_zero {pairs : List (UInt8 × UInt8)} {acc : UInt8} :
    pairs.foldl (fun acc pair => acc ||| (pair.1 ^^^ pair.2)) acc = 0 ↔
      acc = 0 ∧ ∀ pair ∈ pairs, pair.1 = pair.2 := by
  induction pairs generalizing acc with
  | nil => simp
  | cons pair rest ih =>
    rw [foldl_cons, ih, UInt8.or_eq_zero_iff, UInt8.xor_eq_zero_iff, forall_mem_cons, and_assoc]

/-- Digests of one length do not differ exactly when they are equal. -/
theorem digestsDiffer_eq_zero {expected got : List UInt8} (hlength : expected.length = got.length) :
    digestsDiffer expected got = 0 ↔ expected = got := by
  unfold digestsDiffer
  rw [foldl_or_eq_zero]
  constructor
  · rintro ⟨-, hpairs⟩
    refine ext_getElem hlength ?_
    intro index hleft hright
    have hindex : index < (expected.zip got).length := by
      simp [hleft, hright]
    simpa using hpairs _ (getElem_mem hindex)
  · rintro rfl
    refine ⟨rfl, ?_⟩
    intro pair hpair
    obtain ⟨index, hindex, rfl⟩ := mem_iff_getElem.mp hpair
    simp

theorem tokenGate_eq_true {expected : Option String} {bearer : String} :
    tokenGate library expected bearer true = true ↔
      ∃ token, (expected.filter fun text => !isBlank text) = some token ∧
        library.sha256 token = library.sha256 bearer := by
  unfold tokenGate
  split
  · rename_i hnone
    simp [hnone]
  · rename_i token htoken
    have hlength : (library.sha256 token).length = (library.sha256 bearer).length := by
      rw [library.length_sha256, library.length_sha256]
    simp [htoken, digestsDiffer_eq_zero hlength]

variable {configToken : Option String}

/-- On an exposed server a request is authorized by the digest of the token in
force, and by nothing else. -/
theorem authOk_eq_true (hexposed : args.requireToken library = true) :
    authOk library args configToken headers = true ↔
      ∃ token, tokenInForce args configToken = some token ∧
        library.sha256 token = library.sha256 (bearerOf headers) := by
  unfold authOk tokenInForce
  dsimp only
  rw [hexposed, tokenGate_eq_true]
  cases hcli : args.cliToken.filter fun token => !isBlank token with
  | none => rfl
  | some token =>
    have hgiven : isBlank token = false := by
      have := (Option.filter_eq_some_iff.mp hcli).2
      simpa using this
    simp [Option.filter, hgiven]

theorem not_blank_tokenInForce {token : String}
    (htoken : tokenInForce args configToken = some token) :
    isBlank token = false := by
  unfold tokenInForce at htoken
  split at htoken
  · rename_i given hgiven
    cases htoken
    simpa using (Option.filter_eq_some_iff.mp hgiven).2
  · simpa using (Option.filter_eq_some_iff.mp htoken).2

end Checks

/-- The request has passed the host and origin check. -/
def RequestStage.isScreened : RequestStage → Bool
  | .received => false
  | .closed => false
  | _ => true

/-- The grant a stage rests on, and the action that gave it. -/
def RequestStage.granted (client : Nat) : RequestStage → Option (Grant × ServerAction)
  | .serving grant _ => some (grant, .advance client)
  | .passed grant item => some (grant, .item client item)
  | _ => none

section Invariant

variable {library : HttpLibrary} {args : ServeHttpArgs}
  {configToken : Option String} {start state next : ServerState}
  {actions : List ServerAction} {action : ServerAction} {client : Nat}
  {connection : HttpConnection} {texts more : Set String} {stage : RequestStage}

theorem RequestStage.isScreened_of_granted
    {given : Grant × ServerAction} (hgiven : stage.granted client = some given) :
    stage.isScreened = true := by
  cases stage with
  | serving | passed => rfl
  | _ => cases hgiven

/-- The grant is about these headers and was given by an action of the run. -/
structure Grant.Holds (library : HttpLibrary) (args : ServeHttpArgs)
    (start : ServerState) (actions : List ServerAction) (texts : Set String)
    (action : ServerAction) (headers : HeaderMap) (grant : Grant) : Prop where
  headers_eq : grant.headers = headers
  authorized : authOk library args grant.configToken headers = true
  given : grant.GivenBy library args start actions action
  spoken : ∀ token, grant.configToken = some token → token ∈ texts

/-- The invariant of a run. -/
structure Guarded (library : HttpLibrary) (args : ServeHttpArgs)
    (start : ServerState) (actions : List ServerAction) (texts : Set String)
    (state : ServerState) : Prop where
  config : ∀ token, state.configToken = some token → token ∈ texts
  bearers : ∀ connection ∈ state.connections, bearerOf connection.request.headers ∈ texts
  screened : ∀ connection ∈ state.connections,
    connection.stage.isScreened = true →
    checkHostAndOrigin (args.allowedAuthorities library)
      connection.request.headers = .ok ()
  grants : ∀ (client : Nat) (connection : HttpConnection),
    state.connections[client]? = some connection →
    ∀ grant action, connection.stage.granted client = some (grant, action) →
      grant.Holds library args start actions texts action
        connection.request.headers
  logged : ∀ entry ∈ state.log, ∃ (connection : HttpConnection)
      (action : ServerAction),
    state.connections[entry.client]? = some connection ∧
    checkHostAndOrigin (args.allowedAuthorities library)
      connection.request.headers = .ok () ∧
    entry.StemsFrom action ∧
    entry.grant.Holds library args start actions texts action
      connection.request.headers

theorem Grant.GivenBy.concat {grant : Grant} {later : ServerAction}
    (hgiven : grant.GivenBy library args start actions action) :
    grant.GivenBy library args start (actions ++ [later]) action := by
  have hlength := (List.getElem?_eq_some_iff.mp hgiven.action_eq).1
  constructor
  · rw [List.getElem?_append_left hlength]
    exact hgiven.action_eq
  · rw [take_append_of_le_length hlength.le]
    exact hgiven.config_eq

theorem Grant.Holds.concat {headers : HeaderMap} {grant : Grant} {later : ServerAction}
    (hholds : grant.Holds library args start actions texts action headers)
    (htexts : texts ⊆ more) :
    grant.Holds library args start (actions ++ [later]) more action headers where
  headers_eq := hholds.headers_eq
  authorized := hholds.authorized
  given := hholds.given.concat
  spoken := fun token htoken => htexts (hholds.spoken token htoken)

/-- What held still holds when one more action has happened. -/
theorem Guarded.concat (hguarded : Guarded library args start actions texts state)
    (htexts : texts ⊆ more) :
    Guarded library args start (actions ++ [action]) more state where
  config := fun token htoken => htexts (hguarded.config token htoken)
  bearers := fun connection hmem => htexts (hguarded.bearers connection hmem)
  screened := hguarded.screened
  grants := fun client connection hconnection grant action hgrant =>
    (hguarded.grants client connection hconnection grant action hgrant).concat htexts
  logged := by
    intro entry hentry
    obtain ⟨connection, action, hconnection, hok, hstems, hholds⟩ := hguarded.logged entry hentry
    exact ⟨connection, action, hconnection, hok, hstems, hholds.concat htexts⟩

/-- The clock is not part of it. -/
theorem Guarded.tick (hguarded : Guarded library args start actions texts state) (clock : Nat) :
    Guarded library args start actions texts { state with clock := clock } :=
  ⟨hguarded.config, hguarded.bearers, hguarded.screened, hguarded.grants, hguarded.logged⟩

/-- Where the stage and the entries of one step of a request come from. -/
structure StepSound (library : HttpLibrary) (args : ServeHttpArgs)
    (state : ServerState) (client : Nat) (connection : HttpConnection)
    (result : RequestStage × List ServerEntry) : Prop where
  screened : result.1.isScreened = true →
    connection.stage.isScreened = true ∨
      checkHostAndOrigin (args.allowedAuthorities library)
        connection.request.headers = .ok ()
  grants : ∀ grant action, result.1.granted client = some (grant, action) →
    connection.stage.granted client = some (grant, action) ∨
      (grant, action) = (state.grantTo connection, .advance client) ∧
      authOk library args state.configToken connection.request.headers = true
  entries : ∀ entry ∈ result.2, entry.client = client ∧ ∃ action,
    connection.stage.granted client = some (entry.grant, action) ∧
    entry.StemsFrom action
  unpassed : ∀ grant item, result.1 ≠ .passed grant item
  single : result.2.length ≤ 1

/-- A step without a grant, to a stage the request has the right to. -/
theorem StepSound.quiet (hgranted : stage.granted client = none)
    (hscreened : stage.isScreened = true → connection.stage.isScreened = true) :
    StepSound library args state client connection (stage, []) where
  screened := fun hstage => .inl (hscreened hstage)
  grants := by simp [hgranted]
  entries := by simp
  unpassed := by
    rintro grant item rfl
    cases hgranted
  single := Nat.zero_le 1

theorem StepSound.closed : StepSound library args state client connection (.closed, []) :=
  .quiet rfl nofun

theorem advanceRequest_sound : StepSound library args state client connection
    (advanceRequest library args state client connection) := by
  fun_cases advanceRequest library args state client connection
  any_goals exact .closed
  next _ hok =>
    exact ⟨fun _ => .inr hok, by simp [RequestStage.granted], by simp, by simp, by simp⟩
  next hstage _ _ => exact .quiet rfl fun _ => by simp [hstage, RequestStage.isScreened]
  next hstage hauthorized =>
    refine ⟨fun _ => .inl (by simp [hstage, RequestStage.isScreened]), ?_, by simp, by simp,
      by simp⟩
    rintro grant action ⟨⟩
    exact .inr ⟨rfl, hauthorized⟩
  next hstage _ => exact .quiet rfl fun _ => by simp [hstage, RequestStage.isScreened]
  next given call rest hstage =>
    refine ⟨fun _ => .inl (by simp [hstage, RequestStage.isScreened]),
      fun grant action hgrant => .inl (hstage ▸ hgrant), ?_, by simp, ?_⟩
    · intro entry hentry
      dsimp only [dispatchEntry] at hentry
      split at hentry
      · obtain rfl := mem_singleton.mp hentry
        exact ⟨rfl, _, hstage ▸ rfl, rfl⟩
      · cases hentry
    · dsimp only [dispatchEntry]
      split <;> simp
  next hstage => exact .quiet rfl fun _ => by simp [hstage, RequestStage.isScreened]
  next given item hstage =>
    refine ⟨fun _ => .inl (by simp [hstage, RequestStage.isScreened]),
      by simp [RequestStage.granted], ?_, by simp, ?_⟩
    · intro entry hentry
      cases item with
      | recheck => cases hentry
      | _ =>
        obtain rfl := mem_singleton.mp hentry
        exact ⟨rfl, .item client _, by rw [hstage]; rfl, _, rfl, rfl⟩
    · cases item <;> simp [eventEntry]

/-- One request moves on, with what its new stage and the new entries need. -/
theorem Guarded.move (hguarded : Guarded library args start actions texts state)
    (hconnection : state.connections[client]? = some connection) {entries : List ServerEntry}
    (hscreened : stage.isScreened = true → checkHostAndOrigin (args.allowedAuthorities library)
        connection.request.headers = .ok ())
    (hgrants : ∀ grant action, stage.granted client = some (grant, action) →
      grant.Holds library args start actions texts action connection.request.headers)
    (hentries : ∀ entry ∈ entries, entry.client = client ∧ ∃ action,
      connection.stage.granted client = some (entry.grant, action) ∧
      entry.StemsFrom action) :
    Guarded library args start actions texts (state.move client connection stage entries) := by
  have hmem := mem_of_getElem? hconnection
  have hlength := (List.getElem?_eq_some_iff.mp hconnection).1
  -- The request under a number stays the same, only its stage may differ.
  have hsame : ∀ (other : Nat) (before : HttpConnection), state.connections[other]? = some before →
      ∃ after : HttpConnection, (state.connections.set client
          { connection with stage := stage })[other]? = some after ∧
        after.request = before.request := by
    intro other before hbefore
    by_cases heq : client = other
    · subst heq
      rw [hconnection] at hbefore
      cases hbefore
      exact ⟨_, List.getElem?_set_self hlength, rfl⟩
    · exact ⟨before, by rw [List.getElem?_set_ne heq, hbefore], rfl⟩
  constructor
  · exact hguarded.config
  · intro other hother
    rcases mem_or_eq_of_mem_set hother with hold | rfl
    · exact hguarded.bearers other hold
    · exact hguarded.bearers connection hmem
  · intro other hother hstage
    rcases mem_or_eq_of_mem_set hother with hold | rfl
    · exact hguarded.screened other hold hstage
    · exact hscreened hstage
  · intro number other hother grant action hgrant
    by_cases heq : client = number
    · subst heq
      rw [ServerState.move, List.getElem?_set_self hlength] at hother
      cases hother
      exact hgrants grant action hgrant
    · rw [ServerState.move, List.getElem?_set_ne heq] at hother
      exact hguarded.grants number other hother grant action hgrant
  · intro entry hentry
    rcases mem_append.mp hentry with hold | hnew
    · obtain ⟨before, action, hbefore, hok, hstems, hholds⟩ := hguarded.logged entry hold
      obtain ⟨after, hafter, hrequest⟩ := hsame _ before hbefore
      exact ⟨after, action, hafter, hrequest ▸ hok, hstems, hrequest ▸ hholds⟩
    · obtain ⟨rfl, action, hgrant, hstems⟩ := hentries entry hnew
      obtain ⟨after, hafter, hrequest⟩ := hsame _ connection hconnection
      have hok := hguarded.screened connection hmem (RequestStage.isScreened_of_granted hgrant)
      have hholds := hguarded.grants _ connection hconnection _ _ hgrant
      exact ⟨after, action, hafter, hrequest ▸ hok, hstems, hrequest ▸ hholds⟩

/-- A grant of this very action. -/
theorem Grant.Holds.of_now (hguarded : Guarded library args start actions texts state)
    (hreached : runFrom (serverStep library args) start actions = some state)
    (hclock : state.clock = actions.length) (htexts : texts ⊆ more)
    (hauthorized : authOk library args state.configToken connection.request.headers = true) :
    (state.grantTo connection).Holds library args start (actions ++ [action])
      more action connection.request.headers where
  headers_eq := rfl
  authorized := hauthorized
  given :=
    { action_eq := by simp [ServerState.grantTo, hclock]
      config_eq := ⟨state, by simp [ServerState.grantTo, hclock, hreached], rfl⟩ }
  spoken := fun token htoken => htexts (hguarded.config token htoken)

theorem spokenTexts_concat : spokenTexts args configToken actions ⊆
    spokenTexts args configToken (actions ++ [action]) := by
  rintro text (hcli | hconfig | hreload | ⟨request, harrive, hbearer⟩)
  · exact .inl hcli
  · exact .inr (.inl hconfig)
  · exact .inr (.inr (.inl (mem_append_left _ hreload)))
  · exact .inr (.inr (.inr ⟨request, mem_append_left _ harrive, hbearer⟩))

theorem old_or_received {connections : List HttpConnection} {request : McpRequest}
    (hconnection : (connections ++ [⟨request, .received⟩])[client]? = some connection) :
    connections[client]? = some connection ∨ connection.stage = .received := by
  rw [List.getElem?_append] at hconnection
  split at hconnection
  · exact .inl hconnection
  · obtain rfl := mem_singleton.mp (mem_of_getElem? hconnection)
    exact .inr rfl

/-- One action keeps the invariant. -/
theorem guarded_serverAct (hguarded : Guarded library args start actions
      (spokenTexts args configToken actions) state)
    (hreached : runFrom (serverStep library args) start actions = some state)
    (hclock : state.clock = actions.length)
    (hact : serverAct library args state action = some next) :
    Guarded library args start (actions ++ [action])
      (spokenTexts args configToken (actions ++ [action])) next := by
  have hsofar : Guarded library args start (actions ++ [action])
      (spokenTexts args configToken (actions ++ [action])) state :=
    hguarded.concat spokenTexts_concat
  cases action with
  | reload loaded =>
    cases loaded with
    | error reason =>
      cases hact
      exact hsofar
    | ok loaded =>
      cases hact
      refine { hsofar with config := ?_ }
      rintro token rfl
      exact .inr (.inr (.inl (by simp)))
  | arrive request =>
    cases hact
    constructor
    · exact hsofar.config
    · intro connection hconnection
      rcases mem_append.mp hconnection with hold | hnew
      · exact hsofar.bearers connection hold
      · obtain rfl := mem_singleton.mp hnew
        exact .inr (.inr (.inr ⟨request, by simp, rfl⟩))
    · intro connection hconnection hstage
      rcases mem_append.mp hconnection with hold | hnew
      · exact hsofar.screened connection hold hstage
      · obtain rfl := mem_singleton.mp hnew
        cases hstage
    · intro client connection hconnection grant action hgrant
      rcases old_or_received hconnection with hold | hreceived
      · exact hsofar.grants client connection hold grant action hgrant
      · rw [hreceived] at hgrant
        cases hgrant
    · intro entry hentry
      obtain ⟨connection, action, hconnection, hrest⟩ := hsofar.logged entry hentry
      have hlength := (List.getElem?_eq_some_iff.mp hconnection).1
      refine ⟨connection, action, ?_, hrest⟩
      rw [List.getElem?_append_left hlength]
      exact hconnection
  | advance client =>
    obtain ⟨connection, hconnection, hnext⟩ := Option.bind_eq_some_iff.mp hact
    cases hnext
    have hsound : StepSound library args state client connection _ := advanceRequest_sound
    have hmem := mem_of_getElem? hconnection
    refine hsofar.move hconnection ?_ ?_ hsound.entries
    · intro hstage
      rcases hsound.screened hstage with hbefore | hok
      · exact hsofar.screened connection hmem hbefore
      · exact hok
    · intro grant action hgrant
      rcases hsound.grants grant action hgrant with hbefore | ⟨heq, hauthorized⟩
      · exact hsofar.grants client connection hconnection grant action hbefore
      · cases heq
        exact .of_now hguarded hreached hclock spokenTexts_concat hauthorized
  | item client item =>
    obtain ⟨connection, hconnection, hrest⟩ := Option.bind_eq_some_iff.mp hact
    obtain ⟨stage, hstage, hnext⟩ := Option.bind_eq_some_iff.mp hrest
    cases hnext
    have hmem := mem_of_getElem? hconnection
    unfold checkItem at hstage
    split at hstage
    · rename_i hstreaming
      split at hstage
      · rename_i hauthorized
        cases hstage
        refine hsofar.move hconnection ?_ ?_ (by simp)
        · exact fun _ => hsofar.screened connection hmem (by simp [hstreaming,
            RequestStage.isScreened])
        · rintro grant action ⟨⟩
          exact .of_now hguarded hreached hclock spokenTexts_concat hauthorized
      · cases hstage
        exact hsofar.move hconnection (nofun)
          (nofun) (by simp)
    · cases hstage
  | close client =>
    obtain ⟨connection, hconnection, hnext⟩ := Option.bind_eq_some_iff.mp hact
    cases hnext
    exact hsofar.move hconnection (nofun)
      (nofun) (by simp)

theorem serverStep_eq_some : serverStep library args state action = some next ↔
    ∃ acted, serverAct library args state action = some acted ∧
      next = { acted with clock := state.clock + 1 } := by
  simp [serverStep, eq_comm]

/-- The invariant along a run, behind the actions that led to its start. -/
theorem guarded_run {before : List ServerAction} {last : ServerState}
    (hguarded : Guarded library args start before (spokenTexts args configToken before) state)
    (hreached : runFrom (serverStep library args) start before = some state)
    (hclock : state.clock = before.length)
    (hrun : runFrom (serverStep library args) state actions = some last) :
    Guarded library args start (before ++ actions)
      (spokenTexts args configToken (before ++ actions)) last := by
  induction actions generalizing before state with
  | nil =>
    cases hrun
    simpa using hguarded
  | cons action rest ih =>
    obtain ⟨next, hstep, hrest⟩ := runFrom_cons_eq_some.mp hrun
    have hnext : runFrom (serverStep library args) start (before ++ [action]) = some next :=
      runFrom_append_eq_some.mpr ⟨state, hreached, runFrom_cons_eq_some.mpr ⟨next, hstep, rfl⟩⟩
    obtain ⟨acted, hact, rfl⟩ := serverStep_eq_some.mp hstep
    rw [append_cons]
    refine ih ?_ hnext (by simp [hclock]) hrest
    exact (guarded_serverAct hguarded hreached hclock hact).tick _

/-- The order of the grants, those of the log and those still in use. -/
structure EventsOrdered (state : ServerState) : Prop where
  log : EventsRechecked state.log
  waiting : ∀ (client : Nat) (connection : HttpConnection),
    state.connections[client]? = some connection →
    ∀ grant item, connection.stage = .passed grant item →
    ∀ entry ∈ state.log, entry.isEvent = true → entry.client = client →
      entry.grant.moment < grant.moment
  logPast : ∀ entry ∈ state.log, entry.grant.moment < state.clock
  stagePast : ∀ (client : Nat) (connection : HttpConnection),
    state.connections[client]? = some connection →
    ∀ given, connection.stage.granted client = some given → given.1.moment < state.clock

/-- An event comes of a stage that had let its item pass. -/
theorem passed_of_isEvent {entry : ServerEntry} (hevent : entry.isEvent = true)
    (hgranted : connection.stage.granted client = some (entry.grant, action))
    (hstems : entry.StemsFrom action) :
    ∃ item, connection.stage = .passed entry.grant item := by
  cases entry with
  | dispatched => cases hevent
  | emitted number grant event data =>
    obtain ⟨item, rfl, -⟩ := hstems
    cases hstage : connection.stage <;> rw [hstage] at hgranted <;> cases hgranted
    exact ⟨item, rfl⟩

theorem EventsOrdered.move (hordered : EventsOrdered state)
    (hconnection : state.connections[client]? = some connection) {entries : List ServerEntry}
    (hentries : ∀ entry ∈ entries, entry.client = client ∧ ∃ action,
      connection.stage.granted client = some (entry.grant, action) ∧
      entry.StemsFrom action)
    (hsingle : entries.length ≤ 1)
    (hpassed : ∀ grant item, stage = .passed grant item → entries = [] ∧ grant.moment = state.clock)
    (hstage : ∀ given, stage.granted client = some given → given.1.moment < state.clock + 1) :
    EventsOrdered { state.move client connection stage entries with clock := state.clock + 1 } := by
  have hlength := (List.getElem?_eq_some_iff.mp hconnection).1
  constructor
  · refine pairwise_append.mpr ⟨hordered.log, ?_, ?_⟩
    · match entries, hsingle with
      | [], _ => exact List.Pairwise.nil
      | [_], _ => exact pairwise_singleton _ _
    · intro earlier hearlier later hlater hbefore hevent hsame
      obtain ⟨rfl, action, hgranted, hstems⟩ := hentries later hlater
      obtain ⟨item, hitem⟩ := passed_of_isEvent hevent hgranted hstems
      exact hordered.waiting _ connection hconnection _ item hitem earlier hearlier hbefore hsame
  · intro number other hother grant item hitem entry hentry hevent hclient
    by_cases heq : client = number
    · subst heq
      rw [ServerState.move, List.getElem?_set_self hlength] at hother
      cases hother
      obtain ⟨rfl, hmoment⟩ := hpassed grant item hitem
      rw [hmoment]
      exact hordered.logPast entry (by simpa [ServerState.move] using hentry)
    · rw [ServerState.move, List.getElem?_set_ne heq] at hother
      rcases mem_append.mp hentry with hold | hnew
      · exact hordered.waiting number other hother grant item hitem entry hold hevent hclient
      · exact absurd ((hentries entry hnew).1.symm.trans hclient) heq
  · intro entry hentry
    rcases mem_append.mp hentry with hold | hnew
    · exact Nat.lt_succ_of_lt (hordered.logPast entry hold)
    · obtain ⟨-, action, hgranted, -⟩ := hentries entry hnew
      exact Nat.lt_succ_of_lt (hordered.stagePast client connection hconnection _ hgranted)
  · intro number other hother given hgiven
    by_cases heq : client = number
    · subst heq
      rw [ServerState.move, List.getElem?_set_self hlength] at hother
      cases hother
      exact hstage given hgiven
    · rw [ServerState.move, List.getElem?_set_ne heq] at hother
      exact Nat.lt_succ_of_lt (hordered.stagePast number other hother given hgiven)

theorem eventsOrdered_step (hstep : serverStep library args state action = some next)
    (hordered : EventsOrdered state) : EventsOrdered next := by
  obtain ⟨acted, hact, rfl⟩ := serverStep_eq_some.mp hstep
  have hlater : ∀ {moment : Nat}, moment < state.clock →
      moment < state.clock + 1 := Nat.lt_succ_of_lt
  cases action with
  | reload loaded =>
    cases loaded with
    | _ =>
      cases hact
      exact ⟨hordered.log, hordered.waiting,
        fun entry hentry => hlater (hordered.logPast entry hentry),
        fun client connection hconnection given hgiven =>
          hlater (hordered.stagePast client connection hconnection given hgiven)⟩
  | arrive request =>
    cases hact
    refine ⟨hordered.log, ?_, fun entry hentry => hlater (hordered.logPast entry hentry), ?_⟩
    · intro client connection hconnection grant item hitem
      rcases old_or_received hconnection with hold | hreceived
      · exact hordered.waiting client connection hold grant item hitem
      · rw [hreceived] at hitem
        cases hitem
    · intro client connection hconnection given hgiven
      rcases old_or_received hconnection with hold | hreceived
      · exact hlater (hordered.stagePast client connection hold given hgiven)
      · rw [hreceived] at hgiven
        cases hgiven
  | advance client =>
    obtain ⟨connection, hconnection, hnext⟩ := Option.bind_eq_some_iff.mp hact
    cases hnext
    have hsound : StepSound library args state client connection _ := advanceRequest_sound
    refine hordered.move hconnection hsound.entries hsound.single ?_ ?_
    · exact fun grant item hitem => absurd hitem (hsound.unpassed grant item)
    · rintro ⟨grant, action⟩ hgiven
      rcases hsound.grants grant action hgiven with hbefore | ⟨heq, -⟩
      · exact hlater (hordered.stagePast client connection hconnection _ hbefore)
      · cases heq
        exact Nat.lt_succ_self state.clock
  | item client item =>
    obtain ⟨connection, hconnection, hrest⟩ := Option.bind_eq_some_iff.mp hact
    obtain ⟨stage, hstage, hnext⟩ := Option.bind_eq_some_iff.mp hrest
    cases hnext
    unfold checkItem at hstage
    split at hstage
    · split at hstage
      · cases hstage
        refine hordered.move hconnection (by simp) (by simp) ?_ ?_
        · rintro grant other ⟨⟩
          exact ⟨rfl, rfl⟩
        · rintro given ⟨⟩
          exact Nat.lt_succ_self state.clock
      · cases hstage
        exact hordered.move hconnection (by simp) (by simp) (by simp)
          (by simp [RequestStage.granted])
    · cases hstage
  | close client =>
    obtain ⟨connection, hconnection, hnext⟩ := Option.bind_eq_some_iff.mp hact
    cases hnext
    exact hordered.move hconnection (by simp) (by simp) (by simp) (by simp [RequestStage.granted])

end Invariant

/-- The client showed the token that was in force at the moment of the grant, in
a request for one allowed host and from no foreign origin. -/
structure Grant.Justified (library : HttpLibrary) (args : ServeHttpArgs)
    (grant : Grant) : Prop where
  token : ∃ token, tokenInForce args grant.configToken = some token ∧
    isBlank token = false ∧ bearerOf grant.headers = token
  host : OneAllowedHost (args.allowedAuthorities library) grant.headers
  origin : NoForeignOrigin (args.allowedAuthorities library) grant.headers

variable {configToken : Option String}

theorem tokenInForce_mem_spokenTexts {args : ServeHttpArgs}
    {held : Option String} {actions : List ServerAction}
    {token : String}
    (hheld : ∀ text, held = some text → text ∈ spokenTexts args configToken actions)
    (htoken : tokenInForce args held = some token) :
    token ∈ spokenTexts args configToken actions := by
  unfold tokenInForce at htoken
  split at htoken
  · rename_i given hgiven
    cases htoken
    exact .inl (Option.filter_eq_some_iff.mp hgiven).1
  · exact hheld token (Option.filter_eq_some_iff.mp htoken).1

theorem Grant.Holds.justified {library : HttpLibrary} {args : ServeHttpArgs} {start : ServerState}
    {actions : List ServerAction} {action : ServerAction} {headers : HeaderMap}
    {grant : Grant} (hexposed : args.requireToken library = true)
    (hcollisions : Set.InjOn library.sha256 (spokenTexts args configToken actions))
    (hholds : grant.Holds library args start actions
      (spokenTexts args configToken actions) action headers)
    (hbearer : bearerOf headers ∈ spokenTexts args configToken actions)
    (hok : checkHostAndOrigin (args.allowedAuthorities library) headers =
      .ok ()) : grant.Justified library args := by
  obtain ⟨hhost, horigin⟩ := RustStr.andThen_eq_ok.mp hok
  rw [← hholds.headers_eq] at hhost horigin
  refine ⟨?_, oneAllowedHost_of_checkHost hhost, noForeignOrigin_of_checkOrigin horigin⟩
  obtain ⟨token, htoken, hdigest⟩ := (authOk_eq_true hexposed).mp hholds.authorized
  have hspoken := tokenInForce_mem_spokenTexts hholds.spoken htoken
  refine ⟨token, htoken, not_blank_tokenInForce htoken, ?_⟩
  rw [hholds.headers_eq]
  exact (hcollisions hspoken hbearer hdigest).symm

theorem runHttpServer_eq_ok {library : HttpLibrary} {args : ServeHttpArgs} {start : ServerState}
    (hstart : runHttpServer library args configToken = .ok start) :
    start = ⟨0, configToken, [], []⟩ := by
  unfold runHttpServer at hstart
  dsimp only at hstart
  split at hstart
  · cases hstart
  · exact (Except.ok.inj hstart).symm

/-- An exposed server dispatches a call and emits an event only on a grant to
that client, for an event the grant of its own recheck: the bearer the client
showed was the token then in force, and its request named one allowed host and
no foreign origin. -/
theorem mcp_http_guarded (library : HttpLibrary) (args : ServeHttpArgs)
    (configToken : Option String) (start last : ServerState)
    (actions : List ServerAction)
    (hexposed : isLoopbackBind library args.bind = false)
    (hsecure : args.allowInsecureBind = false)
    (hstart : runHttpServer library args configToken = .ok start)
    (hrun : runFrom (serverStep library args) start actions = some last)
    (hcollisions : Set.InjOn library.sha256 (spokenTexts args configToken actions)) :
    (∀ entry ∈ last.log, entry.grant.Justified library args ∧ (∃ action, entry.StemsFrom action ∧
        entry.grant.GivenBy library args start actions action) ∧
      ∃ connection, last.connections[entry.client]? = some connection ∧
        connection.request.headers = entry.grant.headers) ∧
    EventsRechecked last.log := by
  have hrequire : args.requireToken library = true := by
    simp [ServeHttpArgs.requireToken, hexposed, hsecure]
  obtain rfl := runHttpServer_eq_ok hstart
  have hinitial : Guarded library args ⟨0, configToken, [], []⟩ []
      (spokenTexts args configToken []) ⟨0, configToken, [], []⟩ :=
    { config := fun token htoken => .inr (.inl htoken)
      bearers := by simp
      screened := by simp
      grants := by simp
      logged := by simp }
  have hguarded := guarded_run hinitial rfl rfl hrun
  have hordered : EventsOrdered ⟨0, configToken, [], []⟩ :=
    ⟨List.Pairwise.nil, by simp, by simp, by simp⟩
  refine ⟨?_, (invariant_of_step eventsOrdered_step hordered hrun).log⟩
  intro entry hentry
  obtain ⟨connection, action, hconnection, hok, hstems, hholds⟩ := hguarded.logged entry hentry
  have hbearer := hguarded.bearers connection (mem_of_getElem? hconnection)
  exact ⟨hholds.justified hrequire hcollisions hbearer hok,
    ⟨action, hstems, hholds.given⟩, connection, hconnection,
    hholds.headers_eq.symm⟩

namespace HttpWitness

/-- An address of no interface, and a digest that tells lengths apart. -/
def library : HttpLibrary where
  parseIpAddr := fun _ => some (.v4 fun _ => 0)
  sha256 := fun text => List.replicate 32 (UInt8.ofNat text.length)
  length_sha256 := fun _ => length_replicate

def args : ServeHttpArgs where
  bind := "0.0.0.0"
  port := 8787
  allowInsecureBind := false
  cliToken := none
  allowedHosts := ["mcp.lan"]

def value (text : String) : HeaderValue where
  bytes := text.toList.map fun c => UInt8.ofNat c.toNat

def headers : HeaderMap where
  entries := [("host", value "MCP.lan:8787"),
    ("origin", value "https://mcp.lan:8787"), ("authorization", value "Bearer first")]

def start : ServerState :=
  ⟨0, some "first", [], []⟩

/-- A call and a stream, and a new token between the stream's two items. -/
def actions : List ServerAction :=
  [.arrive ⟨headers, .postMcp (some (.obj [("method", .str "tools/list")]))⟩,
    .advance 0, .advance 0, .advance 0, .advance 0,
    .arrive ⟨headers, .getMcp⟩, .advance 1, .advance 1, .advance 1,
    .item 1 (.note "task"), .advance 1,
    .reload (.ok (some "next-token")), .item 1 (.note "task"), .advance 1]

theorem runs : (runFrom (serverStep library args) start actions).isSome = true := by
  decide +kernel

def last : ServerState :=
  (runFrom (serverStep library args) start actions).get runs

theorem collision_free : Set.InjOn library.sha256 (spokenTexts args (some "first") actions) := by
  have hspoken : ∀ text ∈ spokenTexts args (some "first") actions,
      text = "first" ∨ text = "next-token" := by
    have hbearer : bearerOf headers = "first" := by decide +kernel
    rintro text (hcli | hconfig | hreload | ⟨request, harrive, rfl⟩)
    · cases hcli
    · cases hconfig
      exact .inl rfl
    · simp [actions] at hreload
      exact .inr hreload
    · simp [actions] at harrive
      rcases harrive with rfl | rfl <;> exact .inl hbearer
  intro one hone two htwo hdigest
  rcases hspoken one hone with rfl | rfl <;> rcases hspoken two htwo with rfl | rfl
  · rfl
  · exact absurd hdigest (by decide +kernel)
  · exact absurd hdigest (by decide +kernel)
  · rfl

theorem mcp_http_guarded_rotation : last.log.map ServerEntry.isEvent = [false, true] ∧
    ∀ entry ∈ last.log, entry.grant.Justified library args :=
  ⟨by decide +kernel, fun entry hentry =>
    ((mcp_http_guarded library args (some "first") start last actions
      (by decide +kernel) rfl (by rfl) (Option.some_get runs).symm
      collision_free).1 entry hentry).1⟩

end HttpWitness

end Proxxx
