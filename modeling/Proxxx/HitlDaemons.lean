/-
Any number of daemons, and the commands and servers that store requests, over
one pending store.  A run is any interleaving of their transactions and calls,
with processes ending and starting anywhere in between.
-/
import Proxxx.HitlHandler

namespace Proxxx

open FaultProgram StepSystem

/-- The configuration a daemon runs with. -/
structure DaemonConfig where
  profile : String
  telegram : TelegramGateway
deriving Repr, DecidableEq

/-- Where a daemon is with the callback it handles. -/
inductive DaemonPhase where
  | idle
  | approved (request : PendingRequest)
  | performed (request : PendingRequest) (result : Performed)
deriving Repr, DecidableEq

structure Daemon where
  config : DaemonConfig
  phase : DaemonPhase
deriving Repr, DecidableEq

/-- What can be observed of a run, in its order. -/
inductive Observation where
  | stored (profile : String) (request : PendingRequest)
  | handled (telegram : TelegramGateway) (callback : CallbackQuery) (now : Int)
      (outcome : StoreOutcome)
  | performed (id cluster : String) (history : History)
deriving Repr, DecidableEq

/-- The world the processes share: the libraries, and the cluster behind each
profile. -/
structure HitlWorld where
  mac : Mac
  libs : Libraries
  clusterOf : String → String

structure HitlState where
  table : PendingTable
  daemons : Nat → Option Daemon
  log : List Observation

def HitlState.start : HitlState :=
  { table := .empty, daemons := fun _ => none, log := [] }

inductive HitlEvent where
  | startDaemon (daemon : Nat) (config : DaemonConfig) (now : Int)
  | endDaemon (daemon : Nat)
  | openStore (now : Int)
  | insert (profile id : String) (new : NewPendingRequest) (now : Int)
  | sendFailed (id error : String)
  | receive (daemon : Nat) (update : Option CallbackQuery) (now : Int)
  | perform (daemon : Nat) (gateway : Gateway)
  | mark (daemon : Nat)

def HitlState.setDaemon (state : HitlState) (index : Nat) (daemon : Option Daemon) : HitlState :=
  { state with daemons := fun other => if other = index then daemon else state.daemons other }

/-- The phase after a store transaction. -/
def phaseAfter : StoreOutcome → DaemonPhase
  | .approved request => .approved request
  | _ => .idle

/-- A daemon takes an update: the checks, and the transaction of a callback that
passes them. -/
def receiveStep (world : HitlWorld) (state : HitlState) (index : Nat)
    (daemon : Daemon) (update : Option CallbackQuery) (now : Int) : HitlState :=
  match update with
  | none => state
  | some callback =>
    match verifyCallback world.mac daemon.config.telegram callback with
    | .error _ => state
    | .ok verified =>
      let (outcome, table) := state.table.processCallbackAt verified.txnId
        verified.decision verified.approverId now
      { state.setDaemon index
          (some { daemon with phase := phaseAfter outcome }) with
        table
        log := state.log ++ [.handled daemon.config.telegram callback now outcome] }

/-- A daemon carries out the request it holds; its process may end on the
way. -/
def performStep (world : HitlWorld) (state : HitlState) (index : Nat)
    (daemon : Daemon) (request : PendingRequest) (gateway : Gateway) : HitlState :=
  let performed := execute (performApproved world.libs gateway request) []
  let next : Option Daemon :=
    match performed.1 with
    | .error .stopped => none
    | result => some { daemon with phase := .performed request result }
  { state.setDaemon index next with
    log := state.log ++ [.performed request.id
      (world.clusterOf daemon.config.profile) performed.2] }

def markStep (state : HitlState) (index : Nat) (daemon : Daemon)
    (request : PendingRequest) (result : Performed) : HitlState :=
  { state.setDaemon index (some { daemon with phase := .idle }) with
    table := (markOf request.id result).elim state.table (·.apply state.table) }

def hitlStep (world : HitlWorld) (state : HitlState) : HitlEvent → Option HitlState
  | .startDaemon index config now =>
    some { state.setDaemon index (some { config, phase := .idle }) with
      table := state.table.openAtWithNow now }
  | .endDaemon index => some (state.setDaemon index none)
  | .openStore now => some { state with table := state.table.openAtWithNow now }
  | .insert profile id new now =>
    (state.table.insertAt id new now).map fun inserted =>
      { state with
        table := inserted.2, log := state.log ++ [.stored profile inserted.1] }
  | .sendFailed id error => some { state with table := state.table.markFailed id error }
  | .receive index update now =>
    match state.daemons index with
    | some daemon =>
      if daemon.phase = .idle then
        some (receiveStep world state index daemon update now)
      else none
    | none => none
  | .perform index gateway =>
    match state.daemons index with
    | some daemon =>
      match daemon.phase with
      | .approved request => some (performStep world state index daemon request gateway)
      | _ => none
    | none => none
  | .mark index =>
    match state.daemons index with
    | some daemon =>
      match daemon.phase with
      | .performed request result => some (markStep state index daemon request result)
      | _ => none
    | none => none

/-- The ids that senders drew. -/
def insertedIds (events : List HitlEvent) : List String :=
  events.filterMap fun event =>
    match event with
    | .insert _ id _ _ => some id
    | _ => none

def Observation.performs (id : String) : Observation → Bool
  | .performed other _ _ => other == id
  | _ => false

def Observation.denies (id : String) : Observation → Bool
  | .handled _ _ _ (.denied request) => request.id == id
  | _ => false

/-- An answered callback that recorded no deny. -/
def Observation.quiet : Observation → Bool
  | .handled _ _ _ (.denied _) => false
  | .handled _ _ _ _ => true
  | .stored _ _ | .performed _ _ _ => false

/-- An allow-listed approver pressed the signed approve button of the request,
and a daemon handled it before the request expired. -/
def Vote (mac : Mac) (log : List Observation) (id : String) (expiresAt : Int)
    (approver : Int) : Prop :=
  ∃ telegram callback now outcome, .handled telegram callback now outcome ∈ log ∧
    callback.userId = approver ∧
    SignedPress mac telegram callback .approve id ∧
    now < expiresAt

/-- The daemon holds an approved request that it has not carried out. -/
def HitlState.Holds (state : HitlState) (index : Nat) (config : DaemonConfig)
    (request : PendingRequest) : Prop :=
  state.daemons index = some { config, phase := .approved request }

/-- What may happen to a stored row: its status moves on, and an approver who
voted may be added. -/
structure RowChange (mac : Mac) (log : List Observation) (before row : PendingRequest) : Prop where
  id : row.id = before.id
  require : row.require = before.require
  expiresAt : row.expiresAt = before.expiresAt
  pending : row.status = .pending → before.status = .pending
  approvers : row.approvers = before.approvers ∨
    ∃ approver, row.approvers = addApprover before.approvers approver ∧
      Vote mac log row.id row.expiresAt approver

/-- Every row comes from a row of the table before. -/
def RowsFrom (mac : Mac) (log : List Observation) (table next : PendingTable) : Prop :=
  ∀ id row, next.row id = some row →
    ∃ before, table.row id = some before ∧ RowChange mac log before row

/-- What one event can change. -/
inductive HitlChange (world : HitlWorld) (state next : HitlState) : HitlEvent → Prop where
  | quiet (event : HitlEvent) (entries : List Observation)
      (hlog : next.log = state.log ++ entries)
      (hentries : ∀ entry ∈ entries, entry.quiet = true)
      (hrows : RowsFrom world.mac next.log state.table next.table)
      (hheld : ∀ index config request, next.Holds index config request →
        state.Holds index config request) :
      HitlChange world state next event
  | stored (profile id : String) (new : NewPendingRequest) (now : Int)
      (request : PendingRequest)
      (hinsert : state.table.insertAt id new now = some (request, next.table))
      (hlog : next.log = state.log ++ [.stored profile request])
      (hdaemons : next.daemons = state.daemons) :
      HitlChange world state next (.insert profile id new now)
  | denied (event : HitlEvent) (telegram : TelegramGateway)
      (callback : CallbackQuery) (now : Int) (before request : PendingRequest)
      (hrow : state.table.row request.id = some before)
      (hpending : before.status = .pending)
      (hlog : next.log = state.log ++ [.handled telegram callback now (.denied request)])
      (hrows : RowsFrom world.mac next.log state.table next.table)
      (hafter : next.table.row request.id = some request)
      (hstatus : request.status = .denied)
      (hheld : ∀ index config held, next.Holds index config held → state.Holds index config held) :
      HitlChange world state next event
  | approved (index : Nat) (config : DaemonConfig) (callback : CallbackQuery)
      (verified : VerifiedCallback) (now : Int)
      (before request : PendingRequest)
      (hdaemon : state.daemons index = some { config, phase := .idle })
      (hverified : verifyCallback world.mac config.telegram callback = .ok verified)
      (houtcome : state.table.processCallbackAt verified.txnId
        verified.decision verified.approverId now = (.approved request, next.table))
      (hrow : state.table.row request.id = some before)
      (hpending : before.status = .pending)
      (hlog : next.log = state.log ++ [.handled config.telegram callback now (.approved request)])
      (hrows : RowsFrom world.mac next.log state.table next.table)
      (hafter : next.table.row request.id = some request)
      (hstatus : request.status = .approved)
      (hquorum : max request.require 1 ≤ request.approvers.length)
      (hheld : ∀ other config' held, next.Holds other config' held →
        state.Holds other config' held ∨ other = index ∧ config' = config ∧ held = request) :
      HitlChange world state next (.receive index (some callback) now)
  | performed (event : HitlEvent) (index : Nat) (config : DaemonConfig)
      (request : PendingRequest) (history : History)
      (hholder : state.Holds index config request)
      (hlog : next.log = state.log ++ [.performed request.id
        (world.clusterOf config.profile) history])
      (htable : next.table = state.table)
      (hheld : ∀ other config' held, next.Holds other config' held →
        state.Holds other config' held ∧ other ≠ index) :
      HitlChange world state next event

section Rows

variable {mac : Mac} {log : List Observation} {table next : PendingTable}

theorem RowChange.refl (row : PendingRequest) : RowChange mac log row row :=
  ⟨rfl, rfl, rfl, fun hpending => hpending, .inl rfl⟩

theorem rowsFrom_refl : RowsFrom mac log table table := fun _ row hrow => ⟨row, hrow, .refl row⟩

theorem rowsFrom_openAtWithNow {now : Int} : RowsFrom mac log table (table.openAtWithNow now) :=
  fun _ row hrow => ⟨row, PendingTable.row_of_openAtWithNow hrow, .refl row⟩

variable {id : String}

theorem rowsFrom_update {change : PendingRequest → PendingRequest}
    {hchange : ∀ request, (change request).id = request.id}
    (hrow : ∀ before, table.row id = some before → RowChange mac log before (change before)) :
    RowsFrom mac log table (table.update id change hchange) := by
  intro other row hother
  obtain ⟨before, hbefore, rfl | ⟨rfl, rfl⟩⟩ := PendingTable.row_of_update hother
  · exact ⟨row, hbefore, .refl row⟩
  · exact ⟨before, hbefore, hrow before hbefore⟩

/-- A status other than pending may be written to any row. -/
theorem rowsFrom_setStatus {status : RequestStatus} (hstatus : status ≠ .pending) :
    RowsFrom mac log table (table.setStatus id status) :=
  rowsFrom_update fun _ _ => ⟨rfl, rfl, rfl, fun hpending => absurd hpending hstatus, .inl rfl⟩

theorem rowsFrom_markFailed {error : String} : RowsFrom mac log table (table.markFailed id error) :=
  rowsFrom_update fun _ _ => ⟨rfl, rfl, rfl, nofun, .inl rfl⟩

theorem rowsFrom_markExecuted {upid : String} :
    RowsFrom mac log table (table.markExecuted id upid) :=
  rowsFrom_update fun _ _ => ⟨rfl, rfl, rfl, nofun, .inl rfl⟩

theorem rowsFrom_mark (mark : Mark) : RowsFrom mac log table (mark.apply table) := by
  cases mark with
  | executed id upid => exact rowsFrom_markExecuted
  | failed id error => exact rowsFrom_markFailed

/-- The approver of a row's own vote may be added to it. -/
theorem rowsFrom_setApprovers {request : PendingRequest} {approver : Int} {status : RequestStatus}
    (hrow : table.row id = some request)
    (hpending : request.status = .pending)
    (hvote : Vote mac log id request.expiresAt approver) :
    RowsFrom mac log table (table.setApprovers id
      (addApprover request.approvers approver) status) := by
  apply rowsFrom_update
  intro before hbefore
  obtain rfl := Option.some.inj (hrow.symm.trans hbefore)
  have hid := table.row_id hrow
  exact ⟨rfl, rfl, rfl, fun _ => hpending, .inr ⟨approver, rfl, hid ▸ hvote⟩⟩

end Rows

section Changes

variable {world : HitlWorld} {state next : HitlState} {index : Nat} {config : DaemonConfig}

/-- A daemon that holds nothing now, and the others as before. -/
theorem holds_setDaemon {daemon : Option Daemon} (hnone : ∀ config request,
      daemon ≠ some { config, phase := .approved request })
    {other : Nat} {request : PendingRequest}
    (hholds : (state.setDaemon index daemon).Holds other config request) :
    state.Holds other config request ∧ other ≠ index := by
  unfold HitlState.Holds HitlState.setDaemon at hholds
  dsimp only at hholds
  split at hholds
  next => exact absurd hholds (hnone config request)
  next hother => exact ⟨hholds, hother⟩

/-- A daemon that holds a request now, and the others as before. -/
theorem holds_setDaemon_approved {config' : DaemonConfig}
    {request held : PendingRequest} {other : Nat}
    (hholds : (state.setDaemon index
      (some { config, phase := .approved request })).Holds other config' held) :
    state.Holds other config' held ∨ other = index ∧ config' = config ∧ held = request := by
  unfold HitlState.Holds HitlState.setDaemon at hholds
  dsimp only at hholds
  split at hholds
  next hother =>
    cases hholds
    exact .inr ⟨hother, rfl, rfl⟩
  next => exact .inl hholds

/-- The transaction of a verified callback, case by case. -/
theorem receiveStep_change {callback : CallbackQuery} {verified : VerifiedCallback} {now : Int}
    (hdaemon : state.daemons index = some { config, phase := .idle })
    (hverified : verifyCallback world.mac config.telegram callback = .ok verified) :
    HitlChange world state (receiveStep world state index { config, phase := .idle }
        (some callback) now)
      (.receive index (some callback) now) := by
  obtain ⟨hsender, hpress⟩ := verifyCallback_eq_ok hverified
  have hstep := processCallbackAt_step state.table verified.txnId
    verified.decision verified.approverId now
  unfold receiveStep
  simp only [hverified]
  rcases houtcome : state.table.processCallbackAt verified.txnId
    verified.decision verified.approverId now with ⟨outcome, table⟩
  rw [houtcome] at hstep
  dsimp only at hstep ⊢
  have hheld : ∀ other config' held, phaseAfter outcome = .idle → (state.setDaemon index
        (some { config, phase := phaseAfter outcome })).Holds other config' held →
      state.Holds other config' held := by
    intro other config' held hidle hholds
    rw [hidle] at hholds
    exact (holds_setDaemon (by simp) hholds).1
  have hvote : ∀ expiresAt outcome, verified.decision = .approve → now < expiresAt →
      Vote world.mac (state.log ++ [.handled config.telegram callback now outcome])
        verified.txnId expiresAt verified.approverId := by
    intro expiresAt outcome hdecision hearly
    exact ⟨config.telegram, callback, now, outcome, by simp, hsender.symm,
      hdecision ▸ hpress, hearly⟩
  cases hstep with
  | unknown | expiredBefore | handled =>
    exact .quiet _ [_] rfl (by simp [Observation.quiet]) rowsFrom_refl fun _ _ _ => hheld _ _ _ rfl
  | expiredNow request hrow hpending hlate =>
    exact .quiet _ [_] rfl (by simp [Observation.quiet])
      (rowsFrom_setStatus nofun) fun _ _ _ => hheld _ _ _ rfl
  | denied request hrow hpending hearly hdecision =>
    have hid : request.id = verified.txnId := state.table.row_id hrow
    rw [← hid] at hrow
    refine .denied _ config.telegram callback now request
      { request with status := .denied } hrow hpending rfl
      (rowsFrom_setStatus nofun) ?_ rfl fun _ _ _ => hheld _ _ _ rfl
    simp [PendingTable.setStatus, hid, PendingTable.update_row_same, hid ▸ hrow]
  | approved request hrow hpending hearly hdecision hquorum =>
    have hid : request.id = verified.txnId := state.table.row_id hrow
    refine .approved index config callback verified now request { request with
        approvers := addApprover request.approvers verified.approverId, status := .approved }
      hdaemon hverified houtcome (hid ▸ hrow) hpending rfl
      (rowsFrom_setApprovers hrow hpending (hvote request.expiresAt _ hdecision hearly))
      ?_ rfl hquorum (fun _ _ _ => holds_setDaemon_approved)
    exact hid ▸ (processCallbackAt_approved_row houtcome).2
  | awaiting request hrow hpending hearly hdecision hquorum =>
    exact .quiet _ [_] rfl (by simp [Observation.quiet]) (rowsFrom_setApprovers hrow hpending
        (hvote request.expiresAt _ hdecision hearly))
      fun _ _ _ => hheld _ _ _ rfl

/-- Nothing is observed. -/
theorem HitlChange.silent {event : HitlEvent} (hlog : next.log = state.log)
    (hrows : RowsFrom world.mac next.log state.table next.table)
    (hheld : ∀ index config request, next.Holds index config request →
      state.Holds index config request) : HitlChange world state next event :=
  .quiet event [] (by simpa using hlog) (by simp) hrows hheld

/-- Every event is one of these changes. -/
theorem hitlStep_change {event : HitlEvent} (hstep : hitlStep world state event = some next) :
    HitlChange world state next event := by
  revert hstep
  fun_cases hitlStep world state event <;> intro hstep
  any_goals cases hstep
  next =>
    exact .silent rfl rowsFrom_openAtWithNow fun _ _ _ hholds => (holds_setDaemon (by simp) hholds).1
  next => exact .silent rfl rowsFrom_refl fun _ _ _ hholds => (holds_setDaemon (by simp) hholds).1
  next => exact .silent rfl rowsFrom_openAtWithNow fun _ _ _ => id
  next profile id new now =>
    obtain ⟨⟨request, table⟩, hinsert, rfl⟩ := Option.map_eq_some_iff.mp hstep
    exact .stored profile id new now request hinsert rfl rfl
  next => exact .silent rfl rowsFrom_markFailed fun _ _ _ => id
  next other update now daemon hdaemon hidle =>
    obtain ⟨config, phase⟩ := daemon
    obtain rfl : phase = .idle := hidle
    cases update with
    | none => exact .silent rfl rowsFrom_refl fun _ _ _ => id
    | some callback =>
      cases hverify : verifyCallback world.mac config.telegram callback with
      | error rejection =>
        simp only [receiveStep, hverify]
        exact .silent rfl rowsFrom_refl fun _ _ _ => id
      | ok verified => exact receiveStep_change hdaemon hverify
  next other gateway daemon hdaemon request hphase =>
    obtain ⟨config, phase⟩ := daemon
    cases hphase
    refine .performed _ other config request _ hdaemon rfl rfl ?_
    intro index config' held hholds
    refine holds_setDaemon ?_ hholds
    intro config request
    split <;> simp
  next other daemon hdaemon request result _ =>
    refine .silent rfl ?_ fun _ _ _ hholds => (holds_setDaemon (by simp) hholds).1
    unfold markStep
    cases markOf request.id result with
    | none => exact rowsFrom_refl
    | some mark => exact rowsFrom_mark mark

end Changes

section Handler

variable {world : HitlWorld} {state : HitlState} {index : Nat}
variable {config : DaemonConfig} {gateway : Gateway} {now : Int}

theorem setDaemon_daemons_same {daemon : Option Daemon} :
    (state.setDaemon index daemon).daemons index = daemon := by simp [HitlState.setDaemon]

/-- From the completed quorum on. -/
theorem handleApproved_run {env : HandlerEnv} {request : PendingRequest}
    (hlibs : env.libs = world.libs)
    (hdaemon : state.daemons index = some { config, phase := .approved request }) :
    ∃ rest last, runFrom (hitlStep world) state rest = some last ∧ (∀ event ∈ rest,
        event = .perform index env.gateway ∨ event = .mark index) ∧
      last.table = (handleApproved env request state.table).table ∧
      last.log = state.log ++ [.performed request.id (world.clusterOf config.profile)
        (handleApproved env request state.table).history] := by
  have hperform : hitlStep world state (.perform index env.gateway) =
      some (performStep world state index
        { config, phase := .approved request } request env.gateway) := by simp [hitlStep, hdaemon]
  unfold handleApproved
  rw [hlibs]
  rcases hresult : execute (performApproved world.libs env.gateway request) []
    with ⟨result, history⟩
  unfold performStep at hperform
  rw [hresult] at hperform
  have hmark : ∀ middle : HitlState, middle.daemons index =
        some { config, phase := .performed request result } →
      hitlStep world middle (.mark index) = some (markStep middle index
        { config, phase := .performed request result } request result) := by
    intro middle hmiddle
    simp [hitlStep, hmiddle]
  rcases result with (e | _) | value
  case error.stopped =>
    exact ⟨[.perform index env.gateway], _,
      runFrom_cons_eq_some.mpr ⟨_, hperform, rfl⟩, by simp, rfl, rfl⟩
  all_goals
    exact ⟨[.perform index env.gateway, .mark index], _, runFrom_cons_eq_some.mpr ⟨_, hperform,
        runFrom_cons_eq_some.mpr ⟨_, hmark _ setDaemon_daemons_same, rfl⟩⟩,
      by simp, rfl, rfl⟩

/-- An idle daemon's own handling of a callback is a run of the system in which
nobody interferes. -/
theorem handleCallbackUpdate_run (state : HitlState) (update : Option CallbackQuery) :
    let begun := state.setDaemon index (some { config, phase := .idle })
    let handled := handleCallbackUpdate
      { mac := world.mac, libs := world.libs, telegram := config.telegram,
        gateway } update now begun.table
    ∃ rest last, runFrom (hitlStep world) begun (.receive index update now :: rest) = some last ∧
      (∀ event ∈ rest, event = .perform index gateway ∨ event = .mark index) ∧
      last.table = handled.table ∧
      (handled.history = [] ∨ ∃ id, last.log.getLast? = some
        (.performed id (world.clusterOf config.profile) handled.history)) := by
  intro begun
  have hdaemon : begun.daemons index = some { config, phase := .idle } := setDaemon_daemons_same
  generalize begun = state at hdaemon
  intro handled
  have hreceive : hitlStep world state (.receive index update now) =
      some (receiveStep world state index { config, phase := .idle } update now) := by
    simp [hitlStep, hdaemon]
  cases update with
  | none => exact ⟨[], _, runFrom_cons_eq_some.mpr ⟨_, hreceive, rfl⟩, by simp, rfl, .inl rfl⟩
  | some callback =>
  cases hverify : verifyCallback world.mac config.telegram callback with
  | error rejection =>
    refine ⟨[], _, runFrom_cons_eq_some.mpr ⟨_, hreceive, rfl⟩, by simp, ?_, ?_⟩
    · simp [handled, receiveStep, handleCallbackUpdate, hverify]
    · simp [handled, handleCallbackUpdate, hverify]
  | ok verified =>
  rcases houtcome : state.table.processCallbackAt verified.txnId
    verified.decision verified.approverId now with ⟨outcome, table⟩
  simp only [receiveStep, hverify, houtcome] at hreceive
  cases outcome with
  | approved request =>
    have hhandled : handled = handleApproved _ request table :=
      handleCallbackUpdate_approved hverify houtcome
    rw [hhandled]
    obtain ⟨middle, hmiddle, htaken, hholds⟩ : ∃ middle,
        hitlStep world state (.receive index (some callback) now) = some middle ∧
        middle.table = table ∧
        middle.daemons index = some { config, phase := .approved request } :=
      ⟨_, hreceive, rfl, setDaemon_daemons_same⟩
    obtain ⟨rest, last, hrun, hrest, htable, hlog⟩ := @handleApproved_run world middle index config
        { mac := world.mac, libs := world.libs, telegram := config.telegram,
          gateway } request rfl hholds
    rw [htaken] at htable hlog
    exact ⟨rest, last, runFrom_cons_eq_some.mpr ⟨middle, hmiddle, hrun⟩,
      hrest, htable, .inr ⟨request.id, by rw [hlog, List.getLast?_concat]⟩⟩
  | _ =>
    refine ⟨[], _, runFrom_cons_eq_some.mpr ⟨_, hreceive, rfl⟩, by simp, ?_, ?_⟩
    · simp [handled, handleCallbackUpdate, hverify, houtcome]
    · simp [handled, handleCallbackUpdate, hverify, houtcome]

end Handler

end Proxxx
