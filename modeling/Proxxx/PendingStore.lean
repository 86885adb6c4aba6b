/-
The store of approval requests: one table, keyed by the request id, and the
transactions on it.  A transaction is a function of the table, the outside
values it reads (the clock, the random id) being arguments.
-/
import Proxxx.GuestPreflight
import Proxxx.TelegramCallback

namespace Proxxx

inductive RequestStatus where
  | pending
  | approved
  | denied
  | expired
  | executed
  | failed
deriving Repr, DecidableEq

/-- A row of `hitl_pending_requests`. -/
structure PendingRequest where
  id : String
  action : String
  vmid : Option Nat
  node : Option String
  guestType : Option GuestType
  paramsJson : String
  require : Nat
  issuedAt : Int
  expiresAt : Int
  status : RequestStatus
  approvers : List Int
  upid : Option String
  error : Option String
deriving Repr, DecidableEq

structure NewPendingRequest where
  action : String
  vmid : Option Nat
  node : Option String
  guestType : Option GuestType
  paramsJson : String
  require : Nat
  ttlSecs : Int
deriving Repr, DecidableEq

inductive StoreOutcome where
  | unknownRequest
  | expired (request : PendingRequest)
  | alreadyHandled (request : PendingRequest)
  | denied (request : PendingRequest)
  | awaitingApprovals (request : PendingRequest) (votes need : Nat)
      (duplicate : Bool)
  | approved (request : PendingRequest)
deriving Repr, DecidableEq

/-- The table: every row stands under its own id. -/
structure PendingTable where
  row : String → Option PendingRequest
  row_id : ∀ {id request}, row id = some request → request.id = id

def PendingTable.empty : PendingTable :=
  { row := fun _ => none, row_id := by simp }

/-- `UPDATE … WHERE id = ?1`, which does not touch the id. -/
def PendingTable.update (table : PendingTable) (id : String)
    (change : PendingRequest → PendingRequest)
    (hchange : ∀ request, (change request).id = request.id) : PendingTable where
  row other :=
    if other = id then (table.row id).map change else table.row other
  row_id := by
    intro other request hrow
    split at hrow
    next heq =>
      obtain ⟨source, hsource, rfl⟩ := Option.map_eq_some_iff.mp hrow
      rw [hchange, table.row_id hsource, heq]
    next => exact table.row_id hrow

/-- The bounds of an `i64`. -/
def i64Max : Int := 9223372036854775807

def i64Min : Int := -9223372036854775808

def saturate (value : Int) : Int :=
  max i64Min (min i64Max value)

/-- Seven days. -/
def retentionSecs : Int := 604800

def RequestStatus.terminal : RequestStatus → Bool
  | .denied | .expired | .executed | .failed => true
  | .pending | .approved => false

/-- Opening the store removes terminal rows past their retention. -/
def PendingTable.openAtWithNow (table : PendingTable) (now : Int) : PendingTable where
  row id := (table.row id).filter fun request =>
    !(request.status.terminal && decide (request.issuedAt < saturate (now - retentionSecs)))
  row_id := by
    intro id request hrow
    exact table.row_id (Option.filter_eq_some_iff.mp hrow).1

/-- Insert a request under the given random id; the primary key refuses an id
that is in use. -/
def PendingTable.insertAt (table : PendingTable) (id : String)
    (new : NewPendingRequest) (now : Int) : Option (PendingRequest × PendingTable) :=
  match table.row id with
  | some _ => none
  | none =>
    let request : PendingRequest :=
      { id
        action := new.action
        vmid := new.vmid
        node := new.node
        guestType := new.guestType
        paramsJson := new.paramsJson
        require := max new.require 1
        issuedAt := now
        expiresAt := saturate (now + new.ttlSecs)
        status := .pending
        approvers := []
        upid := none
        error := none }
    some (request,
      { row := fun other => if other = id then some request else table.row other
        row_id := by
          intro other found hrow
          split at hrow
          next heq =>
            cases hrow
            exact heq.symm
          next => exact table.row_id hrow })

def PendingTable.setStatus (table : PendingTable) (id : String)
    (status : RequestStatus) : PendingTable :=
  table.update id (fun request => { request with status }) fun _ => rfl

/-- Store the approvers, and the status that goes with them. -/
def PendingTable.setApprovers (table : PendingTable) (id : String)
    (approvers : List Int) (status : RequestStatus) : PendingTable :=
  table.update id (fun request => { request with approvers, status })
    fun _ => rfl

/-- One approver more, unless already there. -/
def addApprover (approvers : List Int) (approverId : Int) : List Int :=
  if approvers.contains approverId then approvers
  else approvers ++ [approverId]

/-- The transaction behind a verified callback. -/
def PendingTable.processCallbackAt (table : PendingTable) (id : String)
    (decision : CallbackDecision) (approverId now : Int) : StoreOutcome × PendingTable :=
  match table.row id with
  | none => (.unknownRequest, table)
  | some request =>
    if request.status = .expired then (.expired request, table)
    else if request.status = .pending ∧ request.expiresAt ≤ now then
      (.expired { request with status := .expired }, table.setStatus id .expired)
    else if request.status ≠ .pending then (.alreadyHandled request, table)
    else if decision = .deny then
      (.denied { request with status := .denied }, table.setStatus id .denied)
    else
      let duplicate := request.approvers.contains approverId
      let approvers := addApprover request.approvers approverId
      let need := max request.require 1
      if need ≤ approvers.length then
        (.approved { request with approvers, status := .approved },
          table.setApprovers id approvers .approved)
      else
        (.awaitingApprovals { request with approvers } approvers.length need
            duplicate, table.setApprovers id approvers request.status)

def PendingTable.markExecuted (table : PendingTable) (id upid : String) : PendingTable :=
  table.update id (fun request =>
      { request with status := .executed, upid := some upid, error := none })
    fun _ => rfl

def PendingTable.markFailed (table : PendingTable) (id error : String) : PendingTable :=
  table.update id
    (fun request => { request with status := .failed, error := some error })
    fun _ => rfl

section Rows

variable {table : PendingTable} {id other : String} {request : PendingRequest}
  {change : PendingRequest → PendingRequest}

theorem PendingTable.update_row_same (hchange : ∀ request, (change request).id = request.id) :
    (table.update id change hchange).row id = (table.row id).map change := by
  simp [PendingTable.update]

theorem PendingTable.update_row_other (hchange : ∀ request, (change request).id = request.id)
    (hother : other ≠ id) :
    (table.update id change hchange).row other = table.row other := by
  simp [PendingTable.update, hother]

/-- A row after an update comes from the row under the same id. -/
theorem PendingTable.row_of_update {hchange : ∀ request, (change request).id = request.id}
    (hrow : (table.update id change hchange).row other = some request) :
    ∃ before, table.row other = some before ∧
      (request = before ∨ other = id ∧ request = change before) := by
  by_cases hother : other = id
  · subst hother
    rw [PendingTable.update_row_same] at hrow
    obtain ⟨before, hbefore, rfl⟩ := Option.map_eq_some_iff.mp hrow
    exact ⟨before, hbefore, Or.inr ⟨rfl, rfl⟩⟩
  · rw [PendingTable.update_row_other _ hother] at hrow
    exact ⟨request, hrow, Or.inl rfl⟩

theorem PendingTable.row_of_openAtWithNow {now : Int}
    (hrow : (table.openAtWithNow now).row id = some request) :
    table.row id = some request :=
  (Option.filter_eq_some_iff.mp hrow).1

end Rows

/-- What the transaction behind a callback can do.  Only a pending request
before its expiry changes, apart from being marked expired after it. -/
inductive CallbackStep (table : PendingTable) (id : String)
    (decision : CallbackDecision) (approverId now : Int) :
    StoreOutcome → PendingTable → Prop where
  | unknown (hrow : table.row id = none) :
      CallbackStep table id decision approverId now .unknownRequest table
  | expiredBefore (request : PendingRequest)
      (hrow : table.row id = some request)
      (hstatus : request.status = .expired) :
      CallbackStep table id decision approverId now (.expired request) table
  | expiredNow (request : PendingRequest) (hrow : table.row id = some request)
      (hpending : request.status = .pending) (hlate : request.expiresAt ≤ now) :
      CallbackStep table id decision approverId now
        (.expired { request with status := .expired })
        (table.setStatus id .expired)
  | handled (request : PendingRequest) (hrow : table.row id = some request)
      (hstatus : request.status ≠ .pending) :
      CallbackStep table id decision approverId now (.alreadyHandled request)
        table
  | denied (request : PendingRequest) (hrow : table.row id = some request)
      (hpending : request.status = .pending) (hearly : now < request.expiresAt)
      (hdecision : decision = .deny) :
      CallbackStep table id decision approverId now
        (.denied { request with status := .denied })
        (table.setStatus id .denied)
  | approved (request : PendingRequest) (hrow : table.row id = some request)
      (hpending : request.status = .pending) (hearly : now < request.expiresAt)
      (hdecision : decision = .approve)
      (hquorum : max request.require 1 ≤ (addApprover request.approvers approverId).length) :
      CallbackStep table id decision approverId now
        (.approved { request with
          approvers := addApprover request.approvers approverId, status := .approved })
        (table.setApprovers id (addApprover request.approvers approverId)
          .approved)
  | awaiting (request : PendingRequest) (hrow : table.row id = some request)
      (hpending : request.status = .pending) (hearly : now < request.expiresAt)
      (hdecision : decision = .approve)
      (hquorum : (addApprover request.approvers approverId).length < max request.require 1) :
      CallbackStep table id decision approverId now
        (.awaitingApprovals { request with
            approvers := addApprover request.approvers approverId }
          (addApprover request.approvers approverId).length
          (max request.require 1) (request.approvers.contains approverId))
        (table.setApprovers id (addApprover request.approvers approverId)
          request.status)

theorem processCallbackAt_step (table : PendingTable) (id : String)
    (decision : CallbackDecision) (approverId now : Int) :
    CallbackStep table id decision approverId now
      (table.processCallbackAt id decision approverId now).1
      (table.processCallbackAt id decision approverId now).2 := by
  unfold PendingTable.processCallbackAt
  split
  next hrow => exact .unknown hrow
  next request hrow =>
  split
  next hexpired => exact .expiredBefore request hrow hexpired
  split
  next hlate => exact .expiredNow request hrow hlate.1 hlate.2
  next hnotLate =>
  split
  next hstatus => exact .handled request hrow hstatus
  next hstatus =>
  have hpending : request.status = .pending := not_not.mp hstatus
  have hearly : now < request.expiresAt := by
    by_contra hge
    exact hnotLate ⟨hpending, not_lt.mp hge⟩
  split
  next hdeny => exact .denied request hrow hpending hearly hdeny
  next hdeny =>
  have happrove : decision = .approve := by
    cases decision with
    | approve => rfl
    | deny => exact absurd rfl hdeny
  dsimp only
  split
  next hquorum => exact .approved request hrow hpending hearly happrove hquorum
  next hquorum => exact .awaiting request hrow hpending hearly happrove (not_le.mp hquorum)

end Proxxx
