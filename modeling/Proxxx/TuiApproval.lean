/-
Approvals in the terminal interface.  An intercepted effect waits at the desk of
the coordinator; it is dispatched without the gate once enough approvers have
answered.  The log keeps every call that was sent with the answer it rests on.
-/
import Proxxx.StepSystem
import Proxxx.TelegramCallback
import Proxxx.TuiDispatch

namespace Proxxx

open StepSystem

section Desk

/-- A request the coordinator waits for; `task` hears its answer. -/
structure PendingTuiEntry where
  txnId : String
  require : Nat
  expiresAt : Nat
  approvers : List Int
  task : Nat
deriving Repr, DecidableEq

inductive TaskState where
  | waiting
  | denied
  | approved (approvers : List Int)
  | finished
deriving Repr, DecidableEq

/-- The task behind an intercepted effect. -/
structure ApprovalTask where
  txnId : String
  need : ApprovalNeed
  state : TaskState
deriving Repr, DecidableEq

/-- The coordinator and the tasks that wait for it. -/
structure ApprovalDesk where
  pending : List PendingTuiEntry
  tasks : List ApprovalTask
deriving Repr, DecidableEq

def hitlTtlSecs : Nat := 120

namespace ApprovalDesk

def unregister (desk : ApprovalDesk) (txnId : String) : ApprovalDesk :=
  { desk with pending := desk.pending.filter (·.txnId != txnId) }

/-- The start of a task: without a channel, or when the request cannot be sent,
it ends as a denial. -/
def request (desk : ApprovalDesk) (held : ApprovalNeed × OpEnv) : ApprovalDesk :=
  match held.2.telegram with
  | .unconfigured => desk
  | .failed => desk.unregister held.2.txnId
  | .delivered =>
    { pending :=
        { txnId := held.2.txnId, require := max held.1.require 1
          expiresAt := held.2.now + hitlTtlSecs, approvers := [], task := desk.tasks.length } ::
        (desk.unregister held.2.txnId).pending
      tasks := desk.tasks ++ [{ txnId := held.2.txnId, need := held.1, state := .waiting }] }

/-- A task hears at most one answer. -/
def answer (desk : ApprovalDesk) (task : Nat) (state : TaskState) : ApprovalDesk :=
  { desk with
    tasks := desk.tasks.modify task fun old =>
      if old.state = .waiting then { old with state } else old }

def close (desk : ApprovalDesk) (task : Nat) : ApprovalDesk :=
  { desk with
    tasks := desk.tasks.modify task fun old => { old with state := .finished } }

/-- A verified callback. -/
def applyCallback (desk : ApprovalDesk) (txnId : String)
    (decision : CallbackDecision) (approverId : Int) (now : Nat) : ApprovalDesk :=
  match desk.pending.find? (·.txnId == txnId) with
  | none => desk
  | some entry =>
    if entry.expiresAt ≤ now then desk.unregister txnId
    else
      match decision with
      | .deny => (desk.unregister txnId).answer entry.task .denied
      | .approve =>
        let approvers := entry.approvers.insert approverId
        if max entry.require 1 ≤ approvers.length then
          (desk.unregister txnId).answer entry.task (.approved approvers)
        else
          { desk with
            pending := desk.pending.map fun other =>
              if other.txnId == txnId then { other with approvers }
              else other }

end ApprovalDesk

end Desk

section Runs

/-- The approvers who answered a request, and how many it asked for. -/
structure Ballot where
  target : HitlTarget
  require : Nat
  approvers : List Int
deriving Repr, DecidableEq

/-- A call in the log, with the secure mode at its dispatch. -/
structure LoggedCall where
  sent : SentMutation
  secureMode : Bool
  ballot : Option Ballot
deriving Repr, DecidableEq

structure TuiState where
  view : TuiView
  desk : ApprovalDesk
  log : List LoggedCall
deriving Repr, DecidableEq

def TuiState.start (view : TuiView) : TuiState :=
  { view, desk := { pending := [], tasks := [] }, log := [] }

/-- The reducer refreshes its view, an effect is dispatched, a callback arrives, a
task gives up waiting, or the loop takes the answer of a task. -/
inductive TuiEvent where
  | refresh (view : TuiView)
  | dispatch (effect : SideEffect) (env : DispatchEnv)
  | callback (txnId : String) (decision : CallbackDecision) (approverId : Int)
      (now : Nat)
  | giveUp (task : Nat)
  | deliver (task : Nat) (env : DispatchEnv)

def TuiState.dispatch (state : TuiState) (policies : List Policy)
    (ballot : Option Ballot) (effect : SideEffect) (env : DispatchEnv) : TuiState :=
  let done := dispatchSideEffect policies state.view ballot.isSome effect env
  { state with
    desk := done.held.foldl ApprovalDesk.request state.desk
    log := state.log ++ done.sent.map fun sent =>
      { sent, secureMode := state.view.secureMode, ballot } }

def TuiState.step (policies : List Policy) (state : TuiState) : TuiEvent → Option TuiState
  | .refresh view => some { state with view }
  | .dispatch effect env => some (state.dispatch policies none effect env)
  | .callback txnId decision approverId now =>
    some { state with
      desk := state.desk.applyCallback txnId decision approverId now }
  | .giveUp task =>
    match state.desk.tasks[task]? with
    | some waiting =>
      if waiting.state = .waiting then
        some { state with
          desk := (state.desk.unregister waiting.txnId).close task }
      else none
    | none => none
  | .deliver task env =>
    match state.desk.tasks[task]? with
    | some heard =>
      let closed := { state with desk := state.desk.close task }
      match heard.state with
      | .approved approvers =>
        some (closed.dispatch policies (some
            { target := heard.need.target, require := heard.need.require
              approvers })
          heard.need.effect env)
      | .denied => some closed
      | .waiting | .finished => none
    | none => none

end Runs

end Proxxx
