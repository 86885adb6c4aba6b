/-
The dispatch of side effects in the terminal interface.  Directly dispatched
operations take their guest from the reducer's snapshot; the queue's worker reads
it from the cluster again.  The approval gate sees the snapshot in both cases.
-/
import Proxxx.CliSecure
import Proxxx.GuestPreflight
import Proxxx.McpDispatch
import Proxxx.TuiQueue

namespace Proxxx

section Effects

/-- What the gate and the dispatch read of the reducer's state. -/
structure TuiView where
  guests : List Guest
  secureMode : Bool
deriving Repr, DecidableEq

def TuiView.find (view : TuiView) (vmid : Nat) : Option Guest :=
  view.guests.find? (·.vmid == vmid)

def guestTags (guest : Option Guest) : List String :=
  (guest.map Guest.tagList).getD []

/-- The side effects; the ones without a change in PVE are one constructor. -/
inductive SideEffect where
  | startGuest (vmid : Nat)
  | stopGuest (vmid : Nat) (force : Bool)
  | restartGuest (vmid : Nat)
  | deleteGuest (vmid : Nat)
  | createSnapshot (vmid : Nat) (name : String)
  | migrateGuest (node : String) (vmid : Nat) (targetNode : String)
  | executeGuestCommand (node : String) (vmid : Nat) (guestType : GuestType)
      (command : String)
  | downloadIso (node storage url filename : String)
      (checksum : Option (String × String)) (content : String)
  | moveDisk (node : String) (vmid : Nat) (guestType : GuestType)
      (disk targetStorage : String) (deleteSource : Bool)
  | resizeDisk (node : String) (vmid : Nat) (guestType : GuestType)
      (disk size : String)
  | executeQueue (ops : List QueuedOp)
  | other
deriving Repr, DecidableEq

/-- The calls of the gateway that change something in PVE. -/
inductive TuiMutation where
  | startGuest (node : String) (vmid : Nat) (guestType : GuestType)
  | stopGuest (node : String) (vmid : Nat) (guestType : GuestType)
      (force : Bool)
  | shutdownGuest (node : String) (vmid : Nat) (guestType : GuestType)
      (timeoutSecs : Nat)
  | restartGuest (node : String) (vmid : Nat) (guestType : GuestType)
  | deleteGuest (node : String) (vmid : Nat) (guestType : GuestType)
  | createSnapshot (node : String) (vmid : Nat) (guestType : GuestType)
      (name : String)
  | migrateGuest (node : String) (vmid : Nat) (guestType : GuestType)
      (targetNode : String) (online withLocalDisks restart : Bool)
  | executeGuestCommand (node : String) (vmid : Nat) (guestType : GuestType)
      (command : String)
  | downloadToStorage (node storage url filename : String)
      (algorithm hex : Option String) (content : String)
  | moveDisk (node : String) (vmid : Nat) (guestType : GuestType)
      (disk targetStorage : String) (deleteSource : Bool)
  | resizeDisk (node : String) (vmid : Nat) (guestType : GuestType)
      (disk size : String)
deriving Repr, DecidableEq

structure HitlTarget where
  action : String
  vmid : Nat
deriving Repr, DecidableEq

def hitlAction : SideEffect → Option HitlTarget
  | .startGuest vmid => some ⟨"start", vmid⟩
  | .stopGuest vmid _ => some ⟨"stop", vmid⟩
  | .restartGuest vmid => some ⟨"restart", vmid⟩
  | .deleteGuest vmid => some ⟨"delete", vmid⟩
  | .createSnapshot vmid _ => some ⟨"snapshot", vmid⟩
  | .migrateGuest _ vmid _ => some ⟨"migrate", vmid⟩
  | .executeGuestCommand _ vmid _ _ => some ⟨"exec", vmid⟩
  | .downloadIso .. => some ⟨"download_iso", 0⟩
  | .moveDisk _ vmid .. => some ⟨"move_disk", vmid⟩
  | .resizeDisk _ vmid .. => some ⟨"resize_disk", vmid⟩
  | .executeQueue _ | .other => none

def queuedActionHitlTarget : TuiAction → Option HitlTarget
  | .startGuest vmid => some ⟨"start", vmid⟩
  | .stopGuest vmid _ => some ⟨"stop", vmid⟩
  | .restartGuest vmid => some ⟨"restart", vmid⟩
  | .deleteGuest vmid => some ⟨"delete", vmid⟩
  | .migrateGuest vmid _ => some ⟨"migrate", vmid⟩
  | .executeGuestCommand vmid _ => some ⟨"exec", vmid⟩
  | .moveDisk vmid .. => some ⟨"move_disk", vmid⟩
  | .resizeDisk vmid .. => some ⟨"resize_disk", vmid⟩
  | .other => none

end Effects

section Gate

def policyFor (policies : List Policy) (target : HitlTarget) (tags : List String) : Option Policy :=
  checkPolicies policies target.action (toString target.vmid) tags

def secureRequired (view : TuiView) (target : HitlTarget) : Bool :=
  view.secureMode && isDestructiveAction target.action

/-- What has to be approved before the effect is dispatched. -/
structure ApprovalNeed where
  target : HitlTarget
  channel : String
  require : Nat
  effect : SideEffect
deriving Repr, DecidableEq

/-- The gate: the effect goes on, or its approval is asked for. -/
def checkHitl (policies : List Policy) (view : TuiView) (skipHitl : Bool)
    (target : HitlTarget) (effect : SideEffect) : Except ApprovalNeed SideEffect :=
  if skipHitl then .ok effect
  else
    let matched := policyFor policies target (guestTags (view.find target.vmid))
    if matched.isSome || secureRequired view target then
      .error
        { target
          channel :=
            if secureRequired view target then "telegram"
            else (matched.map Policy.channel).getD "telegram"
          -- Secure mode without a policy is the case of one approver.
          require := (matched.map Policy.require).getD 1
          effect }
    else .ok effect

/-- The approval a queued operation has to wait for, if any. -/
def queueNeed (policies : List Policy) (view : TuiView) (skipHitl : Bool)
    (op : QueuedOp) : Option ApprovalNeed :=
  match queuedActionHitlTarget op.action with
  | none => none
  | some target =>
    match checkHitl policies view skipHitl target (.executeQueue [op]) with
    | .error need => some need
    | .ok _ => none

end Gate

section Sending

/-- A call on its way to PVE: what it is for and the guest that was looked up. -/
structure SentMutation where
  target : HitlTarget
  guest : Option Guest
  mutation : TuiMutation
deriving Repr, DecidableEq

/-- The call of a directly dispatched effect. -/
def SideEffect.mutation (view : TuiView) : SideEffect → Option TuiMutation
  | .startGuest vmid => (view.find vmid).map fun guest =>
    .startGuest guest.node vmid guest.guestType
  | .stopGuest vmid force => (view.find vmid).map fun guest =>
    if force then .stopGuest guest.node vmid guest.guestType true
    else .shutdownGuest guest.node vmid guest.guestType 60
  | .restartGuest vmid => (view.find vmid).map fun guest =>
    .restartGuest guest.node vmid guest.guestType
  | .deleteGuest vmid => (view.find vmid).map fun guest =>
    .deleteGuest guest.node vmid guest.guestType
  | .createSnapshot vmid name => (view.find vmid).map fun guest =>
    .createSnapshot guest.node vmid guest.guestType name
  | .migrateGuest node vmid targetNode => (view.find vmid).map fun guest =>
    .migrateGuest node vmid guest.guestType targetNode
      (guest.guestType == .qemu) true (guest.guestType == .lxc)
  | .executeGuestCommand node vmid guestType command =>
    some (.executeGuestCommand node vmid guestType command)
  | .downloadIso node storage url filename checksum content =>
    some (.downloadToStorage node storage url filename (checksum.map (·.1))
      (checksum.map (·.2)) content)
  | .moveDisk node vmid guestType disk targetStorage deleteSource =>
    some (.moveDisk node vmid guestType disk targetStorage deleteSource)
  | .resizeDisk node vmid guestType disk size => some (.resizeDisk node vmid guestType disk size)
  | .executeQueue _ | .other => none

def TuiAction.preflightOp : TuiAction → Option PreflightOp
  | .deleteGuest _ => some .delete
  | .stopGuest .. => some .stop
  | .restartGuest _ => some .restart
  | .migrateGuest .. => some .migrate
  | .moveDisk .. => some .moveDisk
  | .resizeDisk .. => some .resizeDisk
  | .startGuest _ | .executeGuestCommand .. | .other => none

def severeDetail (risks : List (Risk × RiskLevel)) : String :=
  "; ".intercalate ((risks.filter (·.2 == .severe)).map (·.1.describe))

/-- Why the pre-flight keeps a queued operation from the guest. -/
def QueuedOp.refusal (op : QueuedOp) (guest : Guest) : Option String :=
  if op.bypassPreflight then none
  else
    op.action.preflightOp.bind fun preflight =>
      let risks := assess preflight guest
      if maxLevel risks = .severe then
        some ("preflight refused: " ++ severeDetail risks)
      else none

/-- The call of a queued operation on the guest the worker looked up. -/
def TuiAction.mutation (guest : Guest) : TuiAction → Option TuiMutation
  | .startGuest vmid => some (.startGuest guest.node vmid guest.guestType)
  | .stopGuest vmid true => some (.stopGuest guest.node vmid guest.guestType true)
  | .stopGuest vmid false => some (.shutdownGuest guest.node vmid guest.guestType 60)
  | .restartGuest vmid => some (.restartGuest guest.node vmid guest.guestType)
  | .migrateGuest vmid targetNode =>
    some (.migrateGuest guest.node vmid guest.guestType targetNode
      (guest.guestType == .qemu) true (guest.guestType == .lxc))
  | .executeGuestCommand vmid command =>
    some (.executeGuestCommand guest.node vmid guest.guestType command)
  | .moveDisk vmid disk targetStorage deleteSource =>
    some (.moveDisk guest.node vmid guest.guestType disk targetStorage deleteSource)
  | .resizeDisk vmid disk size => some (.resizeDisk guest.node vmid guest.guestType disk size)
  | .deleteGuest vmid => some (.deleteGuest guest.node vmid guest.guestType)
  | .other => none

/-- The worker on one operation: the call it sends, or the error it reports. -/
def workOp (op : QueuedOp) (lookup : Except String Guest) : Except String SentMutation :=
  match queuedActionHitlTarget op.action with
  | none => .error "Invalid Action"
  | some target =>
    match lookup with
    | .error text => .error text
    | .ok guest =>
      match op.refusal guest with
      | some text => .error text
      | none =>
        match op.action.mutation guest with
        | some mutation => .ok { target, guest := some guest, mutation }
        | none => .error "action not dispatchable from the operation queue"

end Sending

section Dispatch

inductive TelegramAnswer where
  | unconfigured
  | failed
  | delivered
deriving Repr, DecidableEq

/-- What the world answers on one operation: the cluster on the worker's lookup,
and the channel on a request for approval. -/
structure OpEnv where
  lookup : Except String Guest
  txnId : String
  telegram : TelegramAnswer
  now : Nat

/-- `saved` is the write-ahead of the queue; the rest goes by the operation's
place. -/
structure DispatchEnv where
  saved : Bool
  answers : Nat → OpEnv

def DispatchEnv.attach (env : DispatchEnv) (ops : List QueuedOp) : List (QueuedOp × OpEnv) :=
  ops.zipIdx.map fun place => (place.1, env.answers place.2)

structure Dispatched where
  held : List (ApprovalNeed × OpEnv)
  sent : List SentMutation

def dispatchQueue (policies : List Policy) (view : TuiView) (skipHitl : Bool)
    (ops : List QueuedOp) (env : DispatchEnv) : Dispatched :=
  -- Without its write-ahead the batch is not dispatched.
  if env.saved then
    { held := (env.attach ops).filterMap fun place =>
        (queueNeed policies view skipHitl place.1).map (·, place.2)
      sent := (env.attach ops).filterMap fun place =>
        match queueNeed policies view skipHitl place.1 with
        | some _ => none
        | none => (workOp place.1 place.2.lookup).toOption }
  else { held := [], sent := [] }

def dispatchDirect (policies : List Policy) (view : TuiView) (skipHitl : Bool)
    (effect : SideEffect) (env : DispatchEnv) : Dispatched :=
  match hitlAction effect with
  | none => { held := [], sent := [] }
  | some target =>
    match checkHitl policies view skipHitl target effect with
    | .error need => { held := [(need, env.answers 0)], sent := [] }
    | .ok effect =>
      { held := [], sent := (effect.mutation view).toList.map fun mutation =>
          { target, guest := view.find target.vmid, mutation } }

def dispatchSideEffect (policies : List Policy) (view : TuiView)
    (skipHitl : Bool) (effect : SideEffect) (env : DispatchEnv) : Dispatched :=
  match effect with
  | .executeQueue ops => dispatchQueue policies view skipHitl ops env
  | effect => dispatchDirect policies view skipHitl effect env

end Dispatch

section Rules

variable {policies : List Policy} {view : TuiView} {skipHitl : Bool}
  {target : HitlTarget} {effect : SideEffect} {op : QueuedOp}

/-- Whether the gate asks for an approval. -/
def Intercepted (policies : List Policy) (view : TuiView) (target : HitlTarget) : Prop :=
  (policyFor policies target (guestTags (view.find target.vmid))).isSome ∨
    secureRequired view target = true

instance (policies : List Policy) (view : TuiView) (target : HitlTarget) :
    Decidable (Intercepted policies view target) :=
  inferInstanceAs (Decidable (_ ∨ _))

theorem checkHitl_eq_ok_iff {passed : SideEffect} :
    checkHitl policies view skipHitl target effect = .ok passed ↔ passed = effect ∧
        (skipHitl = true ∨ ¬ Intercepted policies view target) := by
  rw [Intercepted, ← Bool.or_eq_true]
  unfold checkHitl
  split
  next hskip => simpa [hskip] using eq_comm
  next hskip =>
    dsimp only
    split
    next hheld => simp [hskip, hheld]
    next hfree => simpa [hskip, hfree] using eq_comm

theorem checkHitl_eq_error {need : ApprovalNeed}
    (hheld : checkHitl policies view skipHitl target effect = .error need) :
    need.target = target ∧ need.effect = effect := by
  revert hheld
  fun_cases checkHitl policies view skipHitl target effect <;> intro hheld <;> cases hheld
  exact ⟨rfl, rfl⟩

theorem queueNeed_eq_none_iff (htarget : queuedActionHitlTarget op.action = some target) :
    queueNeed policies view skipHitl op = none ↔
      skipHitl = true ∨ ¬ Intercepted policies view target := by
  rw [queueNeed, htarget]
  dsimp only
  split
  next need hheld =>
    simp only [reduceCtorEq, false_iff]
    intro hfree
    rw [checkHitl_eq_ok_iff.mpr ⟨rfl, hfree⟩] at hheld
    cases hheld
  next passed hpassed => simpa using (checkHitl_eq_ok_iff.mp hpassed).2

theorem queueNeed_eq_some {need : ApprovalNeed}
    (hneed : queueNeed policies view skipHitl op = some need) :
    queuedActionHitlTarget op.action = some need.target ∧ need.effect = .executeQueue [op] := by
  revert hneed
  fun_cases queueNeed policies view skipHitl op <;> intro hneed <;> cases hneed
  next target htarget hheld =>
    obtain ⟨hfor, heffect⟩ := checkHitl_eq_error hheld
    exact ⟨hfor ▸ htarget, heffect⟩

/-- Every action with a target has a call, so the worker sends exactly what its
lookup finds and its pre-flight lets through. -/
theorem workOp_eq_ok_iff {lookup : Except String Guest} {sent : SentMutation} :
    workOp op lookup = .ok sent ↔
      ∃ target guest mutation, queuedActionHitlTarget op.action = some target ∧
        lookup = .ok guest ∧ op.refusal guest = none ∧
        op.action.mutation guest = some mutation ∧
        sent = { target, guest := some guest, mutation } := by
  unfold workOp
  cases queuedActionHitlTarget op.action with
  | none => simp
  | some target =>
    cases lookup with
    | error text => simp
    | ok guest =>
      cases hrefusal : op.refusal guest with
      | some text => simp [hrefusal]
      | none => cases hmutation : op.action.mutation guest <;> simp [hrefusal, hmutation, eq_comm]

theorem mutation_isSome (guest : Guest) (htarget : queuedActionHitlTarget op.action = some target) :
    (op.action.mutation guest).isSome := by
  cases haction : op.action with
  | stopGuest vmid force => cases force <;> rfl
  | other => simp [haction, queuedActionHitlTarget] at htarget
  | _ => rfl

end Rules

end Proxxx
