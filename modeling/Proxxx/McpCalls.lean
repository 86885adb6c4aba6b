/-
The world around a tool call: the cluster with its reads and its mutations, the
backup server, the store of approval requests and the channel to the approvers.
Every call can fail, and the handling can be cut off at every call.
-/
import Proxxx.HitlHandler
import Proxxx.McpTools

namespace Proxxx

open FaultProgram SerdeJson

structure NodeRow where
  node : String
  json : Json

structure SnapshotRow where
  name : String
  json : Json

def SnapshotRow.isCurrent (snapshot : SnapshotRow) : Bool :=
  snapshot.name == "current"

structure StoragePoolRow where
  storage : String
  content : String
  json : Json

structure ContentRow where
  vmid : Option Nat
  ctime : Nat

structure TaskRow where
  upid : String
  node : String
  user : String
  id : String
  taskType : String
  status : Option String
  starttime : Nat
  endtime : Option Nat
  json : Json

structure CommandResult where
  exitCode : Int
  stdout : String

/-- The calls beside the mutations and the lookup of a guest.
`executeGuestCommand` runs a command inside a guest, which no tool offers; the
last two go to the backup server. -/
inductive ClusterCall where
  | getNodes
  | getGuests (node : String)
  | getAllGuests
  | getGuestStatus (node : String) (vmid : Nat)
  | listSnapshots (node : String) (vmid : Nat) (guestType : GuestType)
  | getStoragePools (node : String)
  | listStorageContent (node storage content : String)
  | getTaskLog (node upid : String) (start limit : Nat)
  | clusterStatus
  | getClusterTasks
  | nodeStatusDetail (node : String)
  | listBackupJobs
  | listReplicationStatus (node : String)
  | executeGuestCommand (node : String) (vmid : Nat) (guestType : GuestType)
      (command : String)
  | listDatastores
  | listBackups (store backupType backupId : String)
deriving Repr, DecidableEq

/-- What is used of an answer; where that is only its text, its JSON value. -/
def ClusterCall.Answer : ClusterCall → Type
  | .getNodes => List NodeRow
  | .listSnapshots _ _ _ => List SnapshotRow
  | .getStoragePools _ => List StoragePoolRow
  | .listStorageContent _ _ _ => List ContentRow
  | .getClusterTasks => List TaskRow
  | .executeGuestCommand _ _ _ _ => CommandResult
  | .listDatastores => List String
  | .listBackups _ _ _ => List Nat
  | .getGuests _ | .getAllGuests | .getGuestStatus _ _ | .getTaskLog _ _ _ _
  | .clusterStatus | .nodeStatusDetail _ | .listBackupJobs
  | .listReplicationStatus _ => Json

structure Policy where
  action : String
  target : String
  channel : String
  require : Nat
deriving Repr, DecidableEq

/-- An approval request as it is sent to the approvers. -/
structure ApprovalMessage where
  action : String
  target : String
  reason : String
  txnId : String
  require : Nat
deriving Repr, DecidableEq

structure McpState where
  calls : History
  reads : List ClusterCall
  messages : List ApprovalMessage
  table : PendingTable

/-- What the handling of a call depends on.  `suppliedGateway` and
`suppliedStore` say that the caller brought its own; otherwise the gateway is
set up from the configuration and the store is opened. -/
structure McpEnv where
  libs : Libraries
  toText : Json → String
  toTextPretty : Json → String
  fromValueMessage : List Field → Json → String
  cloudinitText : Option (List String) → String
  gateway : Gateway
  answer : McpState → (call : ClusterCall) → Reply AppError call.Answer
  clock : McpState → Nat
  policies : List Policy
  suppliedGateway : Bool
  telegram : Option (McpState → Reply AppError Unit)
  pbs : Option (McpState → Reply AppError Unit)
  requestApproval : McpState → ApprovalMessage → Reply AppError Unit
  suppliedStore : Bool
  generateRequestId : McpState → Reply AppError String
  openStore : McpState → Fault
  insertRow : McpState → Fault
  markRow : McpState → Fault
  storeError : McpState → AppError

abbrev Mcp := Program McpState AppError

section Calls

variable (env : McpEnv) {α : Type}

def askCluster (call : ClusterCall) : Mcp call.Answer :=
  FaultProgram.call (env.answer · call) fun _ state =>
    { state with reads := state.reads ++ [call] }

/-- A call that leaves no trace here. -/
def consult (reply : McpState → Reply AppError α) : Mcp α :=
  FaultProgram.call reply fun _ state => state

def nowSecs : Mcp Nat :=
  consult fun state => .ok (env.clock state)

/-- The lookup of guests and the mutations. -/
def onCluster (program : GatewayProgram α) : Mcp α :=
  onPart McpState.calls (fun calls state => { state with calls }) program

/-- Send an approval request to the approvers. -/
def requestApproval (message : ApprovalMessage) : Mcp Unit :=
  FaultProgram.call (env.requestApproval · message) fun _ state =>
    { state with messages := state.messages ++ [message] }

/-- One statement on the store, which takes effect as a whole or not at all. -/
def storeStatement (fault : McpState → Fault)
    (effect : PendingTable → PendingTable) : Mcp Unit := do
  let state ← get
  attempt (fault state) (env.storeError state) fun state =>
    { state with table := effect state.table }

/-- Opening the store sweeps it. -/
def openDefault : Mcp Unit := do
  let time ← nowSecs env
  storeStatement env env.openStore (·.openAtWithNow time)

def insertPending (new : NewPendingRequest) : Mcp String := do
  let time ← nowSecs env
  let id ← consult env.generateRequestId
  let state ← get
  match state.table.insertAt id new time with
  | none => throw (.error (env.storeError state))
  | some (request, table) => do
      storeStatement env env.insertRow fun _ => table
      return request.id

def markPendingFailed (id error : String) : Mcp Unit :=
  storeStatement env env.markRow (·.markFailed id error)

end Calls

section Traces

/-- The history grew, and every mutation in what was added is allowed. -/
def Sends (allowed : Mutation → Bool) (before after : History) : Prop :=
  ∃ added, after = before ++ added ∧
    ∀ mutation reply, .sent mutation reply ∈ added → allowed mutation = true

/-- Nothing but reads and allowed mutations. -/
structure Moves (allowed : Mutation → Bool) (start final : McpState) : Prop where
  sends : Sends allowed start.calls final.calls
  messages : final.messages = start.messages
  table : final.table = start.table

variable {allowed : Mutation → Bool} {α : Type}

instance : Std.Refl (Sends allowed) where
  refl history := ⟨[], by simp⟩

instance : IsTrans History (Sends allowed) where
  trans := by
    rintro first second third ⟨added, rfl, hadded⟩ ⟨more, rfl, hmore⟩
    refine ⟨added ++ more, by simp, ?_⟩
    intro mutation reply hmem
    rcases List.mem_append.mp hmem with hmem | hmem
    · exact hadded mutation reply hmem
    · exact hmore mutation reply hmem

instance : Std.Refl (Moves allowed) where
  refl state := ⟨Std.Refl.refl state.calls, rfl, rfl⟩

instance : IsTrans McpState (Moves allowed) where
  trans first second third hfirst hsecond :=
    { sends := IsTrans.trans first.calls second.calls third.calls hfirst.sends
        hsecond.sends
      messages := hsecond.messages.trans hfirst.messages
      table := hsecond.table.trans hfirst.table }

theorem Sends.mono {wider : Mutation → Bool} {before after : History}
    (hsends : Sends allowed before after)
    (hwider : ∀ mutation, allowed mutation = true → wider mutation = true) :
    Sends wider before after := by
  obtain ⟨added, hafter, hadded⟩ := hsends
  exact ⟨added, hafter, fun mutation reply hmem =>
    hwider mutation (hadded mutation reply hmem)⟩

/-- Looking up a guest or an id sends nothing. -/
theorem sends_lookup {event : GatewayEvent}
    (hevent : ∀ mutation reply, event ≠ .sent mutation reply)
    (history : History) : Sends allowed history (history ++ [event]) := by
  refine ⟨[event], rfl, ?_⟩
  intro mutation reply hmem
  exact absurd (List.mem_singleton.mp hmem).symm (hevent mutation reply)

theorem stays_findGuest (gateway : Gateway) (vmid : Nat) :
    Stays (Sends allowed) (findGuest gateway vmid) :=
  Stays.call fun _ history => sends_lookup (by simp) history

theorem stays_send (gateway : Gateway) {mutation : Mutation} (hallowed : allowed mutation = true) :
    Stays (Sends allowed) (send gateway mutation) := by
  refine Stays.call ?_
  intro answer history
  refine ⟨[.sent mutation answer], rfl, ?_⟩
  intro other reply hmem
  cases List.mem_singleton.mp hmem
  exact hallowed

theorem stays_onCluster {program : GatewayProgram α} (hprogram : Stays (Sends allowed) program) :
    Stays (Moves allowed) (onCluster program) := by
  intro state
  refine Ends.onPart ((hprogram state.calls).imp ?_ ?_)
  · exact fun _ _ hsends => ⟨hsends, rfl, rfl⟩
  · exact fun _ _ hsends => ⟨hsends, rfl, rfl⟩

theorem stays_askCluster (env : McpEnv) (call : ClusterCall) :
    Stays (Moves allowed) (askCluster env call) :=
  Stays.call fun _ state => ⟨Std.Refl.refl state.calls, rfl, rfl⟩

theorem stays_consult (reply : McpState → Reply AppError α) :
    Stays (Moves allowed) (consult reply) :=
  Stays.call fun _ state => Std.Refl.refl state

theorem stays_nowSecs (env : McpEnv) : Stays (Moves allowed) (nowSecs env) := stays_consult _

end Traces

end Proxxx
