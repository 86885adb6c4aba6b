/-
What the daemon does with an approved request: the calls to the cluster, each
answered by the cluster as it likes, and what they may be.
-/
import Proxxx.ApprovedOp
import Proxxx.FaultProgram
import Proxxx.GuestSpec

namespace Proxxx

open FaultProgram

/-- An error of the gateway: its own text, and the text with its causes. -/
structure AppError where
  display : String
  chain : String
deriving Repr, DecidableEq

def AppError.msg (text : String) : AppError :=
  { display := text, chain := text }

/-- The calls that change the cluster. -/
inductive Mutation where
  | startGuest (node : String) (vmid : Nat) (guestType : GuestType)
  | stopGuest (node : String) (vmid : Nat) (guestType : GuestType)
      (force : Bool)
  | shutdownGuest (node : String) (vmid : Nat) (guestType : GuestType)
      (timeoutSecs : Nat)
  | restartGuest (node : String) (vmid : Nat) (guestType : GuestType)
  | suspendGuest (node : String) (vmid : Nat) (guestType : GuestType)
  | resumeGuest (node : String) (vmid : Nat) (guestType : GuestType)
  | deleteGuest (node : String) (vmid : Nat) (guestType : GuestType)
  | createSnapshot (node : String) (vmid : Nat) (guestType : GuestType)
      (name : String)
  | deleteSnapshot (node : String) (vmid : Nat) (guestType : GuestType)
      (name : String)
  | cloneGuest (node : String) (vmid : Nat) (guestType : GuestType)
      (newid : Nat) (name : Option String) (full : Bool)
  | migrateGuest (node : String) (vmid : Nat) (guestType : GuestType)
      (targetNode : String) (online : Bool)
  | createLxc (node : String) (params : List (String × String))
  | createQemu (node : String) (params : List (String × String))
  | updateGuestConfig (node : String) (vmid : Nat) (guestType : GuestType)
      (params : List (String × String))
  | regenerateCloudinit (node : String) (vmid : Nat)
deriving Repr, DecidableEq

structure TaskStatus where
  status : String
  exitstatus : Option String
deriving Repr, DecidableEq

def TaskStatus.isDone (task : TaskStatus) : Bool :=
  task.status == "stopped"

def TaskStatus.isSuccess (task : TaskStatus) : Bool :=
  task.isDone && task.exitstatus == some "OK"

/-- A call to the gateway and its answer. -/
inductive GatewayEvent where
  | found (vmid : Nat) (reply : Reply AppError (Option Guest))
  | nextFree (reply : Reply AppError Nat)
  | nextVmid (reply : Reply AppError Nat)
  | polled (node upid : String) (reply : Reply AppError TaskStatus)
  | sent (mutation : Mutation) (reply : Reply AppError String)
deriving Repr, DecidableEq

/-- The calls so far, the latest one last. -/
abbrev History := List GatewayEvent

/-- The cluster behind the gateway.  Its answers may depend on all calls so far;
`polls` is how often a task is looked at before the deadline has passed. -/
structure Gateway where
  findGuest : History → Nat → Reply AppError (Option Guest)
  nextFreeVmid : History → Reply AppError Nat
  getNextVmid : History → Reply AppError Nat
  getTaskStatus : History → String → String → Reply AppError TaskStatus
  mutate : History → Mutation → Reply AppError String
  polls : Nat

abbrev GatewayProgram := Program History AppError

section Calls

variable (gateway : Gateway)

def findGuest (vmid : Nat) : GatewayProgram (Option Guest) :=
  call (gateway.findGuest · vmid) fun reply history => history ++ [.found vmid reply]

def nextFreeVmid : GatewayProgram Nat :=
  call gateway.nextFreeVmid fun reply history => history ++ [.nextFree reply]

def getNextVmid : GatewayProgram Nat :=
  call gateway.getNextVmid fun reply history => history ++ [.nextVmid reply]

def getTaskStatus (node upid : String) : GatewayProgram TaskStatus :=
  call (gateway.getTaskStatus · node upid) fun reply history => history ++ [.polled node upid reply]

def send (mutation : Mutation) : GatewayProgram String :=
  call (gateway.mutate · mutation) fun reply history => history ++ [.sent mutation reply]

/-- Refuse with a message of the program itself. -/
def bail {α : Type} (text : String) : GatewayProgram α :=
  throw (.error (.msg text))

end Calls

inductive BatchOp where
  | start
  | stop (force : Bool) (timeoutSecs : Nat)
  | restart
  | suspend
  | resume
deriving Repr, DecidableEq

section Executors

variable (gateway : Gateway)

def execCliBatchOp (node : String) (vmid : Nat) (guestType : GuestType) :
    BatchOp → GatewayProgram String
  | .start => send gateway (.startGuest node vmid guestType)
  | .stop true _ => send gateway (.stopGuest node vmid guestType true)
  | .stop false timeoutSecs => send gateway (.shutdownGuest node vmid guestType timeoutSecs)
  | .restart => send gateway (.restartGuest node vmid guestType)
  | .suspend => send gateway (.suspendGuest node vmid guestType)
  | .resume => send gateway (.resumeGuest node vmid guestType)

def execStopGuest (node : String) (guestType : GuestType)
    (params : McpStopGuestParams) : GatewayProgram String :=
  if params.force then
    send gateway (.stopGuest node params.guestId guestType true)
  else send gateway (.shutdownGuest node params.guestId guestType 60)

def execRestartGuest (node : String) (guestType : GuestType)
    (params : McpGuestIdParams) : GatewayProgram String :=
  send gateway (.restartGuest node params.guestId guestType)

def execDeleteGuest (node : String) (guestType : GuestType)
    (params : McpGuestIdParams) : GatewayProgram String :=
  send gateway (.deleteGuest node params.guestId guestType)

def execCreateSnapshot (node : String) (guestType : GuestType)
    (params : McpSnapshotParams) : GatewayProgram String :=
  send gateway (.createSnapshot node params.guestId guestType params.name)

def execDeleteSnapshot (node : String) (guestType : GuestType)
    (params : McpSnapshotParams) : GatewayProgram String :=
  send gateway (.deleteSnapshot node params.guestId guestType params.name)

def execSuspendGuest (node : String) (guestType : GuestType)
    (params : McpGuestIdParams) : GatewayProgram String :=
  send gateway (.suspendGuest node params.guestId guestType)

/-- The id a clone gets: the requested one, or one the cluster picks. -/
def cloneTarget (newid : Nat) : GatewayProgram Nat :=
  if newid = 0 then nextFreeVmid gateway else pure newid

def execCloneGuest (node : String) (guestType : GuestType)
    (params : McpCloneGuestParams) : GatewayProgram (Nat × String) := do
  let newid ← cloneTarget gateway params.newid
  let upid ← send gateway (.cloneGuest node params.guestId guestType newid
    params.name params.full)
  return (newid, upid)

def execMigrateGuest (node : String) (guestType : GuestType)
    (params : McpMigrateGuestParams) : GatewayProgram String :=
  send gateway (.migrateGuest node params.guestId guestType params.targetNode params.online)

/-- The id a new guest gets. -/
def createTarget (vmid : Option Nat) : GatewayProgram Nat :=
  match vmid.filter (0 < ·) with
  | some id => pure id
  | none => getNextVmid gateway

def createLxcParams (params : McpCreateGuestParams) (vmid : Nat)
    (template : String) : List (String × String) :=
  let storage := params.storage.getD "local-lvm"
  let size := params.diskSize.getD 8
  let bridge := params.bridge.getD "vmbr0"
  [("vmid", toString vmid), ("ostemplate", template), ("memory", toString (params.memory.getD 512)),
    ("cores", toString (params.cores.getD 1)), ("rootfs", s!"{storage}:{size}"),
    ("net0", s!"name=eth0,bridge={bridge},ip=dhcp")] ++
  (params.name.toList.map fun name => ("hostname", name))

def createQemuParams (params : McpCreateGuestParams) (vmid : Nat) : List (String × String) :=
  let size := params.diskSize.getD 32
  let bridge := params.bridge.getD "vmbr0"
  [("vmid", toString vmid), ("memory", toString (params.memory.getD 1024)),
    ("cores", toString (params.cores.getD 1)), ("ostype", "l26"),
    ("scsihw", "virtio-scsi-pci"), ("net0", s!"virtio,bridge={bridge}")] ++
  (params.name.toList.map fun name => ("name", name)) ++
  (params.storage.toList.map fun storage => ("scsi0", s!"{storage}:{size}")) ++
  (params.iso.toList.map fun iso => ("cdrom", iso))

/-- Send the creation of the guest type asked for. -/
def sendCreate (params : McpCreateGuestParams) (vmid : Nat) : GatewayProgram String :=
  if params.guestType = "lxc" then
    match params.template with
    | none => bail "create_guest lxc: missing 'template'"
    | some template =>
      send gateway (.createLxc params.node (createLxcParams params vmid template))
  else send gateway (.createQemu params.node (createQemuParams params vmid))

def execCreateGuest (params : McpCreateGuestParams) : GatewayProgram (Nat × String) := do
  ensure (params.guestType == "qemu" || params.guestType == "lxc")
    (.msg (s!"create_guest: invalid type '{params.guestType}' " ++ "(expected 'qemu' or 'lxc')"))
  let vmid ← createTarget gateway params.vmid
  let upid ← sendCreate gateway params vmid
  return (vmid, upid)

/-- Look at the task until it is done; `polls` looks are left after this
one. -/
def pollTask (node upid : String) : Nat → GatewayProgram TaskStatus
  | 0 => do
      let task ← getTaskStatus gateway node upid
      if task.isDone then return task
      else
        bail (s!"task {upid} did not complete within 3600s " ++ s!"(status: {task.status})")
  | polls + 1 => do
      let task ← getTaskStatus gateway node upid
      if task.isDone then return task else pollTask node upid polls

def pollTaskUntilDone (node upid : String) : GatewayProgram TaskStatus :=
  pollTask gateway node upid gateway.polls

/-- Write a cloud-init profile to a guest and regenerate its drive; the keys
written, or nothing for an empty profile. -/
def applyCloudinitAndRegen (node : String) (vmid : Nat) (guestType : GuestType)
    (profile : CloudInitProfile) : GatewayProgram (Option (List String)) := do
  ensure (guestType == .qemu) (.msg s!"cloud-init is QEMU-only — VMID {vmid} is an LXC container")
  let params ← liftResult (profile.toParams.mapError .msg)
  if params.isEmpty then return none
  else do
    let _ ← send gateway (.updateGuestConfig node vmid guestType params)
    let _ ← send gateway (.regenerateCloudinit node vmid)
    return some (params.map (·.1))

def cloudInitProfile (params : McpCloneWithCloudinitParams) : CloudInitProfile :=
  { ciuser := params.ciuser, cipassword := none, sshkey := params.sshkey
    ipconfig0 := params.ipconfig0, searchdomain := params.searchdomain
    nameserver := params.nameserver }

def debugExitstatus (libs : Libraries) : Option String → String
  | none => "None"
  | some text => s!"Some({libs.debugText text})"

def execCloneWithCloudinit (libs : Libraries) (node : String)
    (guestType : GuestType) (params : McpCloneWithCloudinitParams) :
    GatewayProgram (Nat × String × Option (List String)) := do
  ensure (guestType == .qemu) (.msg (s!"clone_with_cloudinit: VMID {params.guestId} is LXC — " ++
      "cloud-init is QEMU-only"))
  let newid ← cloneTarget gateway params.newid
  let upid ← send gateway (.cloneGuest node params.guestId guestType newid
    params.name params.full)
  let task ← pollTaskUntilDone gateway node upid
  ensure task.isSuccess (.msg (s!"clone task did not succeed (status=" ++
      s!"{debugExitstatus libs task.exitstatus}); cloud-init not applied"))
  let applied ← applyCloudinitAndRegen gateway node newid guestType
    (cloudInitProfile params)
  return (newid, upid, applied)

/-- The guest an operation was bound to: id, node and type. -/
abbrev BoundGuest := Nat × String × GuestType

def requireBound (bound : Option BoundGuest) : GatewayProgram BoundGuest :=
  match bound with
  | some guest => pure guest
  | none => bail "missing bound guest context"

def executeApprovedOp (libs : Libraries) (op : ApprovedOp)
    (rowVmid : Option Nat) (bound : Option BoundGuest) : GatewayProgram String :=
  match op with
  | .cliStart => do
      let (vmid, node, guestType) ← requireBound bound
      execCliBatchOp gateway node vmid guestType .start
  | .cliStop params => do
      let (vmid, node, guestType) ← requireBound bound
      execCliBatchOp gateway node vmid guestType (.stop params.force params.timeoutSecs)
  | .cliRestart => do
      let (vmid, node, guestType) ← requireBound bound
      execCliBatchOp gateway node vmid guestType .restart
  | .cliSuspend => do
      let (vmid, node, guestType) ← requireBound bound
      execCliBatchOp gateway node vmid guestType .suspend
  | .cliResume => do
      let (vmid, node, guestType) ← requireBound bound
      execCliBatchOp gateway node vmid guestType .resume
  | .mcpStopGuest params => do
      let (_, node, guestType) ← requireBound bound
      execStopGuest gateway node guestType params
  | .mcpRestartGuest params => do
      let (_, node, guestType) ← requireBound bound
      execRestartGuest gateway node guestType params
  | .mcpDeleteGuest params => do
      let (_, node, guestType) ← requireBound bound
      execDeleteGuest gateway node guestType params
  | .mcpCreateSnapshot params => do
      let (_, node, guestType) ← requireBound bound
      execCreateSnapshot gateway node guestType params
  | .mcpDeleteSnapshot params => do
      let (_, node, guestType) ← requireBound bound
      execDeleteSnapshot gateway node guestType params
  | .mcpSuspendGuest params => do
      let (_, node, guestType) ← requireBound bound
      execSuspendGuest gateway node guestType params
  | .mcpCloneGuest params => do
      let (_, node, guestType) ← requireBound bound
      let (_, upid) ← execCloneGuest gateway node guestType params
      return upid
  | .mcpMigrateGuest params => do
      let (_, node, guestType) ← requireBound bound
      execMigrateGuest gateway node guestType params
  | .mcpCreateGuest params => do
      let (_, upid) ← execCreateGuest gateway
        { params with vmid := params.vmid.or rowVmid }
      return upid
  | .mcpCloneWithCloudinit params => do
      let (_, node, guestType) ← requireBound bound
      let (_, upid, _) ← execCloneWithCloudinit gateway libs node guestType
        params
      return upid

end Executors

/-- Why an approved request was not carried out: refused before any mutation,
or the lookup of a guest failed, or the execution did. -/
inductive PerformError where
  | refused (vmid : Nat) (text : String)
  | lookup (error : AppError)
  | execution (vmid : Nat) (error : AppError)
deriving Repr, DecidableEq

abbrev Performance := Program History PerformError

section Perform

variable (libs : Libraries) (gateway : Gateway) (request : PendingRequest)

def refuse {α : Type} (vmid : Nat) (text : String) : Performance α :=
  throw (.error (.refused vmid text))

/-- The node and the type recorded with the request. -/
def PendingRequest.binding (request : PendingRequest) : Option (String × GuestType) :=
  match request.node.filter (· ≠ ""), request.guestType with
  | some node, some guestType => some (node, guestType)
  | _, _ => none

/-- The preflight on the guest as it is now. -/
def checkRisks (op : ApprovedOp) (vmid : Nat) (guest : Guest) : Performance Unit :=
  match op.preflightOp with
  | none => pure ()
  | some preflight =>
    let risks := assess preflight guest
    if maxLevel risks = .severe then
      refuse vmid (s!"preflight refused the {preflight.text} at execution:\n" ++ renderRisks risks)
    else pure ()

/-- Find the guest of the operation and compare it with the record. -/
def bindGuest (op : ApprovedOp) (vmid : Nat) : Performance BoundGuest :=
  match request.binding with
  | none =>
    refuse vmid "request has no recorded guest binding (node/type); request again"
  | some (node, guestType) => do
      let live ← mapError .lookup (findGuest gateway vmid)
      let changed (found : String) : String :=
        s!"guest changed since the request (expected {node}/" ++
          s!"{guestType.text}, found {found})"
      match live with
      | none => refuse vmid (changed "missing")
      | some guest =>
        if guest.node = node ∧ guest.guestType = guestType then do
          checkRisks op vmid guest
          return (vmid, guest.node, guest.guestType)
        else
          refuse vmid (changed s!"{guest.node}/{guest.guestType.text}")

/-- A new guest must be created where the request recorded it. -/
def checkCreateBinding (op : ApprovedOp) : Performance Unit :=
  match op with
  | .mcpCreateGuest params =>
    let node := request.node.getD "<any>"
    let guestType := (request.guestType.map GuestType.text).getD "<any>"
    if (request.node.any (· ≠ params.node)) ∨
        (request.guestType.any (·.text ≠ params.guestType)) then
      refuse (op.targetVmid request) (s!"guest changed since the request (expected {node}/" ++
          s!"{guestType}, found {params.node}/{params.guestType})")
    else pure ()
  | _ => pure ()

def bindExisting (op : ApprovedOp) : Performance (Option BoundGuest) :=
  match op.existingGuestVmid request with
  | some vmid => do
      let guest ← bindGuest gateway request op vmid
      return some guest
  | none => do
      checkCreateBinding request op
      return none

def checkFreeTarget (op : ApprovedOp) : Performance Unit :=
  match op.freeTargetVmid request with
  | none => pure ()
  | some vmid => do
      let existing ← mapError .lookup (findGuest gateway vmid)
      match existing with
      | none => pure ()
      | some guest =>
        refuse (op.targetVmid request)
          (s!"guest changed since the request (expected target VMID {vmid} " ++
            s!"to be free, found {guest.node}/{guest.guestType.text})")

/-- From the approval to the last call to the cluster: the id and the task of
the operation. -/
def performApproved : Performance (Nat × String) := do
  let op ← liftResult ((ApprovedOp.decode libs request).mapError fun reason =>
    .refused (request.vmid.getD 0) s!"cannot decode approved operation: {reason}")
  let bound ← bindExisting gateway request op
  checkFreeTarget gateway request op
  let upid ← mapError (.execution (op.targetVmid request))
    (executeApprovedOp gateway libs op request.vmid bound)
  return (op.targetVmid request, upid)

end Perform

end Proxxx
