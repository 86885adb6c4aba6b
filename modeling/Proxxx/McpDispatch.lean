/-
Handling a tool call.  A tool marked destructive is only recorded as a request
for approval, or refused; every other tool runs at once.
-/
import Proxxx.McpPreflight

namespace Proxxx

open FaultProgram SerdeJson

/-- The text of an answer, and whether it is marked as an error. -/
structure ToolAnswer where
  text : String
  isError : Bool
deriving Repr, DecidableEq

section Policies

def Guest.tagList (guest : Guest) : List String :=
  if guest.tags.isEmpty then [] else RustStr.split guest.tags ';'

/-- `trim_start_matches("tag:")`: every leading occurrence is removed. -/
def trimTagMarks : List Char → List Char
  | 't' :: 'a' :: 'g' :: ':' :: rest => trimTagMarks rest
  | rest => rest

def Policy.targetsTag (policy : Policy) : Bool :=
  RustStr.startsWith policy.target "tag:"

def Policy.governs (policy : Policy) (action target : String) (tags : List String) : Bool :=
  (policy.action == "*" || policy.action == action) &&
    (policy.target == "*" || policy.target == target ||
      (policy.targetsTag && tags.contains (String.ofList (trimTagMarks policy.target.toList))))

def checkPolicies (policies : List Policy) (action target : String)
    (tags : List String) : Option Policy :=
  policies.find? (·.governs action target tags)

end Policies

section Arguments

/-- A number among the arguments, cut to 32 bits. -/
def natArg (args : Json) (key : String) : Option Nat :=
  ((args.get? key).bind Json.asU64).map (· % 2 ^ 32)

def textArg (args : Json) (key : String) : Option String :=
  (args.get? key).bind Json.asStr

def guestIdArg (args : Json) : Option Nat :=
  natArg args "guest_id"

def vmidArg (args : Json) : Option Nat :=
  (guestIdArg args).or (natArg args "vmid")

def targetArg (args : Json) : String :=
  (vmidArg args).elim "" toString

end Arguments

section Texts

variable (name : String)

def refusedUngated : ToolAnswer :=
  { text := s!"Refused: '{name}' is a destructive operation and no HITL " ++
      "policy governs it. proxxx does not execute ungated destructive MCP " ++
      "calls. Declare a matching [[policies]] entry to route this operation " ++
      "through approval."
    isError := true }

def approvalNotSent (policy : Policy) (why : String) : ToolAnswer :=
  { text := s!"Refused: '{name}' requires {policy.require} approval(s) via " ++
      s!"{policy.channel}, but {why}, so no approval request was sent. " ++
      "The action was not run."
    isError := true }

def refusedSevere (vmid : Nat) (rendered : String) : ToolAnswer :=
  { text := s!"Refused: the risk preflight for '{name}' on guest {vmid} " ++
      "found a SEVERE risk, so no approval was requested:\n" ++ rendered
    isError := true }

def interceptedText (policy : Policy) (txnId : String) : String :=
  s!"Action intercepted by HITL policy. Requires {policy.require} " ++
    s!"approval(s) via {policy.channel}. Transaction: {txnId}"

end Texts

section Gate

variable (env : McpEnv) (name : String) (args : Json)

def failWith {α : Type} (text : String) : Mcp α :=
  throw (.error (.msg text))

/-- The guest whose tags a policy may ask for. -/
def fetchTagged : Mcp (Option Guest) :=
  match env.policies.any (·.targetsTag), guestIdArg args with
  | true, some vmid => onCluster (findGuest env.gateway vmid)
  | _, _ => return none

/-- The first policy that governs the call, and the guest if it was fetched. -/
def matchPolicy : Mcp (Option Guest × Option Policy) :=
  if env.policies.isEmpty then return (none, none)
  else do
    let fetched ← fetchTagged env args
    let tags := (fetched.map Guest.tagList).getD []
    return (fetched, checkPolicies env.policies name (targetArg args) tags)

/-- The channel to the approvers, or why there is none. -/
def setUpGateway : Mcp (Except String Unit) :=
  if env.suppliedGateway then return .ok ()
  else
    match env.telegram with
    | none => return .error "no [telegram] section is configured"
    | some fromConfig => do
        match ← toResult (consult fromConfig) with
        | .ok _ => return .ok ()
        | .error e =>
          return .error s!"the Telegram gateway could not be set up ({e.chain})"

/-- Where the request is bound to, and what the approvers are told about its
risks; or the answer, if the call is refused already. -/
abbrev Placement := Except ToolAnswer (String × GuestType × String)

def resolveGuest (vmid : Nat) (fetched : Option Guest) : Mcp Guest :=
  match fetched with
  | some guest => return guest
  | none => do
      match ← onCluster (findGuest env.gateway vmid) with
      | some guest => return guest
      | none => failWith s!"Guest {vmid} not found"

def assessGuest (vmid : Nat) (guest : Guest) : Mcp Placement :=
  match preflightOpForTool name with
  | none => return .ok (guest.node, guest.guestType, "")
  | some op => do
      let risks ← mcpPreflight env op guest
      let rendered := risks.render
      if risks.maxLevel = .severe then
        return .error (refusedSevere name vmid rendered)
      else
        let note := if rendered.isEmpty then "" else "\nPreflight:\n" ++ rendered
        return .ok (guest.node, guest.guestType, note)

def placeOnGuest (vmid : Nat) (fetched : Option Guest) : Mcp Placement := do
  let guest ← resolveGuest env vmid fetched
  ensure (!guest.node.isEmpty) (.msg (s!"cannot record HITL request for guest " ++
    s!"{vmid}: guest has no resolved node"))
  assessGuest env name vmid guest

/-- A request without a guest carries its node and type in the arguments. -/
def placeByArgs : Except AppError (String × GuestType × String) :=
  match (textArg args "node").filter (· ≠ "") with
  | none => .error (.msg s!"Missing required 'node' for HITL request '{name}'")
  | some node =>
    match textArg args "type" with
    | some "qemu" => .ok (node, .qemu, "")
    | some "lxc" => .ok (node, .lxc, "")
    | other =>
      .error (.msg (s!"Invalid or missing guest type " ++
        s!"{debugExitstatus env.libs other} for HITL request '{name}'"))

def place (fetched : Option Guest) : Mcp Placement :=
  match guestIdArg args with
  | some vmid => placeOnGuest env name vmid fetched
  | none => do
      let found ← liftResult (placeByArgs env name args)
      return .ok found

def defaultHitlTtlSecs : Int := 120

def newRequest (policy : Policy) (node : String) (guestType : GuestType) : NewPendingRequest :=
  { action := name, vmid := vmidArg args, node := some node, guestType := some guestType
    paramsJson := env.toText args, require := max policy.require 1, ttlSecs := defaultHitlTtlSecs }

def storeRequest (new : NewPendingRequest) : Mcp String :=
  if env.suppliedStore then insertPending env new
  else do
    openDefault env
    insertPending env new

/-- The stored request is sent to the approvers; if that fails, nobody can
approve it and it is closed. -/
def announce (policy : Policy) (note txnId : String) : Mcp (Except ToolAnswer (Option String)) := do
  let message : ApprovalMessage :=
    { action := name, target := targetArg args, reason := s!"MCP requested action: {name}{note}"
      txnId
      require := policy.require }
  match ← toResult (requestApproval env message) with
  | .ok _ => return .ok (some (interceptedText policy txnId))
  | .error e => do
      let why := s!"approval request {txnId} could not be sent ({e.chain})"
      markPendingFailed env txnId why
      return .error (approvalNotSent name policy why)

/-- Record the call and ask for its approval. -/
def requestHitl (policy : Policy) (fetched : Option Guest) :
    Mcp (Except ToolAnswer (Option String)) := do
  match ← setUpGateway env with
  | .error why => return .error (approvalNotSent name policy why)
  | .ok _ =>
    match ← place env name args fetched with
    | .error answer => return .error answer
    | .ok (node, guestType, note) => do
        let txnId ← storeRequest env
          (newRequest env name args policy node guestType)
        announce env name args policy note txnId

/-- The gate of a destructive tool: an answer that ends the call, or the message
that an approval is pending. -/
def gateDestructive : Mcp (Except ToolAnswer (Option String)) := do
  let (fetched, matched) ← matchPolicy env name args
  match matched with
  | none => return .error (refusedUngated name)
  | some policy => requestHitl env name args policy fetched

end Gate

section Run

variable (env : McpEnv) (args : Json)

def findNodeAndType (vmid : Nat) : Mcp (Option (String × GuestType)) := do
  let found ← onCluster (findGuest env.gateway vmid)
  return found.map fun guest => (guest.node, guest.guestType)

def requireGuest (vmid : Nat) : Mcp (String × GuestType) := do
  match ← findNodeAndType env vmid with
  | some found => return found
  | none => failWith s!"Guest {vmid} not found"

/-- The arguments as the parameters of an operation. -/
def fromValue (fields : List Field) : Mcp Values :=
  match decodeStruct fields args with
  | some values => return values
  | none => failWith (env.fromValueMessage fields args)

def guestIdOrZero : Nat :=
  (guestIdArg args).getD 0

def nodeOrEmpty : String :=
  (textArg args "node").getD ""

def askGuests (node : Option String) : Mcp Json :=
  match node with
  | some node => askCluster env (.getGuests node)
  | none => askCluster env .getAllGuests

def tasksOn (node : Option String) (tasks : List TaskRow) : List TaskRow :=
  match node with
  | some node => tasks.filter (·.node == node)
  | none => tasks

def eventJson (time : Nat) (task : TaskRow) : Json :=
  let elapsed :=
    match task.endtime with
    | some endtime => endtime - task.starttime
    | none => if task.starttime > 0 then time - task.starttime else 0
  .obj [("upid", .str task.upid), ("node", .str task.node),
    ("type", .str task.taskType), ("id", .str task.id),
    ("user", .str task.user), ("status", (task.status.map Json.str).getD .null),
    ("starttime", .int task.starttime),
    ("endtime", (task.endtime.map fun time => Json.int time).getD .null),
    ("elapsed_secs", .int elapsed), ("running", .bool task.endtime.isNone)]

def eventsJson (time : Nat) (runningOnly : Bool) (tasks : List TaskRow) : Json :=
  .obj [("total", .int tasks.length), ("running_only", .bool runningOnly),
    ("events", .arr (tasks.map (eventJson time)))]

/-- The tool itself.  The branches of the destructive tools are here too. -/
def runTool : ToolAction → Mcp String
  | .listNodes => do
      let nodes : List NodeRow ← askCluster env .getNodes
      return env.toTextPretty (.arr (nodes.map (·.json)))
  | .listGuests => do
      let guests ← askGuests env (textArg args "node")
      return env.toTextPretty guests
  | .getGuestStatus => do
      let vmid := guestIdOrZero args
      let (node, _) ← requireGuest env vmid
      let status : Json ← askCluster env (.getGuestStatus node vmid)
      return env.toTextPretty status
  | .startGuest => do
      let vmid := guestIdOrZero args
      let (node, guestType) ← requireGuest env vmid
      let upid ← onCluster
        (send env.gateway (.startGuest node vmid guestType))
      return s!"Started guest {vmid}. UPID: {upid}"
  | .stopGuest => do
      let values ← fromValue env args mcpStopGuestFields
      let params := mcpStopGuestParams values
      let (node, guestType) ← requireGuest env params.guestId
      let upid ← onCluster (execStopGuest env.gateway node guestType params)
      return s!"Stopped guest {params.guestId}. UPID: {upid}"
  | .restartGuest => do
      let values ← fromValue env args mcpGuestIdFields
      let params := mcpGuestIdParams values
      let (node, guestType) ← requireGuest env params.guestId
      let upid ← onCluster (execRestartGuest env.gateway node guestType params)
      return s!"Restarted guest {params.guestId}. UPID: {upid}"
  | .deleteGuest => do
      let values ← fromValue env args mcpGuestIdFields
      let params := mcpGuestIdParams values
      let (node, guestType) ← requireGuest env params.guestId
      let upid ← onCluster (execDeleteGuest env.gateway node guestType params)
      return s!"Deleted guest {params.guestId}. UPID: {upid}"
  | .createSnapshot => do
      let values ← fromValue env args mcpSnapshotFields
      let params := mcpSnapshotParams values
      let (node, guestType) ← requireGuest env params.guestId
      let upid ← onCluster
        (execCreateSnapshot env.gateway node guestType params)
      return s!"Snapshot '{params.name}' created for guest " ++ s!"{params.guestId}. UPID: {upid}"
  | .deleteSnapshot => do
      let values ← fromValue env args mcpSnapshotFields
      let params := mcpSnapshotParams values
      let (node, guestType) ← requireGuest env params.guestId
      let _ ← onCluster (execDeleteSnapshot env.gateway node guestType params)
      return s!"Snapshot '{params.name}' deleted for guest {params.guestId}"
  | .listSnapshots => do
      let vmid := guestIdOrZero args
      let (node, guestType) ← requireGuest env vmid
      let snapshots : List SnapshotRow ←
        askCluster env (.listSnapshots node vmid guestType)
      return env.toTextPretty (.arr (snapshots.map (·.json)))
  | .getNodeResources => do
      let nodes : List NodeRow ← askCluster env .getNodes
      match nodes.find? (·.node == nodeOrEmpty args) with
      | some node => return env.toTextPretty node.json
      | none => failWith s!"Node '{nodeOrEmpty args}' not found"
  | .getStoragePools => do
      let pools : List StoragePoolRow ←
        askCluster env (.getStoragePools (nodeOrEmpty args))
      return env.toTextPretty (.arr (pools.map (·.json)))
  | .getTaskLog => do
      let upid := (textArg args "upid").getD ""
      let log : Json ←
        askCluster env (.getTaskLog (nodeOrEmpty args) upid 0 500)
      return env.toTextPretty log
  | .suspendGuest => do
      let values ← fromValue env args mcpGuestIdFields
      let params := mcpGuestIdParams values
      let (node, guestType) ← requireGuest env params.guestId
      let upid ← onCluster (execSuspendGuest env.gateway node guestType params)
      return s!"Suspended guest {params.guestId}. UPID: {upid}"
  | .resumeGuest => do
      let vmid := guestIdOrZero args
      let (node, guestType) ← requireGuest env vmid
      let upid ← onCluster
        (send env.gateway (.resumeGuest node vmid guestType))
      return s!"Resumed guest {vmid}. UPID: {upid}"
  | .cloneGuest => do
      let values ← fromValue env args mcpCloneGuestFields
      let params := mcpCloneGuestParams values
      let (node, guestType) ← requireGuest env params.guestId
      let (newid, upid) ← onCluster
        (execCloneGuest env.gateway node guestType params)
      return s!"Cloned guest {params.guestId} → {newid}. UPID: {upid}"
  | .migrateGuest => do
      let values ← fromValue env args mcpMigrateGuestFields
      let params := mcpMigrateGuestParams values
      let (node, guestType) ← requireGuest env params.guestId
      let upid ← onCluster (execMigrateGuest env.gateway node guestType params)
      return s!"Migrating guest {params.guestId} → {params.targetNode}. " ++ s!"UPID: {upid}"
  | .getClusterStatus => do
      let status : Json ← askCluster env .clusterStatus
      return env.toTextPretty status
  | .listTasks => do
      let tasks : List TaskRow ← askCluster env .getClusterTasks
      let filtered := tasksOn (textArg args "node") tasks
      return env.toTextPretty (.arr (filtered.map (·.json)))
  | .getNodeStatus => do
      let status : Json ←
        askCluster env (.nodeStatusDetail (nodeOrEmpty args))
      return env.toTextPretty status
  | .listBackupJobs => do
      let jobs : Json ← askCluster env .listBackupJobs
      return env.toTextPretty jobs
  | .getReplicationStatus => do
      let status : Json ←
        askCluster env (.listReplicationStatus (nodeOrEmpty args))
      return env.toTextPretty status
  | .createGuest => do
      let values ← fromValue env args mcpCreateGuestFields
      let params := mcpCreateGuestParams values
      let (vmid, upid) ← onCluster (execCreateGuest env.gateway params)
      return s!"Guest {vmid} ({params.guestType}) creation started on " ++
        s!"{params.node}. UPID: {upid}"
  | .listClusterEvents => do
      let limit := min (((args.get? "limit").bind Json.asU64).getD 50) 200
      let runningOnly :=
        ((args.get? "running_only").bind Json.asBool).getD false
      let time ← nowSecs env
      let tasks : List TaskRow ← askCluster env .getClusterTasks
      let shown :=
        if runningOnly then tasks.filter (·.endtime.isNone) else tasks
      return env.toTextPretty (eventsJson time runningOnly (shown.take limit))
  | .cloneWithCloudinit => do
      let values ← fromValue env args mcpCloneWithCloudinitFields
      let params := mcpCloneWithCloudinitParams values
      let (node, guestType) ← requireGuest env params.guestId
      let (newid, upid, applied) ← onCluster
        (execCloneWithCloudinit env.gateway env.libs node guestType params)
      return s!"Cloned guest {params.guestId} → {newid} (UPID: {upid}); " ++
        s!"cloud-init applied: {env.cloudinitText applied}"

end Run

section Handler

variable (env : McpEnv)

/-- The answer of a tool that goes through the gate, if it does. -/
def gate (tool : ToolDef) (name : String) (args : Json) : Mcp (Except ToolAnswer (Option String)) :=
  if tool.destructive then gateDestructive env name args
  else return .ok none

def handleToolCall (name : String) (args : Json) : Mcp ToolAnswer :=
  match findTool name with
  | none => failWith s!"Tool not found: {name}"
  | some tool => do
      liftResult ((checkParams env.libs env.toText args tool.params).mapError .msg)
      match ← gate env tool name args with
      | .error answer => return answer
      | .ok (some message) => return { text := message, isError := false }
      | .ok none => do
          let content ← runTool env args tool.action
          return { text := content, isError := false }

inductive RpcResponse where
  | result (answer : ToolAnswer)
  | error (code : Int) (message : String)
deriving Repr, DecidableEq

/-- The tool and the arguments of a request. -/
def calledTool (params : Option Json) : Except String (String × Json) :=
  match params with
  | none => .error "Invalid params"
  | some params =>
    match textArg params "name" with
    | none => .error "Missing tool name"
    | some name => .ok (name, (params.get? "arguments").getD (.obj []))

def toolBudget (name : String) : Nat :=
  ((findTool name).map (·.timeoutSecs)).getD defaultTimeoutSecs

/-- The `tools/call` request: the call runs within its budget and is cut off at
the end of it. -/
def toolsCall (params : Option Json) (state : McpState) : RpcResponse × McpState :=
  match calledTool params with
  | .error message => (.error (-32602) message, state)
  | .ok (name, args) =>
    match execute (handleToolCall env name args) state with
    | (.ok answer, final) => (.result answer, final)
    | (.error (.error e), final) => (.error (-32603) e.display, final)
    | (.error .stopped, final) =>
      (.error (-32001) (s!"tool '{name}' exceeded {toolBudget name}s " ++
        "execution budget"), final)

end Handler

end Proxxx
