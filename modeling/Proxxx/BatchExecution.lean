/-
A lifecycle operation on many guests at once: the guests are looked up, each
target is refused, held back for approval or worked on, and the batch policy
cuts the targets into calls that follow one another.  Every answer of the
cluster, of the approval channel and of the task runtime is an input.
-/
import Proxxx.McpDispatch

namespace Proxxx

/-- A guest in a node's list. -/
structure BatchGuest extends Guest where
  template : Bool
deriving Repr, DecidableEq

inductive TargetStatus where
  | success
  | error
  | rejected
  | pendingHitl
  | skipped
deriving Repr, DecidableEq

/-- One element of the result array. -/
structure TargetResult where
  vmid : Nat
  status : TargetStatus
  upid : Option String := none
  txnId : Option String := none
  reason : Option String := none
  message : Option String := none
deriving Repr, DecidableEq

/-- How a spawned task ends. -/
inductive TaskEnd (α : Type) where
  | done (result : Except AppError α)
  | panicked (text : String)

/-- The order in which spawned tasks finish. -/
structure JoinOrder (α : Type) where
  arrange : List α → List α
  perm : ∀ tasks, (arrange tasks).Perm tasks

/-- The task of one target: its place in the call, its guest, its request. -/
structure SpawnedOp where
  position : Nat
  vmid : Nat
  mutation : Mutation
deriving Repr, DecidableEq

/-- What one call is answered.  Nodes and targets are numbered by their place;
`begun` says which tasks had sent their request when the call was cut short. -/
structure BatchAnswers where
  nodes : Except AppError (List String)
  guests : Nat → TaskEnd (List BatchGuest)
  listing : JoinOrder Nat
  telegram : Option (Except AppError Unit)
  openStore : Nat → Except AppError Unit
  insert : Nat → Except AppError String
  requestApproval : Nat → Except AppError Unit
  markFailed : Nat → Except AppError Unit
  operation : Nat → TaskEnd String
  finishing : JoinOrder SpawnedOp
  begun : SpawnedOp → Bool

def BatchOp.action : BatchOp → String
  | .start => "start"
  | .stop _ _ => "stop"
  | .restart => "restart"
  | .suspend => "suspend"
  | .resume => "resume"

/-- The request an operation is sent as. -/
def BatchOp.mutation (node : String) (vmid : Nat) (guestType : GuestType) : BatchOp → Mutation
  | .start => .startGuest node vmid guestType
  | .stop true _ => .stopGuest node vmid guestType true
  | .stop false timeoutSecs => .shutdownGuest node vmid guestType timeoutSecs
  | .restart => .restartGuest node vmid guestType
  | .suspend => .suspendGuest node vmid guestType
  | .resume => .resumeGuest node vmid guestType

/-- The guests that were listed, and the nodes that were not. -/
structure GuestScan where
  guests : List BatchGuest := []
  unreachable : List String := []

def GuestScan.join (answers : BatchAnswers) (nodes : List String)
    (scan : GuestScan) (index : Nat) : GuestScan :=
  match answers.guests index with
  | .done (.ok guests) => { scan with guests := scan.guests ++ guests }
  | .done (.error e) =>
    { scan with unreachable :=
        scan.unreachable ++ [nodes.getD index "" ++ ": " ++ e.display] }
  | .panicked text =>
    { scan with unreachable :=
        scan.unreachable ++ ["<panicked task>: " ++ text] }

def scanGuests (answers : BatchAnswers) (nodes : List String) : GuestScan :=
  (answers.listing.arrange (List.range nodes.length)).foldl (GuestScan.join answers nodes) {}

/-- Of several guests with one id, the one listed last. -/
def GuestScan.locate (scan : GuestScan) (vmid : Nat) : Option BatchGuest :=
  scan.guests.reverse.find? (·.vmid == vmid)

def GuestScan.incomplete (scan : GuestScan) : Bool :=
  !scan.unreachable.isEmpty

def GuestScan.unreachableDetail (scan : GuestScan) : String :=
  "; ".intercalate scan.unreachable

/-- Why a call ends without a result array. -/
inductive BatchHalt where
  | error (e : AppError)
  | panicked

/-- What happens to one target in its turn. -/
inductive TargetStep where
  | refuse (result : TargetResult)
  | await (result : TargetResult)
  | spawn (mutation : Mutation)
  | ran (mutation : Mutation) (result : TargetResult)
  | abort (issued : List Mutation) (halt : BatchHalt)

/-- A template cannot be started. -/
def BatchOp.rejectsTemplate (op : BatchOp) (guest : BatchGuest) : Bool :=
  guest.template && (op == .start || op == .restart)

section Call

variable (op : BatchOp) (policies : List Policy) (strict : Bool)
  (answers : BatchAnswers)

/-- A guest under a policy: the approvers are asked, or the target is refused. -/
def approvalStep (policy : Policy) (guest : BatchGuest) (position vmid : Nat) : TargetStep :=
  match answers.telegram with
  | none =>
    .refuse
      { vmid := vmid, status := .error, message := some <| "requires " ++ toString policy.require ++
          " approval(s) via " ++ policy.channel ++ " (policy " ++
          policy.action ++ " " ++ policy.target ++ "), but no [telegram] " ++
          "section is configured, so no approval request can be sent. " ++
          "The operation was not run." }
  | some _ =>
    if guest.node.isEmpty then
      .abort [] <| .error <| .msg <| "cannot record HITL request for guest " ++
        toString vmid ++ ": guest has no resolved node"
    else
      match answers.openStore position with
      | .error e => .abort [] (.error e)
      | .ok () =>
        match answers.insert position with
        | .error e => .abort [] (.error e)
        | .ok id =>
          match answers.requestApproval position with
          | .ok () =>
            .await
              { vmid := vmid, status := .pendingHitl, txnId := some id,
                message := some <| "Operation requires " ++
                  toString policy.require ++ " approval(s) via " ++
                  policy.channel }
          | .error e =>
            match answers.markFailed position with
            | .error e => .abort [] (.error e)
            | .ok () =>
              .refuse
                { vmid := vmid, status := .error, txnId := some id,
                  message := some <| "requires " ++
                    toString policy.require ++ " approval(s), but " ++
                    "the approval request could not be sent: " ++
                    e.chain ++ ". The operation was not run." }

/-- In strict mode the operation runs in its turn, and an error ends the call. -/
def operationStep (guest : BatchGuest) (position vmid : Nat) : TargetStep :=
  let mutation := op.mutation guest.node vmid guest.guestType
  if strict then
    match answers.operation position with
    | .done (.ok upid) => .ran mutation { vmid := vmid, status := .success, upid := some upid }
    | .done (.error e) =>
      .abort [mutation] <| .error <| .msg <|
        "Strict mode: Operation failed for guest " ++ toString vmid ++ ": " ++ e.display
    | .panicked _ => .abort [mutation] .panicked
  else .spawn mutation

def targetStep (scan : GuestScan) (position vmid : Nat) : TargetStep :=
  match scan.locate vmid with
  | some guest =>
    if op.rejectsTemplate guest then
      .refuse
        { vmid := vmid, status := .rejected,
          reason := some <| "guest " ++ toString vmid ++ " is a template — cannot " ++ op.action ++
            ". Use `proxxx clone " ++ toString vmid ++
            " --name <new>` to produce a startable copy." }
    else
      match checkPolicies policies op.action (toString vmid) guest.tagList with
      | some policy => approvalStep answers policy guest position vmid
      | none => operationStep op strict answers guest position vmid
  | none =>
    .refuse
      { vmid := vmid, status := .error, message := some <|
          if scan.incomplete then
            "cannot determine: guest not seen, and " ++ toString scan.unreachable.length ++
              " node(s) could not be listed (" ++ scan.unreachableDetail ++
              "). It may exist on an unreachable node."
          else "Guest not found" }

/-- What a call has gathered. -/
structure BatchState where
  results : List TargetResult := []
  hasFailure : Bool := false
  hitlPending : Bool := false
  spawned : List SpawnedOp := []
  issued : List Mutation := []
  panicked : List Nat := []

/-- The loop over the targets, from a position on. -/
def runTargets (scan : GuestScan) : Nat → List Nat → BatchState → BatchState × Option BatchHalt
  | _, [], state => (state, none)
  | position, vmid :: rest, state =>
    match targetStep op policies strict answers scan position vmid with
    | .refuse result =>
      runTargets scan (position + 1) rest
        { state with
          results := state.results ++ [result], hasFailure := true }
    | .await result =>
      runTargets scan (position + 1) rest
        { state with
          results := state.results ++ [result], hitlPending := true }
    | .spawn mutation =>
      runTargets scan (position + 1) rest
        { state with
          spawned := state.spawned ++
            [{ position := position, vmid := vmid, mutation := mutation }] }
    | .ran mutation result =>
      runTargets scan (position + 1) rest
        { state with
          results := state.results ++ [result], issued := state.issued ++ [mutation] }
    | .abort issued halt => ({ state with issued := state.issued ++ issued }, some halt)

/-- A finished task.  Of one that panicked nothing is reported. -/
def BatchState.join (state : BatchState) (task : SpawnedOp) : BatchState :=
  match answers.operation task.position with
  | .done (.ok upid) =>
    { state with
      results := state.results ++ [{ vmid := task.vmid, status := .success, upid := some upid }] }
  | .done (.error e) =>
    { state with
      results := state.results ++
        [{ vmid := task.vmid, status := .error, message := some e.display }],
      hasFailure := true }
  | .panicked _ =>
    { state with
      hasFailure := true, panicked := state.panicked ++ [task.vmid] }

/-- The spawned tasks, in the order in which they finish. -/
def BatchState.joinAll (state : BatchState) : BatchState :=
  (answers.finishing.arrange state.spawned).foldl (BatchState.join answers) state

def exitHitlPending : Nat := 9

def batchExitCode (hasFailure hitlPending : Bool) : Nat :=
  if hasFailure then 2 else if hitlPending then exitHitlPending else 0

/-- One call: its targets, the requests it sent, the targets whose task panicked,
and what it returned. -/
structure BatchCall where
  targets : List Nat
  issued : List Mutation
  panicked : List Nat
  outcome : Except BatchHalt (List TargetResult × Nat)

/-- What is refused before the first target. -/
def strictRefusal (scan : GuestScan) (vmids : List Nat) : Option AppError :=
  if !strict then none
  else if scan.incomplete then
    some <| .msg <| "Strict mode: cannot determine guest placement — " ++
      toString scan.unreachable.length ++ " node(s) could not be listed (" ++
      scan.unreachableDetail ++ "). Refusing rather than reporting guests " ++
      "on those nodes as missing."
  else
    let missing := vmids.filter fun vmid => (scan.locate vmid).isNone
    if missing.isEmpty then none
    else some (.msg ("Strict mode: Guests not found: " ++ toString missing))

def executeBatchOpFull (vmids : List Nat) : BatchCall :=
  let fail (e : AppError) : BatchCall :=
    { targets := vmids, issued := [], panicked := [], outcome := .error (.error e) }
  match answers.nodes with
  | .error e => fail e
  | .ok nodes =>
    let scan := scanGuests answers nodes
    match answers.telegram with
    | some (.error e) => fail e
    | _ =>
      match strictRefusal strict scan vmids with
      | some e => fail e
      | none =>
        match runTargets op policies strict answers scan 0 vmids {} with
        | (state, some halt) =>
          -- The tasks still running are dropped with their set.
          { targets := vmids,
            issued := state.issued ++ (state.spawned.filter answers.begun).map (·.mutation),
            panicked := [], outcome := .error halt }
        | (state, none) =>
          let final := state.joinAll answers
          { targets := vmids, issued := state.issued ++ state.spawned.map (·.mutation),
            panicked := final.panicked,
            outcome := .ok (final.results, batchExitCode final.hasFailure final.hitlPending) }

end Call

inductive BatchPolicy where
  | full
  | canary (percent : Nat)
  | rolling (waveSize : Nat)
deriving Repr, DecidableEq

/-- The product wraps at the width of `usize`. -/
def canaryPilotCount (n percent : Nat) : Nat :=
  min n (max 1 ((n * percent % 2 ^ 64 + 99) / 100))

/-- The chunks of a list, of which only the last may be shorter. -/
def chunksUpTo (size : Nat) : Nat → List Nat → List (List Nat)
  | 0, _ => []
  | _, [] => []
  | fuel + 1, vmids => vmids.take size :: chunksUpTo size fuel (vmids.drop size)

def chunks (size : Nat) (vmids : List Nat) : List (List Nat) :=
  chunksUpTo size vmids.length vmids

inductive BatchEnd where
  | ok (results : List TargetResult) (code : Nat)
  | halted (halt : BatchHalt)

/-- The calls in their order, and what came of them. -/
structure BatchRun where
  calls : List BatchCall
  outcome : BatchEnd

def skippedTarget (reason : String) (vmid : Nat) : TargetResult where
  vmid := vmid
  status := .skipped
  reason := some reason

def TargetResult.isError (result : TargetResult) : Bool :=
  result.status == .error

section Policy

variable (op : BatchOp) (policies : List Policy) (strict : Bool)
  (answers : Nat → BatchAnswers)

def runCanary (vmids : List Nat) (percent : Nat) : BatchRun :=
  let pilotCount := canaryPilotCount vmids.length percent
  let rest := vmids.drop pilotCount
  let pilot := executeBatchOpFull op policies strict (answers 0)
    (vmids.take pilotCount)
  match pilot.outcome with
  | .error halt => { calls := [pilot], outcome := .halted halt }
  | .ok (results, code) =>
    if results.any TargetResult.isError || decide (code ≥ 2) then
      { calls := [pilot], outcome := .ok (results ++ rest.map
            (skippedTarget "canary pilot failed — remainder aborted")) 2 }
    else if rest.isEmpty then { calls := [pilot], outcome := .ok results code }
    else
      let promoted := executeBatchOpFull op policies strict (answers 1) rest
      match promoted.outcome with
      | .error halt => { calls := [pilot, promoted], outcome := .halted halt }
      | .ok (restResults, restCode) =>
        { calls := [pilot, promoted], outcome := .ok (results ++ restResults)
            (if code != 0 || restCode != 0 then max code restCode else 0) }

/-- The waves from an index on, with what the earlier ones have gathered. -/
def runWaves (vmids : List Nat) (waveSize : Nat) :
    Nat → List (List Nat) → List TargetResult → Nat → BatchRun
  | _, [], results, code => { calls := [], outcome := .ok results code }
  | index, wave :: later, results, code =>
    let call := executeBatchOpFull op policies strict (answers index) wave
    match call.outcome with
    | .error halt => { calls := [call], outcome := .halted halt }
    | .ok (waveResults, waveCode) =>
      let results := results ++ waveResults
      let code := if waveCode != 0 then max code waveCode else code
      if waveResults.any TargetResult.isError then
        let remaining := vmids.drop (index * waveSize + wave.length)
        { calls := [call],
          outcome := .ok (results ++ remaining.map (skippedTarget ("rolling wave " ++
              toString (index + 1) ++ " failed — remainder aborted")))
            (if code == 0 then 2 else code) }
      else
        let run := runWaves vmids waveSize (index + 1) later results code
        { run with calls := call :: run.calls }

/-- A wave size of 0 panics where the targets are cut. -/
def executeBatchOpWithPolicy (vmids : List Nat) : BatchPolicy → BatchRun
  | .full =>
    let call := executeBatchOpFull op policies strict (answers 0) vmids
    match call.outcome with
    | .error halt => { calls := [call], outcome := .halted halt }
    | .ok (results, code) => { calls := [call], outcome := .ok results code }
  | .canary percent => runCanary op policies strict answers vmids percent
  | .rolling waveSize =>
    if waveSize = 0 then { calls := [], outcome := .halted .panicked }
    else
      runWaves op policies strict answers vmids waveSize 0 (chunks waveSize vmids) [] 0

end Policy

end Proxxx
