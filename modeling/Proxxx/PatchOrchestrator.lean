/-
The rolling upgrade of the cluster's nodes: a plan is made from each node's
package inventory and then applied one node after the other, with a reboot and
a wait for the node's return where the policy asks for one.  Every answer of
SSH and of the API is an input.
-/
import Proxxx.HitlExecutor

namespace Proxxx

inductive NodeStatus where
  | online
  | offline
  | unknown
deriving Repr, DecidableEq

/-- A node in the cluster's list. -/
structure ListedNode where
  node : String
  status : NodeStatus
deriving Repr, DecidableEq

structure NodeStatusDetail where
  uptime : Nat
  kversion : String
  pveversion : String
deriving Repr, DecidableEq

structure AptUpgradable where
  package : String
  sectionName : String
deriving Repr, DecidableEq

def AptUpgradable.isKernel (upgradable : AptUpgradable) : Bool :=
  RustStr.startsWith upgradable.package "pve-kernel" ||
    RustStr.startsWith upgradable.package "proxmox-kernel" ||
    RustStr.startsWith upgradable.package "linux-image"

def AptUpgradable.requiresReboot (upgradable : AptUpgradable) : Bool :=
  upgradable.isKernel || upgradable.package == "intel-microcode" ||
    upgradable.package == "amd64-microcode" || upgradable.package == "libc6" ||
    upgradable.package == "systemd"

def AptUpgradable.isSecurity (upgradable : AptUpgradable) : Bool :=
  RustStr.contains upgradable.sectionName "security"

inductive RebootPolicy where
  | auto
  | always
  | never
deriving Repr, DecidableEq

def RebootPolicy.shouldReboot (policy : RebootPolicy) (rebootRequired : Bool) : Bool :=
  match policy with
  | .always => true
  | .auto => rebootRequired
  | .never => false

/-- The wait for a rebooted node is in milliseconds. -/
structure PatchStrategy where
  maxConcurrent : Nat := 1
  rebootPolicy : RebootPolicy := .auto
  rebootWaitTimeout : Nat := 600000
  dryRun : Bool := false
deriving Repr, DecidableEq

/-- Lifecycle of a single node within a patch plan. -/
inductive Phase where
  | pending
  | refresh
  | inventory
  | upgrade
  | reboot
  | waitReboot
  | done (rebooted : Bool) (packagesUpgraded : Nat)
  | skipped (reason : String)
  | failed (phase : String) (error : String)
deriving Repr, DecidableEq

def Phase.isFailed : Phase → Bool
  | .failed _ _ => true
  | _ => false

structure NodePlan where
  node : String
  upgradable : List AptUpgradable
  kernelPending : Bool
  securityPending : Bool
  rebootRequired : Bool
  status : Phase
  kernelBefore : Option String
  kernelAfter : Option String
deriving Repr, DecidableEq

def NodePlan.fromInventory (node : String) (upgradable : List AptUpgradable) : NodePlan where
  node := node
  upgradable := upgradable
  kernelPending := upgradable.any AptUpgradable.isKernel
  securityPending := upgradable.any AptUpgradable.isSecurity
  rebootRequired := upgradable.any AptUpgradable.requiresReboot
  status :=
    if upgradable.isEmpty then .skipped "no upgrades available" else .pending
  kernelBefore := none
  kernelAfter := none

/-- The entry of a node that could not be refreshed or read. -/
def NodePlan.unplanned (node phase error : String) : NodePlan where
  node := node
  upgradable := []
  kernelPending := false
  securityPending := false
  rebootRequired := false
  status := .failed phase error
  kernelBefore := none
  kernelAfter := none

/-- An error of SSH, the API or the audit log. -/
structure PatchError extends AppError where
  auditRefusal : Bool := false
deriving Repr, DecidableEq

def PatchError.msg (text : String) : PatchError :=
  { toAppError := AppError.msg text }

/-- The answers of the API while a plan is made. -/
structure PlanAnswers where
  nodes : Except PatchError (List ListedNode)
  refresh : String → Except PatchError Unit
  inventory : String → Except PatchError (List AptUpgradable)

def planNode (answers : PlanAnswers) (node : String) : NodePlan :=
  match answers.refresh node with
  | .error e => .unplanned node "refresh" e.chain
  | .ok () =>
    match answers.inventory node with
    | .error e => .unplanned node "inventory" e.chain
    | .ok upgradable => .fromInventory node upgradable

def Orchestrator.plan (answers : PlanAnswers) (onlyNodes : Option (List String)) :
    Except PatchError (List NodePlan) := do
  let listed ← answers.nodes
  let online := (listed.filter (·.status == .online)).map (·.node)
  let wanted :=
    match onlyNodes with
    | some names => online.filter names.contains
    | none => online
  return (wanted.mergeSort (· ≤ ·)).map (planNode answers)

structure ExecResult where
  stderr : String
  exitCode : Option Nat
deriving Repr, DecidableEq

def ExecResult.ok (res : ExecResult) : Bool :=
  res.exitCode == some 0

/-- One poll of a reboot wait: the clock since the wait began, the answers of
the API, and whether the node was down at some moment since the poll before it
or, at the first one, since the reboot was ordered. -/
structure Poll where
  clock : Nat
  listed : Except PatchError (List ListedNode)
  detail : Except PatchError NodeStatusDetail
  wentDown : Bool

/-- A list that could not be read counts as empty. -/
def Poll.online (node : String) (poll : Poll) : Bool :=
  match (poll.listed.toOption.getD []).find? (·.node == node) with
  | some entry => entry.status == .online
  | none => false

/-- What one node is answered while the plan is applied. -/
structure NodeAnswers where
  before : Except PatchError NodeStatusDetail
  writeAhead : Except PatchError Unit
  upgrade : Except PatchError ExecResult
  reboot : Except PatchError ExecResult
  polls : List Poll

/-- What the orchestrator does about one node. -/
inductive Act where
  | progress (phase : Phase)
  | status
  | upgrade
  | reboot
  | nodes (poll : Poll)

/-- The commands that change the node. -/
def Act.isCommand : Act → Bool
  | .upgrade => true
  | .reboot => true
  | _ => false

/-- All that is sent to the node. -/
def Act.isSent : Act → Bool
  | .status => true
  | act => act.isCommand

/-- What was done, and what came of it. -/
structure NodeLog (α : Type) where
  acts : List Act
  result : α

def NodeLog.after {α : Type} (acts : List Act) (run : NodeLog α) : NodeLog α where
  acts := acts ++ run.acts
  result := run.result

/-- The last `n` bytes of a text.  Cutting inside a character panics. -/
def Orchestrator.tail (text : String) (n : Nat) : Option String :=
  if text.utf8ByteSize ≤ n then some text
  else (text.toList.tails.map String.ofList).find? (·.utf8ByteSize == n)

inductive UpgradeHalt where
  | failed (e : PatchError)
  | panicked

def debugExitCode : Option Nat → String
  | some code => "Some(" ++ toString code ++ ")"
  | none => "None"

/-- The command leaves only behind its entry in the audit log. -/
def Orchestrator.runUpgrade (node : String) (answers : NodeAnswers) :
    NodeLog (Except UpgradeHalt Unit) :=
  match answers.writeAhead with
  | .error e => { acts := [], result := .error (.failed e) }
  | .ok () =>
    .after [.upgrade] <|
      match answers.upgrade with
      | .error e => { acts := [], result := .error (.failed e) }
      | .ok res =>
        if res.ok then { acts := [], result := .ok () }
        else
          match tail res.stderr 500 with
          | none => { acts := [], result := .error .panicked }
          | some lastChars =>
            { acts := [], result := .error <| .failed <| .msg <|
                "apt dist-upgrade exited with " ++ debugExitCode res.exitCode ++ " on " ++ node ++
                  "\nstderr (last 500 chars):\n" ++ lastChars }

/-- A session that the reboot cuts off counts as an order given. -/
def Orchestrator.runReboot : Except PatchError ExecResult → Except PatchError Unit
  | .ok _ => .ok ()
  | .error e =>
    if RustStr.contains e.display "timed out" || RustStr.contains e.display "connection" then .ok ()
    else .error e

def notBack (node : String) (timeout : Nat) : PatchError :=
  .msg (node ++ " did not come back within " ++ toString (timeout / 1000) ++ "s")

/-- Poll until the node is listed online behind a poll that did not list it so,
and its own status can be read.  The polls are those to come; where none is
left, the deadline has passed. -/
def Orchestrator.waitForReboot (node : String) (timeout : Nat) :
    Bool → List Poll → NodeLog (Except PatchError NodeStatusDetail)
  | _, [] => { acts := [], result := .error (notBack node timeout) }
  | sawOffline, poll :: rest =>
    if poll.clock < timeout then
      if !poll.online node then
        .after [.nodes poll] (waitForReboot node timeout true rest)
      else if !sawOffline then
        .after [.nodes poll] (waitForReboot node timeout false rest)
      else
        match poll.detail with
        | .ok detail => { acts := [.nodes poll, .status], result := .ok detail }
        | .error _ =>
          .after [.nodes poll, .status] (waitForReboot node timeout sawOffline rest)
    else { acts := [], result := .error (notBack node timeout) }

/-- How the work on one node ends: on to the next node, the end of the plan with
this node failed, or the end of the call without a plan. -/
inductive NodeEnd where
  | next (entry : NodePlan)
  | stop (entry : NodePlan)
  | refused (e : PatchError)
  | panicked

def NodePlan.fail (entry : NodePlan) (phase : String) (e : PatchError) : NodeLog NodeEnd where
  acts := [.progress (.failed phase e.chain)]
  result := .stop { entry with status := .failed phase e.chain }

def NodePlan.finish (entry : NodePlan) (rebooted : Bool) : NodeLog NodeEnd :=
  let status := Phase.done rebooted (min entry.upgradable.length (2 ^ 32 - 1))
  { acts := [.progress status], result := .next { entry with status := status } }

def rebootPhase (strategy : PatchStrategy) (entry : NodePlan)
    (answers : NodeAnswers) : NodeLog NodeEnd :=
  if strategy.rebootPolicy.shouldReboot entry.rebootRequired then
    .after [.progress .reboot] <|
      if strategy.dryRun then entry.finish false
      else
        .after [.reboot] <|
          match Orchestrator.runReboot answers.reboot with
          | .error e => entry.fail "reboot" e
          | .ok () =>
            let waited := Orchestrator.waitForReboot entry.node
              strategy.rebootWaitTimeout false answers.polls
            .after (.progress .waitReboot :: waited.acts) <|
              match waited.result with
              | .ok post =>
                { entry with kernelAfter := some post.kversion }.finish true
              | .error e => entry.fail "wait_reboot" e
  else entry.finish false

def upgradePhase (strategy : PatchStrategy) (entry : NodePlan)
    (answers : NodeAnswers) : NodeLog NodeEnd :=
  if strategy.dryRun then rebootPhase strategy entry answers
  else
    let upgraded := Orchestrator.runUpgrade entry.node answers
    .after upgraded.acts <|
      match upgraded.result with
      | .ok () => rebootPhase strategy entry answers
      | .error (.failed e) =>
        if e.auditRefusal then { acts := [], result := .refused e }
        else entry.fail "upgrade" e
      | .error .panicked => { acts := [], result := .panicked }

def patchNode (strategy : PatchStrategy) (entry : NodePlan)
    (answers : NodeAnswers) : NodeLog NodeEnd :=
  match entry.status with
  | .skipped _ => { acts := [.progress entry.status], result := .next entry }
  | .failed _ _ => { acts := [.progress entry.status], result := .next entry }
  | _ =>
    .after [.status, .progress .upgrade] <|
      upgradePhase strategy
        { entry with
          kernelBefore := answers.before.toOption.map (·.kversion) }
        answers

/-- An act with the node it is about and the node's place in the plan. -/
structure PatchEvent where
  position : Nat
  node : String
  act : Act

inductive ApplyEnd where
  | ok (nodes : List NodePlan)
  | error (e : PatchError)
  | panicked

def ApplyEnd.cons (entry : NodePlan) : ApplyEnd → ApplyEnd
  | .ok nodes => .ok (entry :: nodes)
  | .error e => .error e
  | .panicked => .panicked

structure Applied where
  events : List PatchEvent
  result : ApplyEnd

def eventsAt (position : Nat) (entry : NodePlan) (acts : List Act) : List PatchEvent :=
  acts.map fun act => { position := position, node := entry.node, act := act }

/-- The loop over the plan, from a position on. -/
def Orchestrator.applyFrom (strategy : PatchStrategy) (answers : Nat → NodeAnswers) :
    Nat → List NodePlan → Applied
  | _, [] => { events := [], result := .ok [] }
  | position, entry :: rest =>
    let run := patchNode strategy entry (answers position)
    let events := eventsAt position entry run.acts
    match run.result with
    | .next patched =>
      let later := applyFrom strategy answers (position + 1) rest
      { events := events ++ later.events, result := later.result.cons patched }
    | .stop patched => { events := events, result := .ok (patched :: rest) }
    | .refused e => { events := events, result := .error e }
    | .panicked => { events := events, result := .panicked }

def Orchestrator.apply (strategy : PatchStrategy) (answers : Nat → NodeAnswers)
    (nodes : List NodePlan) : Applied :=
  if strategy.maxConcurrent != 1 then
    { events := [], result := .error <| .msg <|
        "max_concurrent=" ++ toString strategy.maxConcurrent ++
        " is not supported: patch execution is serial by design " ++
        "(concurrent node reboots risk HA quorum loss). Use max_concurrent=1, " ++
        "or run multiple `proxxx patch apply` invocations over disjoint node " ++
        "sets for parallelism." }
  else applyFrom strategy answers 0 nodes

end Proxxx
