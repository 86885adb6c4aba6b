/-
The risks of an operation on a guest, read off the guest as the cluster reports
it.
-/
import Proxxx.RustStr

namespace Proxxx

inductive GuestType where
  | qemu
  | lxc
deriving Repr, DecidableEq

def GuestType.text : GuestType → String
  | .qemu => "qemu"
  | .lxc => "lxc"

inductive GuestStatus where
  | running
  | stopped
  | paused
  | suspended
  | unknown
deriving Repr, DecidableEq

/-- The fields of a reported guest that an operation depends on. -/
structure Guest where
  vmid : Nat
  status : GuestStatus
  guestType : GuestType
  node : String
  uptime : Nat
  tags : String
  lock : String
  hastate : String
  netin : Nat
  netout : Nat
deriving Repr, DecidableEq

def Guest.isHaManaged (guest : Guest) : Bool :=
  !guest.hastate.isEmpty

inductive PreflightOp where
  | delete
  | stop
  | restart
  | migrate
  | moveDisk
  | resizeDisk
deriving Repr, DecidableEq

def PreflightOp.text : PreflightOp → String
  | .delete => "delete"
  | .stop => "stop"
  | .restart => "restart"
  | .migrate => "migrate"
  | .moveDisk => "move-disk"
  | .resizeDisk => "resize-disk"

inductive RiskLevel where
  | notice
  | warning
  | severe
deriving Repr, DecidableEq

def RiskLevel.text : RiskLevel → String
  | .notice => "NOTICE"
  | .warning => "WARN"
  | .severe => "SEVERE"

/-- The levels in their order. -/
def RiskLevel.rank : RiskLevel → Nat
  | .notice => 0
  | .warning => 1
  | .severe => 2

/-- The risks that are visible without further calls to the cluster. -/
inductive Risk where
  | locked (reason : String)
  | haManaged (state : String)
  | running (uptimeSecs : Nat)
  | longUptime (days : Nat)
  | taggedProd (tag : String)
  | activeNetTraffic (avgBps : Nat)
deriving Repr, DecidableEq

def formatUptime (secs : Nat) : String :=
  let d := secs / 86400
  let h := secs % 86400 / 3600
  let m := secs % 3600 / 60
  let s := secs % 60
  if d > 0 then s!"{d}d {h}h"
  else if h > 0 then s!"{h}h {m}m"
  else s!"{m}m {s}s"

def Risk.describe : Risk → String
  | .locked reason => s!"guest holds a sticky PVE lock: '{reason}' — destructive op will collide"
  | .haManaged state =>
    s!"HA-managed (CRM state '{state}') — direct ops bypass the CRM and " ++
      "will be undone within 5–30s; route through /cluster/ha/resources instead"
  | .running uptimeSecs => s!"guest is running (uptime {formatUptime uptimeSecs})"
  | .longUptime days => s!"long uptime ({days}d) — likely a production workhorse"
  | .taggedProd tag => s!"tagged '{tag}' in PVE inventory"
  | .activeNetTraffic avgBps =>
    s!"active network traffic ({avgBps / 1024} KB/s avg since boot) — " ++
      "likely serving production workload"

def u32Max : Nat := 4294967295

def u64Max : Nat := 18446744073709551615

def longUptimeDays : Nat := 14

def activeNetThresholdBps : Nat := 1024

def prodTagNeedles : List String :=
  ["prod", "production", "prd", "critical", "live"]

/-- The first of the needles that is one of the guest's tags. -/
def prodTag (tags : String) : Option String :=
  prodTagNeedles.find? fun needle => (RustStr.split tags.toLower ';').any (RustStr.trim · == needle)

def haLevel : PreflightOp → RiskLevel
  | .stop | .delete => .severe
  | .restart | .migrate | .moveDisk | .resizeDisk => .warning

def runningLevel : PreflightOp → RiskLevel
  | .delete => .severe
  | .stop | .restart | .migrate | .moveDisk | .resizeDisk => .warning

def assess (op : PreflightOp) (guest : Guest) : List (Risk × RiskLevel) :=
  let isRunning := guest.status == .running
  let days := min (guest.uptime / 86400) u32Max
  let total := min (guest.netin + guest.netout) u64Max
  let avgBps := total / guest.uptime
  (if guest.lock.isEmpty then [] else [(.locked guest.lock, .severe)]) ++
  (if guest.isHaManaged then [(.haManaged guest.hastate, haLevel op)] else []) ++
  (if isRunning then [(.running guest.uptime, runningLevel op)] else []) ++
  (if longUptimeDays ≤ days then [(.longUptime days, .notice)] else []) ++
  ((prodTag guest.tags).toList.map fun tag => (.taggedProd tag, .warning)) ++
  (if isRunning && guest.uptime > 0 && avgBps > activeNetThresholdBps then
    [(.activeNetTraffic avgBps, .warning)] else [])

/-- The highest of the levels; no level at all counts as a notice. -/
def highestLevel (levels : List RiskLevel) : RiskLevel :=
  levels.foldl (fun highest level => if highest.rank < level.rank then level else highest) .notice

def maxLevel (risks : List (Risk × RiskLevel)) : RiskLevel :=
  highestLevel (risks.map (·.2))

def renderRisks (risks : List (Risk × RiskLevel)) : String :=
  "\n".intercalate (risks.map fun risk => s!"[{risk.2.text}] {risk.1.describe}")

theorem highestLevel_eq_severe_iff {levels : List RiskLevel} :
    highestLevel levels = .severe ↔ .severe ∈ levels := by
  have hfold : ∀ start, levels.foldl (fun highest level =>
        if highest.rank < level.rank then level else highest) start =
          .severe ↔ start = .severe ∨ .severe ∈ levels := by
    induction levels with
    | nil => simp
    | cons head tail ih =>
      intro start
      rw [List.foldl_cons, ih]
      cases start <;> cases head <;> simp [RiskLevel.rank]
  simpa [highestLevel] using hfold .notice

/-- The highest level is severe exactly if one of the risks is. -/
theorem maxLevel_eq_severe_iff {risks : List (Risk × RiskLevel)} :
    maxLevel risks = .severe ↔ ∃ risk ∈ risks, risk.2 = .severe := by
  rw [maxLevel, highestLevel_eq_severe_iff, List.mem_map]

end Proxxx
