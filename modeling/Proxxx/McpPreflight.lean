/-
The risk preflight of a tool on an existing guest: the risks read off the guest,
and those that need further calls.  A call that fails is reported as a check
that was skipped; it does not fail the preflight.
-/
import Proxxx.McpCalls

namespace Proxxx

open FaultProgram

/-- The risks, with those that need calls beside the guest. -/
inductive DeepRisk where
  | visible (risk : Risk)
  | listeningOnService (port : Nat) (name : String)
  | deepCheckSkipped (reason : String)
  | hasManySnapshots (count : Nat)
  | backupAgeWarning (ageHours : Nat)
  | noBackupFound
deriving Repr, DecidableEq

def DeepRisk.describe : DeepRisk → String
  | .visible risk => risk.describe
  | .listeningOnService port name =>
    s!"guest is listening on TCP {port} ({name}) — " ++ "likely a production service"
  | .deepCheckSkipped reason =>
    s!"deep risk check skipped — {reason} " ++ "(cheap risks above are still authoritative)"
  | .hasManySnapshots count =>
    s!"{count} snapshots on this guest — destroy wipes them all, and " ++
      "long snapshot chains slow QCOW2/ZFS reads"
  | .backupAgeWarning ageHours =>
    if ageHours < 48 then
      s!"most recent backup is {ageHours}h old — recent state will be lost"
    else
      s!"most recent backup is {ageHours / 24}d old ({ageHours}h) — " ++
        "destroying the guest loses everything since"
  | .noBackupFound =>
    "no backup found on any backup-content storage of this node — " ++
      "destroying the guest is irreversible"

abbrev DeepRisks := List (DeepRisk × RiskLevel)

def DeepRisks.maxLevel (risks : DeepRisks) : RiskLevel :=
  highestLevel (risks.map (·.2))

def DeepRisks.render (risks : DeepRisks) : String :=
  "\n".intercalate (risks.map fun risk => s!"[{risk.2.text}] {risk.1.describe}")

def skipped (reason : String) : DeepRisk × RiskLevel :=
  (.deepCheckSkipped reason, .notice)

def manySnapshotsThreshold : Nat := 5

def backupStaleHours : Nat := 24

def wellKnownPort : Nat → Option String
  | 22 => some "ssh"
  | 25 | 465 | 587 => some "smtp"
  | 53 => some "dns"
  | 80 | 8080 => some "http"
  | 443 | 8443 => some "https"
  | 3306 => some "mysql"
  | 5432 => some "postgres"
  | 6379 => some "redis"
  | 27017 => some "mongodb"
  | 3000 => some "node-app"
  | 5000 => some "flask"
  | 8000 | 9000 => some "app-server"
  | 9090 => some "prometheus"
  | 9200 => some "elasticsearch"
  | _ => none

def isAsciiWhitespace (c : Char) : Bool :=
  c == ' ' || c == '\t' || c == '\n' || c == '\r' || c.toNat == 12

/-- The port of an `address:port` token. -/
def tokenPort (token : String) : Option Nat := do
  let (_, port) ← RustStr.rsplitOnce token ':'
  let number ← RustStr.parseUnsigned 65536 port
  if number > 0 then some number else none

/-- The ports of a line; headers have none. -/
def linePorts (line : String) : List Nat :=
  let trimmed := RustStr.trim line
  if trimmed.isEmpty || RustStr.startsWith trimmed "Active" ||
      RustStr.startsWith trimmed "Proto" ||
      RustStr.startsWith trimmed "State" then []
  else
    ((trimmed.toList.splitOnP isAsciiWhitespace).map String.ofList).filterMap tokenPort

/-- The listening ports in order, each once. -/
def parseListeningPorts (output : String) : List Nat :=
  ((RustStr.split output '\n').flatMap linePorts).eraseDups.mergeSort

def combineBackupAge : Option Nat → Option Nat → Option Nat
  | some one, some two => some (min one two)
  | some one, none => some one
  | none, other => other

section Deep

variable (env : McpEnv)

/-- The latest of the times found at the places; a place that cannot be asked
is passed over. -/
def newestOver (times : String → Mcp (List Nat)) : List String → Nat → Mcp Nat
  | [], newest => return newest
  | place :: rest, newest => do
      match ← toResult (times place) with
      | .ok found => newestOver times rest (found.foldl max newest)
      | .error _ => newestOver times rest newest

/-- The age in hours of the backup from a time; zero stands for no backup. -/
def backupAge (newest : Nat) : Mcp (Option Nat) :=
  if newest = 0 then return none
  else do
    let time ← nowSecs env
    return some (min ((time - newest) / 3600) u32Max)

def holdsBackups (pool : StoragePoolRow) : Bool :=
  (RustStr.split pool.content ',').any (RustStr.trim · == "backup")

/-- The times of a guest's backups on a storage of its node. -/
def storageBackupTimes (node : String) (vmid : Nat) (storage : String) : Mcp (List Nat) := do
  let entries : List ContentRow ←
    askCluster env (.listStorageContent node storage "backup")
  return (entries.filter (·.vmid == some vmid)).map (·.ctime)

def findRecentBackup (node : String) (vmid : Nat) : Mcp (Option Nat) := do
  let storages : List StoragePoolRow ← askCluster env (.getStoragePools node)
  let places := (storages.filter holdsBackups).map (·.storage)
  let newest ← newestOver (storageBackupTimes env node vmid) places 0
  backupAge env newest

def backupType : GuestType → String
  | .qemu => "vm"
  | .lxc => "ct"

def findRecentPbsBackup (vmid : Nat) (guestType : GuestType) : Mcp (Option Nat) := do
  let stores : List String ← askCluster env .listDatastores
  let newest ← newestOver
    (fun store => askCluster env (.listBackups store (backupType guestType) (toString vmid)))
    stores 0
  backupAge env newest

/-- What the two sources of backups say about the age of the latest one. -/
def backupRisks (onCluster onServer : Except AppError (Option Nat)) : DeepRisks :=
  let stale (age : Nat) : DeepRisks :=
    if backupStaleHours < age then [(.backupAgeWarning age, .warning)] else []
  match onCluster, onServer with
  | .ok one, .ok two =>
    match combineBackupAge one two with
    | some age => stale age
    | none => [(.noBackupFound, .notice)]
  | .ok (some age), .error e | .error e, .ok (some age) =>
    stale age ++ [skipped s!"one backup source failed: {e.display}"]
  | .ok none, .error e | .error e, .ok none =>
    [skipped s!"backup-recency probe failed: {e.display}"]
  | .error e, .error _ => [skipped s!"backup-recency probe failed (both PVE+PBS): {e.display}"]

def snapshotRisks (guest : Guest) : Mcp DeepRisks := do
  let answer : Except AppError (List SnapshotRow) ← toResult
    (askCluster env (.listSnapshots guest.node guest.vmid guest.guestType))
  match answer with
  | .error _ => return []
  | .ok snapshots =>
    let count := min (snapshots.filter (!·.isCurrent)).length u32Max
    if manySnapshotsThreshold < count then
      return [(.hasManySnapshots count, .warning)]
    else return []

/-- The backup server is asked only if there is a client for it. -/
def serverBackup (hasPbs : Bool) (guest : Guest) : Mcp (Except AppError (Option Nat)) :=
  if hasPbs then toResult (findRecentPbsBackup env guest.vmid guest.guestType)
  else return .ok none

/-- The checks of a deletion: what else is lost, and what is left. -/
def deleteRisks (hasPbs : Bool) (guest : Guest) : Mcp DeepRisks := do
  let snapshots ← snapshotRisks env guest
  let onCluster ← toResult (findRecentBackup env guest.node guest.vmid)
  let onServer ← serverBackup env hasPbs guest
  return snapshots ++ backupRisks onCluster onServer

def listeningCommand : String :=
  "ss -H -tln 2>/dev/null || netstat -tln 2>/dev/null"

/-- The first line of an error. -/
def firstLine (text : String) : String :=
  if text.isEmpty then "QGA call failed"
  else
    let line := (RustStr.split text '\n').headD ""
    if RustStr.endsWith line "\r" then (line.dropEnd 1).copy else line

/-- What listens in a running guest, asked through its agent. -/
def listeningRisks (guest : Guest) : Mcp DeepRisks :=
  if guest.status ≠ .running then return []
  else if guest.guestType = .lxc then
    return [skipped ("LXC has no QGA — listening-port probe unavailable; " ++
      "use SSH inside the container if you need it")]
  else do
    let answer : Except AppError CommandResult ← toResult
      (askCluster env (.executeGuestCommand guest.node guest.vmid guest.guestType listeningCommand))
    match answer with
    | .error e => return [skipped s!"QGA exec failed: {firstLine e.display}"]
    | .ok result =>
      if result.exitCode ≠ 0 ∨ result.stdout.isEmpty then
        return [skipped (s!"QGA exec returned exit={result.exitCode} " ++
          s!"stdout_bytes={result.stdout.utf8ByteSize} — " ++
          "`ss` and `netstat` both failed")]
      else
        return (parseListeningPorts result.stdout).filterMap fun port =>
          (wellKnownPort port).map fun name => (.listeningOnService port name, .warning)

/-- The checks that only one operation needs. -/
def opRisks (hasPbs : Bool) (op : PreflightOp) (guest : Guest) : Mcp DeepRisks :=
  if op = .delete then deleteRisks env hasPbs guest else return []

def assessDeepWith (hasPbs : Bool) (op : PreflightOp) (guest : Guest) : Mcp DeepRisks := do
  let forOp ← opRisks env hasPbs op guest
  let listening ← listeningRisks env guest
  return (assess op guest).map (fun risk => (.visible risk.1, risk.2)) ++ forOp ++ listening

def preflightOpForTool : String → Option PreflightOp
  | "stop_guest" => some .stop
  | "restart_guest" => some .restart
  | "delete_guest" => some .delete
  | "migrate_guest" => some .migrate
  | _ => none

/-- The backup server's client, if it is configured and can be built. -/
def pbsClient (op : PreflightOp) : Mcp (Bool × DeepRisks) :=
  match op, env.pbs with
  | .delete, some build => do
      match ← toResult (consult build) with
      | .ok _ => return (true, [])
      | .error e => return (false, [skipped s!"PBS client could not be built: {e.chain}"])
  | _, _ => return (false, [])

def mcpPreflight (op : PreflightOp) (guest : Guest) : Mcp DeepRisks := do
  let (hasPbs, notBuilt) ← pbsClient env op
  let risks ← assessDeepWith env hasPbs op guest
  return risks ++ notBuilt

end Deep

section Reads

variable (env : McpEnv) {allowed : Mutation → Bool}

theorem stays_newestOver {times : String → Mcp (List Nat)}
    (htimes : ∀ place, Stays (Moves allowed) (times place))
    (places : List String) (newest : Nat) :
    Stays (Moves allowed) (newestOver times places newest) := by
  induction places generalizing newest with
  | nil => exact Stays.pure newest
  | cons place rest ih =>
    refine (htimes place).toResult.bind ?_
    intro answer
    cases answer with
    | ok | error => exact ih _

theorem stays_backupAge (newest : Nat) : Stays (Moves allowed) (backupAge env newest) := by
  unfold backupAge
  split
  · exact Stays.pure none
  · exact (stays_nowSecs env).bind fun _ => Stays.pure _

theorem stays_findRecentBackup (node : String) (vmid : Nat) :
    Stays (Moves allowed) (findRecentBackup env node vmid) := by
  refine (stays_askCluster env _).bind fun storages => ?_
  refine (stays_newestOver ?_ _ 0).bind fun newest => stays_backupAge env newest
  intro place
  exact (stays_askCluster env _).bind fun _ => Stays.pure _

theorem stays_findRecentPbsBackup (vmid : Nat) (guestType : GuestType) :
    Stays (Moves allowed) (findRecentPbsBackup env vmid guestType) := by
  refine (stays_askCluster env _).bind fun stores => ?_
  exact (stays_newestOver (fun _ => stays_askCluster env _) _ 0).bind
    fun newest => stays_backupAge env newest

theorem stays_snapshotRisks (guest : Guest) : Stays (Moves allowed) (snapshotRisks env guest) := by
  refine (stays_askCluster env _).toResult.bind ?_
  intro answer
  cases answer with
  | error e => exact Stays.pure []
  | ok snapshots =>
    dsimp only
    split <;> exact Stays.pure _

theorem stays_serverBackup (hasPbs : Bool) (guest : Guest) :
    Stays (Moves allowed) (serverBackup env hasPbs guest) := by
  unfold serverBackup
  split
  · exact (stays_findRecentPbsBackup env _ _).toResult
  · exact Stays.pure _

theorem stays_opRisks (hasPbs : Bool) (op : PreflightOp) (guest : Guest) :
    Stays (Moves allowed) (opRisks env hasPbs op guest) := by
  unfold opRisks
  split
  · refine (stays_snapshotRisks env guest).bind fun snapshots => ?_
    refine (stays_findRecentBackup env _ _).toResult.bind fun onCluster => ?_
    exact (stays_serverBackup env hasPbs guest).bind fun _ => Stays.pure _
  · exact Stays.pure []

theorem stays_listeningRisks (guest : Guest) :
    Stays (Moves allowed) (listeningRisks env guest) := by
  unfold listeningRisks
  split
  · exact Stays.pure []
  split
  · exact Stays.pure _
  refine (stays_askCluster env _).toResult.bind ?_
  intro answer
  cases answer with
  | error e => exact Stays.pure _
  | ok result =>
    dsimp only
    split <;> exact Stays.pure _

theorem stays_pbsClient (op : PreflightOp) : Stays (Moves allowed) (pbsClient env op) := by
  unfold pbsClient
  split
  · refine (stays_consult _).toResult.bind ?_
    intro answer
    cases answer with
    | ok | error => exact Stays.pure _
  · exact Stays.pure _

/-- The preflight sends no mutation and stores nothing. -/
theorem stays_mcpPreflight (op : PreflightOp) (guest : Guest) :
    Stays (Moves allowed) (mcpPreflight env op guest) := by
  refine (stays_pbsClient env op).bind fun client => ?_
  have hdeep : Stays (Moves allowed) (assessDeepWith env client.1 op guest) :=
    (stays_opRisks env client.1 op guest).bind fun _ =>
      (stays_listeningRisks env guest).bind fun _ => Stays.pure _
  exact hdeep.bind fun _ => Stays.pure _

end Reads

end Proxxx
