/-
The tools an agent can call: a fixed registry with the parameters of each tool,
and the check of a call's arguments against it.
-/
import Proxxx.ApprovedOp

namespace Proxxx

open SerdeJson

inductive ToolAction where
  | listGuests
  | getGuestStatus
  | startGuest
  | stopGuest
  | restartGuest
  | suspendGuest
  | resumeGuest
  | deleteGuest
  | cloneGuest
  | migrateGuest
  | createSnapshot
  | listSnapshots
  | deleteSnapshot
  | listNodes
  | getNodeResources
  | getNodeStatus
  | getClusterStatus
  | listTasks
  | getTaskLog
  | getStoragePools
  | listBackupJobs
  | getReplicationStatus
  | createGuest
  | listClusterEvents
  | cloneWithCloudinit
deriving Repr, DecidableEq

inductive ParamType where
  | str
  | int
  | bool
deriving Repr, DecidableEq

structure ParamDef where
  name : String
  paramType : ParamType
  required : Bool
  shape : Shape
deriving Repr, DecidableEq

structure ToolDef where
  name : String
  params : List ParamDef
  action : ToolAction
  destructive : Bool
  timeoutSecs : Nat
deriving Repr, DecidableEq

def defaultTimeoutSecs : Nat := 30

/-- The registry. -/
def tools : List ToolDef := [
  { name := "list_nodes", params := [ ⟨"profile", .str, false, .any⟩], action := .listNodes
    destructive := false, timeoutSecs := defaultTimeoutSecs },
  { name := "list_guests", params := [ ⟨"profile", .str, false, .any⟩, ⟨"node", .str, false, .name⟩]
    action := .listGuests, destructive := false, timeoutSecs := defaultTimeoutSecs },
  { name := "get_guest_status", params := [ ⟨"guest_id", .int, true, .any⟩]
    action := .getGuestStatus, destructive := false, timeoutSecs := defaultTimeoutSecs },
  { name := "start_guest", params := [ ⟨"guest_id", .int, true, .any⟩], action := .startGuest
    destructive := false, timeoutSecs := 60 },
  { name := "stop_guest", params := [ ⟨"guest_id", .int, true, .any⟩, ⟨"force", .bool, false, .any⟩]
    action := .stopGuest, destructive := true, timeoutSecs := 60 },
  { name := "restart_guest", params := [ ⟨"guest_id", .int, true, .any⟩], action := .restartGuest
    destructive := true, timeoutSecs := 60 },
  { name := "delete_guest", params := [ ⟨"guest_id", .int, true, .any⟩], action := .deleteGuest
    destructive := true, timeoutSecs := 180 },
  { name := "create_snapshot"
    params := [ ⟨"guest_id", .int, true, .any⟩, ⟨"name", .str, true, .name⟩]
    action := .createSnapshot, destructive := true, timeoutSecs := 120 },
  { name := "delete_snapshot"
    params := [ ⟨"guest_id", .int, true, .any⟩, ⟨"name", .str, true, .name⟩]
    action := .deleteSnapshot, destructive := true, timeoutSecs := 120 },
  { name := "get_storage_pools", params := [ ⟨"node", .str, true, .name⟩]
    action := .getStoragePools, destructive := false, timeoutSecs := defaultTimeoutSecs },
  { name := "list_snapshots", params := [ ⟨"guest_id", .int, true, .any⟩], action := .listSnapshots
    destructive := false, timeoutSecs := defaultTimeoutSecs },
  { name := "get_task_log", params := [ ⟨"node", .str, true, .name⟩, ⟨"upid", .str, true, .upid⟩]
    action := .getTaskLog, destructive := false, timeoutSecs := defaultTimeoutSecs },
  { name := "get_node_resources", params := [ ⟨"node", .str, true, .name⟩]
    action := .getNodeResources, destructive := false, timeoutSecs := defaultTimeoutSecs },
  { name := "suspend_guest", params := [ ⟨"guest_id", .int, true, .any⟩], action := .suspendGuest
    destructive := true, timeoutSecs := 60 },
  { name := "resume_guest", params := [ ⟨"guest_id", .int, true, .any⟩], action := .resumeGuest
    destructive := false, timeoutSecs := 60 },
  { name := "clone_guest", params := [
      ⟨"guest_id", .int, true, .any⟩, ⟨"newid", .int, false, .any⟩, ⟨"name", .str, false, .name⟩,
      ⟨"full", .bool, false, .any⟩]
    action := .cloneGuest, destructive := true, timeoutSecs := 180 },
  { name := "migrate_guest"
    params := [ ⟨"guest_id", .int, true, .any⟩, ⟨"target_node", .str, true, .name⟩,
      ⟨"online", .bool, false, .any⟩]
    action := .migrateGuest, destructive := true, timeoutSecs := 300 },
  { name := "get_cluster_status", params := [], action := .getClusterStatus, destructive := false
    timeoutSecs := defaultTimeoutSecs },
  { name := "list_tasks", params := [ ⟨"node", .str, false, .name⟩], action := .listTasks
    destructive := false, timeoutSecs := defaultTimeoutSecs },
  { name := "get_node_status", params := [ ⟨"node", .str, true, .name⟩], action := .getNodeStatus
    destructive := false, timeoutSecs := defaultTimeoutSecs },
  { name := "list_backup_jobs", params := [], action := .listBackupJobs, destructive := false
    timeoutSecs := defaultTimeoutSecs },
  { name := "get_replication_status", params := [ ⟨"node", .str, true, .name⟩]
    action := .getReplicationStatus, destructive := false, timeoutSecs := defaultTimeoutSecs },
  { name := "create_guest", params := [
      ⟨"node", .str, true, .name⟩, ⟨"type", .str, true, .any⟩, ⟨"vmid", .int, false, .any⟩,
      ⟨"name", .str, false, .name⟩, ⟨"memory", .int, false, .any⟩, ⟨"cores", .int, false, .any⟩,
      ⟨"storage", .str, false, .name⟩, ⟨"disk_size", .int, false, .any⟩,
      ⟨"template", .str, false, .any⟩, ⟨"iso", .str, false, .any⟩, ⟨"bridge", .str, false, .any⟩]
    action := .createGuest, destructive := true, timeoutSecs := 120 },
  { name := "list_cluster_events"
    params := [ ⟨"limit", .int, false, .any⟩, ⟨"running_only", .bool, false, .any⟩]
    action := .listClusterEvents, destructive := false, timeoutSecs := 15 },
  { name := "clone_with_cloudinit", params := [
      ⟨"guest_id", .int, true, .any⟩, ⟨"newid", .int, false, .any⟩, ⟨"name", .str, false, .name⟩,
      ⟨"full", .bool, false, .any⟩, ⟨"ciuser", .str, false, .any⟩, ⟨"sshkey", .str, false, .any⟩,
      ⟨"ipconfig0", .str, false, .any⟩, ⟨"searchdomain", .str, false, .any⟩,
      ⟨"nameserver", .str, false, .any⟩]
    action := .cloneWithCloudinit, destructive := true, timeoutSecs := 300 }]

/-- The tool with a name; names are not repeated. -/
def findTool (name : String) : Option ToolDef :=
  tools.find? fun tool => tool.name = name

section Arguments

variable (libs : Libraries) (toText : Json → String)

/-- The check of a value that was given for a parameter. -/
def ParamDef.checkValue (param : ParamDef) (value : Json) : Except String Unit :=
  match param.paramType with
  | .int =>
    if value.asU64.any (· < 2 ^ 32) then .ok ()
    else
      .error (s!"Parameter '{param.name}': expected an integer from 0 to " ++
        s!"{u32Max}, got {toText value}")
  | .bool =>
    if value.asBool.isSome then .ok ()
    else
      .error (s!"Parameter '{param.name}': expected boolean, " ++ s!"got {toText value}")
  | .str =>
    match value.asStr with
    | none =>
      .error (s!"Parameter '{param.name}': expected string, " ++ s!"got {toText value}")
    | some text =>
      (param.shape.check libs text).mapError fun why =>
        s!"Parameter '{param.name}': {why}"

def ParamDef.check (param : ParamDef) (args : Json) : Except String Unit :=
  match args.get? param.name with
  | none =>
    if param.required then
      .error s!"Missing required parameter: {param.name}"
    else .ok ()
  | some value => param.checkValue libs toText value

/-- The parameters are checked in order, and the first error is reported. -/
def checkParams (args : Json) : List ParamDef → Except String Unit
  | [] => .ok ()
  | param :: rest => do
      param.check libs toText args
      checkParams args rest

end Arguments

section Checked

variable {libs : Libraries} {toText : Json → String} {args : Json}
variable {params : List ParamDef} {param : ParamDef}

theorem checkParams_eq_ok : checkParams libs toText args params = .ok () ↔
    ∀ param ∈ params, param.check libs toText args = .ok () := by
  induction params with
  | nil => simp [checkParams]
  | cons head tail ih =>
    rw [checkParams, RustStr.andThen_eq_ok, ih]
    simp

/-- What a value that passed the check can be. -/
def ParamDef.Admits (libs : Libraries) (param : ParamDef) (value : Json) : Prop :=
  match param.paramType with
  | .int => ∃ number : Nat, value = .int number ∧ number < 2 ^ 32
  | .bool => ∃ flag, value = .bool flag
  | .str => ∃ text, value = .str text ∧ param.shape.check libs text = .ok ()

theorem admits_of_checkValue {value : Json} (hcheck : param.checkValue libs toText value = .ok ()) :
    param.Admits libs value := by
  unfold ParamDef.checkValue at hcheck
  unfold ParamDef.Admits
  generalize param.paramType = kind at hcheck ⊢
  cases kind with
  | int =>
    cases hnumber : value.asU64 with
    | none => simp [hnumber] at hcheck
    | some number =>
      refine ⟨number, Json.eq_int_of_asU64 hnumber, ?_⟩
      by_contra hbound
      simp [hnumber] at hcheck hbound
      omega
  | bool =>
    cases value with
    | bool flag => exact ⟨flag, rfl⟩
    | _ => cases hcheck
  | str =>
    cases value with
    | str text => exact ⟨text, rfl, RustStr.mapError_eq_ok.mp hcheck⟩
    | _ => cases hcheck

theorem admits_of_checkParams {value : Json} (hcheck : checkParams libs toText args params = .ok ())
    (hparam : param ∈ params) (hvalue : args.get? param.name = some value) :
    param.Admits libs value := by
  have hone := checkParams_eq_ok.mp hcheck param hparam
  rw [ParamDef.check, hvalue] at hone
  exact admits_of_checkValue hone

theorem isSome_of_checkParams (hcheck : checkParams libs toText args params = .ok ())
    (hparam : param ∈ params) (hrequired : param.required = true) :
    (args.get? param.name).isSome = true := by
  have hone := checkParams_eq_ok.mp hcheck param hparam
  rw [ParamDef.check] at hone
  split at hone
  · simp [hrequired] at hone
  next hvalue => simp [hvalue]

end Checked

end Proxxx
