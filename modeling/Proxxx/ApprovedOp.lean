/-
The operation that an approved request stands for, decoded from the action and
the parameters stored in its row.
-/
import Proxxx.PendingStore
import Proxxx.SerdeJson

namespace Proxxx

open SerdeJson RustStr

/-- What the libraries contribute: the JSON parser and the way a character or
a text is printed for debugging. -/
structure Libraries where
  json : Parser
  debugChar : Char → String
  debugText : String → String

inductive Shape where
  | any
  | name
  | upid
deriving Repr, DecidableEq

def Shape.okChar : Shape → Char → Bool
  | .any, _ => true
  | .name, c => c.isAlphanum || c == '-' || c == '_' || c == '.'
  | .upid, c =>
    c.isAlphanum || c == '-' || c == '_' || c == '.' || c == ':' || c == '@' || c == '!'

def Shape.check (libs : Libraries) (shape : Shape) (value : String) : Except String Unit :=
  if shape = .any then .ok ()
  else if value.isEmpty then .error "must not be empty"
  else if value.utf8ByteSize > 256 then
    .error s!"must be at most 256 bytes, got {value.utf8ByteSize}"
  else
    match value.toList.find? fun c => !shape.okChar c with
    | some bad =>
      .error (s!"contains {libs.debugChar bad}, which is not allowed here " ++
        "(letters, digits and a small punctuation set only — a value that " ++
        "can carry a path separator or a relative segment is refused at " ++
        "the boundary)")
    | none =>
      if value.toList.all (· == '.') then
        .error "must not be a relative path segment"
      else .ok ()

structure CliStopParams where
  force : Bool
  timeoutSecs : Nat
deriving Repr, DecidableEq

structure McpStopGuestParams where
  guestId : Nat
  force : Bool
deriving Repr, DecidableEq

structure McpGuestIdParams where
  guestId : Nat
deriving Repr, DecidableEq

structure McpSnapshotParams where
  guestId : Nat
  name : String
deriving Repr, DecidableEq

structure McpCloneGuestParams where
  guestId : Nat
  newid : Nat
  name : Option String
  full : Bool
deriving Repr, DecidableEq

structure McpMigrateGuestParams where
  guestId : Nat
  targetNode : String
  online : Bool
deriving Repr, DecidableEq

structure McpCreateGuestParams where
  node : String
  guestType : String
  vmid : Option Nat
  name : Option String
  memory : Option Nat
  cores : Option Nat
  storage : Option String
  diskSize : Option Nat
  template : Option String
  iso : Option String
  bridge : Option String
deriving Repr, DecidableEq

structure McpCloneWithCloudinitParams where
  guestId : Nat
  newid : Nat
  name : Option String
  full : Bool
  ciuser : Option String
  sshkey : Option String
  ipconfig0 : Option String
  searchdomain : Option String
  nameserver : Option String
deriving Repr, DecidableEq

inductive ApprovedOp where
  | cliStart
  | cliStop (params : CliStopParams)
  | cliRestart
  | cliSuspend
  | cliResume
  | mcpStopGuest (params : McpStopGuestParams)
  | mcpRestartGuest (params : McpGuestIdParams)
  | mcpDeleteGuest (params : McpGuestIdParams)
  | mcpCreateSnapshot (params : McpSnapshotParams)
  | mcpDeleteSnapshot (params : McpSnapshotParams)
  | mcpSuspendGuest (params : McpGuestIdParams)
  | mcpCloneGuest (params : McpCloneGuestParams)
  | mcpMigrateGuest (params : McpMigrateGuestParams)
  | mcpCreateGuest (params : McpCreateGuestParams)
  | mcpCloneWithCloudinit (params : McpCloneWithCloudinitParams)
deriving Repr, DecidableEq

section Fields

def requiredField (name : String) (kind : FieldKind) : Field :=
  { name, aliases := [], kind, required := true }

def defaultedField (name : String) (kind : FieldKind) : Field :=
  { name, aliases := [], kind, required := false }

def optionalField (name : String) (kind : FieldKind) : Field :=
  defaultedField name (.optional kind)

def cliStopFields : List Field :=
  [defaultedField "force" .bool, { defaultedField "timeout_secs" .u32 with aliases := ["timeout"] }]

def mcpStopGuestFields : List Field :=
  [requiredField "guest_id" .u32, defaultedField "force" .bool]

def mcpGuestIdFields : List Field :=
  [requiredField "guest_id" .u32]

def mcpSnapshotFields : List Field :=
  [requiredField "guest_id" .u32, requiredField "name" .string]

def mcpCloneGuestFields : List Field :=
  [requiredField "guest_id" .u32, defaultedField "newid" .u32,
    optionalField "name" .string, defaultedField "full" .bool]

def mcpMigrateGuestFields : List Field :=
  [requiredField "guest_id" .u32, requiredField "target_node" .string,
    defaultedField "online" .bool]

def mcpCreateGuestFields : List Field :=
  [requiredField "node" .string, requiredField "type" .string,
    optionalField "vmid" .u32, optionalField "name" .string,
    optionalField "memory" .u64, optionalField "cores" .u64,
    optionalField "storage" .string, optionalField "disk_size" .u64,
    optionalField "template" .string, optionalField "iso" .string, optionalField "bridge" .string]

def mcpCloneWithCloudinitFields : List Field :=
  [requiredField "guest_id" .u32, defaultedField "newid" .u32,
    optionalField "name" .string, defaultedField "full" .bool,
    optionalField "ciuser" .string, optionalField "sshkey" .string,
    optionalField "ipconfig0" .string, optionalField "searchdomain" .string,
    optionalField "nameserver" .string]

end Fields

section Params

/-- A required field is always there; the default stands for nothing. -/
def natOf (values : Values) (name : String) : Nat :=
  (values.nat? name).getD 0

def textOf (values : Values) (name : String) : String :=
  (values.string? name).getD ""

def flagOf (values : Values) (name : String) (default : Bool) : Bool :=
  (values.bool? name).getD default

def guestIdOf (values : Values) : Nat :=
  natOf values "guest_id"

def defaultCliStopTimeout : Nat := 60

def cliStopParams (values : Values) : CliStopParams :=
  { force := flagOf values "force" false
    timeoutSecs := (values.nat? "timeout_secs").getD defaultCliStopTimeout }

def mcpStopGuestParams (values : Values) : McpStopGuestParams :=
  { guestId := guestIdOf values, force := flagOf values "force" false }

def mcpGuestIdParams (values : Values) : McpGuestIdParams :=
  { guestId := guestIdOf values }

def mcpSnapshotParams (values : Values) : McpSnapshotParams :=
  { guestId := guestIdOf values, name := textOf values "name" }

def mcpCloneGuestParams (values : Values) : McpCloneGuestParams :=
  { guestId := guestIdOf values, newid := natOf values "newid", name := values.string? "name"
    full := flagOf values "full" false }

def mcpMigrateGuestParams (values : Values) : McpMigrateGuestParams :=
  { guestId := guestIdOf values, targetNode := textOf values "target_node"
    online := flagOf values "online" true }

def mcpCreateGuestParams (values : Values) : McpCreateGuestParams :=
  { node := textOf values "node", guestType := textOf values "type", vmid := values.nat? "vmid"
    name := values.string? "name", memory := values.nat? "memory", cores := values.nat? "cores"
    storage := values.string? "storage", diskSize := values.nat? "disk_size"
    template := values.string? "template", iso := values.string? "iso"
    bridge := values.string? "bridge" }

def mcpCloneWithCloudinitParams (values : Values) : McpCloneWithCloudinitParams :=
  { guestId := guestIdOf values, newid := natOf values "newid", name := values.string? "name"
    full := flagOf values "full" false, ciuser := values.string? "ciuser"
    sshkey := values.string? "sshkey", ipconfig0 := values.string? "ipconfig0"
    searchdomain := values.string? "searchdomain", nameserver := values.string? "nameserver" }

end Params

section Decode

variable (libs : Libraries) (request : PendingRequest)

def decodeParams (name : String) (fields : List Field) : Except String Values :=
  (libs.json.fromStr fields request.paramsJson).mapError fun e => s!"{name}: {e}"

def checkName (field value : String) : Except String Unit :=
  (Shape.name.check libs value).mapError fun e => s!"{field}: {e}"

def checkOptionalName (field : String) (value : Option String) : Except String Unit :=
  match value with
  | none => .ok ()
  | some text => checkName libs field text

def checkCliVmid : Except String Nat :=
  let missing := s!"missing positive vmid for CLI action '{request.action}'"
  match request.vmid with
  | none => .error missing
  | some vmid => if vmid > 0 then .ok vmid else .error missing

def checkMcpGuestId (guestId : Nat) : Except String Unit :=
  if guestId = 0 then .error "guest_id must be positive"
  else
    match request.vmid with
    | none => .ok ()
    | some rowVmid =>
      if rowVmid ≠ guestId then
        .error (s!"row vmid ({rowVmid}) does not match " ++ s!"params.guest_id ({guestId})")
      else .ok ()

/-- A batch action of the command line: the row carries the guest, the
parameters do not. -/
def decodeCli (name : String) (fields : List Field) : Except String Values := do
  let _ ← checkCliVmid request
  decodeParams libs request name fields

/-- A tool on an existing guest: the parameters carry the guest, and the row
may not contradict them. -/
def decodeOnGuest (name : String) (fields : List Field)
    (checkMore : Values → Except String Unit) : Except String Values := do
  let values ← decodeParams libs request name fields
  checkMcpGuestId request (guestIdOf values)
  checkMore values
  return values

def checkCreateGuest (params : McpCreateGuestParams) : Except String Unit := do
  checkName libs "create_guest.node" params.node
  if params.guestType ≠ "qemu" ∧ params.guestType ≠ "lxc" then
    throw (s!"create_guest: invalid type '{params.guestType}' " ++ "(expected 'qemu' or 'lxc')")
  if params.guestType = "lxc" ∧ params.template = none then
    throw "create_guest lxc: missing 'template'"
  checkOptionalName libs "create_guest.name" params.name
  checkOptionalName libs "create_guest.storage" params.storage
  match request.vmid, params.vmid with
  | some rowVmid, some vmid =>
    if rowVmid ≠ vmid then
      throw s!"row vmid ({rowVmid}) does not match params.vmid ({vmid})"
  | _, _ => pure ()

def decodeCreateGuest : Except String ApprovedOp := do
  let values ← decodeParams libs request "create_guest" mcpCreateGuestFields
  let params := mcpCreateGuestParams values
  checkCreateGuest libs request params
  return .mcpCreateGuest params

def ApprovedOp.decode : Except String ApprovedOp :=
  let noMore : Values → Except String Unit := fun _ => .ok ()
  match request.action with
  | "start" => do
      let _ ← decodeCli libs request "start" []
      return .cliStart
  | "stop" => do
      let values ← decodeCli libs request "stop" cliStopFields
      return .cliStop (cliStopParams values)
  | "restart" => do
      let _ ← decodeCli libs request "restart" []
      return .cliRestart
  | "suspend" => do
      let _ ← decodeCli libs request "suspend" []
      return .cliSuspend
  | "resume" => do
      let _ ← decodeCli libs request "resume" []
      return .cliResume
  | "stop_guest" => do
      let values ← decodeOnGuest libs request "stop_guest" mcpStopGuestFields
        noMore
      return .mcpStopGuest (mcpStopGuestParams values)
  | "restart_guest" => do
      let values ← decodeOnGuest libs request "restart_guest" mcpGuestIdFields
        noMore
      return .mcpRestartGuest (mcpGuestIdParams values)
  | "delete_guest" => do
      let values ← decodeOnGuest libs request "delete_guest" mcpGuestIdFields
        noMore
      return .mcpDeleteGuest (mcpGuestIdParams values)
  | "create_snapshot" => do
      let values ← decodeOnGuest libs request "create_snapshot"
        mcpSnapshotFields fun values => checkName libs "create_snapshot.name" (textOf values "name")
      return .mcpCreateSnapshot (mcpSnapshotParams values)
  | "delete_snapshot" => do
      let values ← decodeOnGuest libs request "delete_snapshot"
        mcpSnapshotFields fun values => checkName libs "delete_snapshot.name" (textOf values "name")
      return .mcpDeleteSnapshot (mcpSnapshotParams values)
  | "suspend_guest" => do
      let values ← decodeOnGuest libs request "suspend_guest" mcpGuestIdFields
        noMore
      return .mcpSuspendGuest (mcpGuestIdParams values)
  | "clone_guest" => do
      let values ← decodeOnGuest libs request "clone_guest"
        mcpCloneGuestFields fun values =>
          checkOptionalName libs "clone_guest.name" (values.string? "name")
      return .mcpCloneGuest (mcpCloneGuestParams values)
  | "migrate_guest" => do
      let values ← decodeOnGuest libs request "migrate_guest"
        mcpMigrateGuestFields fun values =>
          checkName libs "migrate_guest.target_node" (textOf values "target_node")
      return .mcpMigrateGuest (mcpMigrateGuestParams values)
  | "create_guest" => decodeCreateGuest libs request
  | "clone_with_cloudinit" => do
      let values ← decodeOnGuest libs request "clone_with_cloudinit"
        mcpCloneWithCloudinitFields fun values =>
          checkOptionalName libs "clone_with_cloudinit.name" (values.string? "name")
      return .mcpCloneWithCloudinit (mcpCloneWithCloudinitParams values)
  | other => .error s!"unknown action '{other}'"

end Decode

namespace ApprovedOp

/-- The preflight that guards the operation, if any. -/
def preflightOp : ApprovedOp → Option PreflightOp
  | .cliStop _ | .mcpStopGuest _ => some .stop
  | .cliRestart | .mcpRestartGuest _ => some .restart
  | .mcpDeleteGuest _ => some .delete
  | .mcpMigrateGuest _ => some .migrate
  | .cliStart | .cliSuspend | .cliResume | .mcpCreateSnapshot _
  | .mcpDeleteSnapshot _ | .mcpSuspendGuest _ | .mcpCloneGuest _
  | .mcpCreateGuest _ | .mcpCloneWithCloudinit _ => none

/-- The guest named by the decoded parameters themselves. -/
def paramsGuestId : ApprovedOp → Option Nat
  | .cliStart | .cliStop _ | .cliRestart | .cliSuspend | .cliResume
  | .mcpCreateGuest _ => none
  | .mcpStopGuest params => some params.guestId
  | .mcpRestartGuest params | .mcpDeleteGuest params
  | .mcpSuspendGuest params => some params.guestId
  | .mcpCreateSnapshot params | .mcpDeleteSnapshot params => some params.guestId
  | .mcpCloneGuest params => some params.guestId
  | .mcpMigrateGuest params => some params.guestId
  | .mcpCloneWithCloudinit params => some params.guestId

/-- The guest that must exist as recorded before the operation runs. -/
def existingGuestVmid (op : ApprovedOp) (request : PendingRequest) : Option Nat :=
  match op with
  | .cliStart | .cliStop _ | .cliRestart | .cliSuspend | .cliResume => request.vmid
  | .mcpStopGuest params => some params.guestId
  | .mcpRestartGuest params | .mcpDeleteGuest params
  | .mcpSuspendGuest params => some params.guestId
  | .mcpCreateSnapshot params | .mcpDeleteSnapshot params => some params.guestId
  | .mcpCloneGuest params => some params.guestId
  | .mcpMigrateGuest params => some params.guestId
  | .mcpCreateGuest _ => none
  | .mcpCloneWithCloudinit params => some params.guestId

/-- The explicit new id that must still be free. -/
def freeTargetVmid (op : ApprovedOp) (request : PendingRequest) : Option Nat :=
  match op with
  | .mcpCreateGuest params => (params.vmid.or request.vmid).filter (0 < ·)
  | .mcpCloneGuest params => if 0 < params.newid then some params.newid else none
  | .mcpCloneWithCloudinit params => if 0 < params.newid then some params.newid else none
  | _ => none

/-- The id that outcomes and messages report. -/
def targetVmid (op : ApprovedOp) (request : PendingRequest) : Nat :=
  (((op.existingGuestVmid request).or (op.freeTargetVmid request)).or request.vmid).getD 0

end ApprovedOp

section Binding

variable {libs : Libraries} {request : PendingRequest}

theorem checkCliVmid_eq_ok {vmid : Nat} (hcheck : checkCliVmid request = .ok vmid) :
    request.vmid = some vmid ∧ 0 < vmid := by
  unfold checkCliVmid at hcheck
  split at hcheck
  · simp at hcheck
  next rowVmid hrow =>
    split at hcheck
    next hpositive =>
      cases hcheck
      exact ⟨hrow, hpositive⟩
    next => simp at hcheck

theorem checkMcpGuestId_eq_ok {guestId : Nat} {done : Unit}
    (hcheck : checkMcpGuestId request guestId = .ok done) :
    0 < guestId ∧ ∀ vmid, request.vmid = some vmid → vmid = guestId := by
  unfold checkMcpGuestId at hcheck
  split at hcheck
  · simp at hcheck
  next hpositive =>
    refine ⟨Nat.pos_of_ne_zero hpositive, ?_⟩
    intro vmid hvmid
    rw [hvmid] at hcheck
    by_contra hne
    simp [hne] at hcheck

theorem decodeCli_eq_ok {name : String} {fields : List Field} {values : Values}
    (hdecode : decodeCli libs request name fields = .ok values) :
    ∃ vmid, request.vmid = some vmid ∧ 0 < vmid := by
  obtain ⟨vmid, hvmid, -⟩ := bind_eq_ok hdecode
  exact ⟨vmid, checkCliVmid_eq_ok hvmid⟩

theorem decodeOnGuest_eq_ok {name : String} {fields : List Field}
    {checkMore : Values → Except String Unit} {values : Values}
    (hdecode : decodeOnGuest libs request name fields checkMore = .ok values) :
    0 < guestIdOf values ∧ ∀ vmid, request.vmid = some vmid → vmid = guestIdOf values := by
  obtain ⟨read, -, hcheck⟩ := bind_eq_ok hdecode
  obtain ⟨_, hguest, hmore⟩ := bind_eq_ok hcheck
  obtain ⟨_, -, hvalues⟩ := bind_eq_ok hmore
  cases hvalues
  exact checkMcpGuestId_eq_ok hguest

/-- A decoded operation is about one guest: the row's and the parameters', as
far as they name one. -/
structure Binds (request : PendingRequest) (op : ApprovedOp) (vmid : Nat) : Prop where
  positive : 0 < vmid
  row : ∀ rowVmid, request.vmid = some rowVmid → rowVmid = vmid
  params : ∀ guestId, op.paramsGuestId = some guestId → guestId = vmid
  named : request.vmid = some vmid ∨ op.paramsGuestId = some vmid

theorem decode_binds {op : ApprovedOp} {vmid : Nat}
    (hdecode : ApprovedOp.decode libs request = .ok op)
    (hvmid : op.existingGuestVmid request = some vmid) :
    Binds request op vmid := by
  have hcli : ∀ {name fields values}, op.paramsGuestId = none →
      op.existingGuestVmid request = request.vmid →
      decodeCli libs request name fields = .ok values →
      Binds request op vmid := by
    intro name fields values hparams hexisting hvalues
    obtain ⟨rowVmid, hrow, hpositive⟩ := decodeCli_eq_ok hvalues
    rw [hexisting, hrow] at hvmid
    cases hvmid
    exact ⟨hpositive, by simp [hrow], by simp [hparams], Or.inl hrow⟩
  have hmcp : ∀ {name fields checkMore values}, op.paramsGuestId = some (guestIdOf values) →
      op.existingGuestVmid request = op.paramsGuestId →
      decodeOnGuest libs request name fields checkMore = .ok values →
      Binds request op vmid := by
    intro name fields checkMore values hparams hexisting hvalues
    obtain ⟨hpositive, hrow⟩ := decodeOnGuest_eq_ok hvalues
    rw [hexisting, hparams] at hvmid
    cases hvmid
    exact ⟨hpositive, hrow, by simp [hparams], Or.inr hparams⟩
  unfold ApprovedOp.decode at hdecode
  split at hdecode
  case h_1 | h_2 | h_3 | h_4 | h_5 =>
    obtain ⟨values, hvalues, hop⟩ := bind_eq_ok hdecode
    cases hop
    exact hcli rfl rfl hvalues
  case h_6 | h_7 | h_8 | h_9 | h_10 | h_11 | h_12 | h_13 | h_15 =>
    obtain ⟨values, hvalues, hop⟩ := bind_eq_ok hdecode
    cases hop
    exact hmcp rfl rfl hvalues
  case h_14 =>
    -- Creating a guest binds no existing one.
    obtain ⟨values, -, hchecks⟩ := bind_eq_ok hdecode
    obtain ⟨_, -, hop⟩ := bind_eq_ok hchecks
    cases hop
    cases hvmid
  case h_16 => cases hdecode

end Binding

end Proxxx
