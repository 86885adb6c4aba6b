/-
A stored call is read a second time when it has been approved.  The registry
that accepted it and the structures it is decoded into are two descriptions of
the same arguments; here they are compared.
-/
import Proxxx.McpGate

namespace Proxxx

open FaultProgram SerdeJson List

section Descriptions

/-- The name under which a gated tool is stored. -/
def ToolAction.toolName : ToolAction → String
  | .stopGuest => "stop_guest"
  | .restartGuest => "restart_guest"
  | .deleteGuest => "delete_guest"
  | .createSnapshot => "create_snapshot"
  | .deleteSnapshot => "delete_snapshot"
  | .suspendGuest => "suspend_guest"
  | .cloneGuest => "clone_guest"
  | .migrateGuest => "migrate_guest"
  | .createGuest => "create_guest"
  | .cloneWithCloudinit => "clone_with_cloudinit"
  | _ => ""

/-- The structure its arguments are decoded into. -/
def ToolAction.fields : ToolAction → List Field
  | .stopGuest => mcpStopGuestFields
  | .restartGuest | .deleteGuest | .suspendGuest => mcpGuestIdFields
  | .createSnapshot | .deleteSnapshot => mcpSnapshotFields
  | .cloneGuest => mcpCloneGuestFields
  | .migrateGuest => mcpMigrateGuestFields
  | .createGuest => mcpCreateGuestFields
  | .cloneWithCloudinit => mcpCloneWithCloudinitFields
  | _ => []

/-- The operation of a tool with the given arguments, absent ones taking their
default. -/
def ToolAction.operation : ToolAction → Values → Option ApprovedOp
  | .stopGuest, values => some (.mcpStopGuest (mcpStopGuestParams values))
  | .restartGuest, values => some (.mcpRestartGuest (mcpGuestIdParams values))
  | .deleteGuest, values => some (.mcpDeleteGuest (mcpGuestIdParams values))
  | .createSnapshot, values => some (.mcpCreateSnapshot (mcpSnapshotParams values))
  | .deleteSnapshot, values => some (.mcpDeleteSnapshot (mcpSnapshotParams values))
  | .suspendGuest, values => some (.mcpSuspendGuest (mcpGuestIdParams values))
  | .cloneGuest, values => some (.mcpCloneGuest (mcpCloneGuestParams values))
  | .migrateGuest, values => some (.mcpMigrateGuest (mcpMigrateGuestParams values))
  | .createGuest, values => some (.mcpCreateGuest (mcpCreateGuestParams values))
  | .cloneWithCloudinit, values =>
    some (.mcpCloneWithCloudinit (mcpCloneWithCloudinitParams values))
  | _, _ => none

/-- The names that decoding checks, and expects to be there. -/
def ToolAction.requiredNames : ToolAction → List String
  | .createSnapshot | .deleteSnapshot => ["name"]
  | .migrateGuest => ["target_node"]
  | .createGuest => ["node"]
  | _ => []

/-- The names that decoding checks if they are there. -/
def ToolAction.optionalNames : ToolAction → List String
  | .cloneGuest | .cloneWithCloudinit => ["name"]
  | .createGuest => ["name", "storage"]
  | _ => []

def ParamType.fits : ParamType → FieldKind → Bool
  | type, .optional kind => type.fits kind
  | .int, .u32 => true
  | .int, .u64 => true
  | .bool, .bool => true
  | .str, .string => true
  | _, _ => false

/-- The parameter and the field describe the same argument. -/
@[mk_iff]
structure Mirrors (param : ParamDef) (field : Field) : Prop where
  name : param.name = field.name
  aliases : field.aliases = []
  required : param.required = field.required
  kind : param.paramType.fits field.kind = true

/-- A parameter that the registry checks to be a name. -/
@[mk_iff]
structure IsName (param : ParamDef) (name : String) : Prop where
  name : param.name = name
  paramType : param.paramType = .str
  shape : param.shape = .name

/-- A parameter that the registry checks to be a number. -/
@[mk_iff]
structure IsNumber (param : ParamDef) (name : String) : Prop where
  name : param.name = name
  paramType : param.paramType = .int

instance (param : ParamDef) (field : Field) : Decidable (Mirrors param field) :=
  decidable_of_iff' _ (mirrors_iff param field)

instance (param : ParamDef) (name : String) : Decidable (IsName param name) :=
  decidable_of_iff' _ (isName_iff param name)

instance (param : ParamDef) (name : String) : Decidable (IsNumber param name) :=
  decidable_of_iff' _ (isNumber_iff param name)

/-- What the registry and the decoder have in common for a gated tool. -/
@[mk_iff]
structure Aligned (tool : ToolDef) : Prop where
  gated : tool.action.ungated = false
  toolName : tool.name = tool.action.toolName
  ofField : ∀ field ∈ tool.action.fields, ∃ param ∈ tool.params, Mirrors param field
  ofParam : ∀ param ∈ tool.params, ∃ field ∈ tool.action.fields, Mirrors param field
  requiredParam : ∃ param ∈ tool.params, param.required = true
  requiredNames : ∀ name ∈ tool.action.requiredNames, ∃ param ∈ tool.params,
    IsName param name ∧ param.required = true
  optionalNames : ∀ name ∈ tool.action.optionalNames, ∃ param ∈ tool.params, IsName param name
  guest : tool.action ≠ .createGuest → ∃ param ∈ tool.params,
    IsNumber param "guest_id" ∧ param.required = true
  create : tool.action = .createGuest →
    (∃ param ∈ tool.params, IsNumber param "vmid") ∧ "guest_id" ∉ tool.params.map (·.name)

instance (tool : ToolDef) : Decidable (Aligned tool) :=
  decidable_of_iff' _ (aligned_iff tool)

/-- Every destructive tool of the registry has its decoder. -/
theorem aligned_of_tool : ∀ tool ∈ tools, tool.destructive = true → Aligned tool := by
  decide +kernel

end Descriptions

section Accepted

/-- What is known of a gated call that was accepted, and of its row.  The last
two are about the JSON library: a value is read back as it was written, and an
object has each key once. -/
structure Accepted (env : McpEnv) (tool : ToolDef) (args : Json)
    (request : PendingRequest) : Prop where
  aligned : Aligned tool
  checked : checkParams env.libs env.toText args tool.params = .ok ()
  records : Records env tool.name args request
  roundTrip : env.libs.json.parse (env.toText args) = some args
  keys : (args.entries.map Prod.fst).Nodup

/-- Every argument is one that the tool declares. -/
def Declared (tool : ToolDef) (args : Json) : Prop :=
  ∀ entry ∈ args.entries, ∃ param ∈ tool.params, param.name = entry.1

theorem accepts_of_admits {libs : Libraries} {param : ParamDef} {kind : FieldKind} {value : Json}
    (hfits : param.paramType.fits kind = true)
    (hadmits : param.Admits libs value) : kind.accepts value = true := by
  unfold ParamDef.Admits at hadmits
  generalize param.paramType = type at hfits hadmits
  induction kind with
  | optional kind ih =>
    have haccepts := ih hfits
    cases value with
    | null => rfl
    | _ => exact haccepts
  | u32 | u64 =>
    cases type with
    | int =>
      obtain ⟨number, rfl, hbound⟩ := hadmits
      simp only [FieldKind.accepts, Bool.and_eq_true, decide_eq_true_eq]
      omega
    | bool | str => cases hfits
  | bool =>
    cases type with
    | bool =>
      obtain ⟨flag, rfl⟩ := hadmits
      rfl
    | int | str => cases hfits
  | string =>
    cases type with
    | str =>
      obtain ⟨text, rfl, -⟩ := hadmits
      rfl
    | int | bool => cases hfits

variable {env : McpEnv} {tool : ToolDef} {args : Json}
variable {request : PendingRequest}

variable (haccepted : Accepted env tool args request)
include haccepted

theorem Accepted.eq_obj : args = .obj args.entries := by
  obtain ⟨param, hparam, hrequired⟩ := haccepted.aligned.requiredParam
  exact Json.eq_obj_of_get? (isSome_of_checkParams haccepted.checked hparam hrequired)

theorem Accepted.plain : Plain tool.action.fields := by
  intro field hfield
  obtain ⟨param, -, hmirrors⟩ := haccepted.aligned.ofField field hfield
  exact hmirrors.aliases

/-- What the registry let through is of the kind that the decoder takes. -/
theorem Accepted.kinds (entry : String × Json) (hentry : entry ∈ args.entries) (field : Field)
    (hfield : field ∈ tool.action.fields) (hname : field.name = entry.1) :
    field.kind.accepts entry.2 = true := by
  obtain ⟨param, hparam, hmirrors⟩ := haccepted.aligned.ofField field hfield
  have hvalue : args.get? param.name = some entry.2 := by
    rw [Json.get?_eq_lookup, lookup_eq_some_iff_mem haccepted.keys, hmirrors.name, hname]
    exact hentry
  exact accepts_of_admits hmirrors.kind (admits_of_checkParams haccepted.checked hparam hvalue)

/-- The entries as the decoder collects them. -/
theorem Accepted.visitMap_declared (hdeclared : Declared tool args) :
    visitMap tool.action.fields args.entries [] = some args.entries.reverse := by
  have hknown : ∀ entry ∈ args.entries, ∃ field ∈ tool.action.fields, field.name = entry.1 := by
    intro entry hentry
    obtain ⟨param, hparam, hname⟩ := hdeclared entry hentry
    obtain ⟨field, hfield, hmirrors⟩ := haccepted.aligned.ofParam param hparam
    exact ⟨field, hfield, hmirrors.name ▸ hname⟩
  have hrequired : (tool.action.fields.all fun field => !field.required ||
      (args.entries.reverse.lookup field.name).isSome) = true := by
    rw [all_eq_true]
    intro field hfield
    obtain ⟨param, hparam, hmirrors⟩ := haccepted.aligned.ofField field hfield
    cases hneeds : field.required with
    | false => rfl
    | true =>
      have hsome := isSome_of_checkParams haccepted.checked hparam (hmirrors.required.trans hneeds)
      rw [Json.get?_eq_lookup, hmirrors.name] at hsome
      rw [lookup_reverse haccepted.keys, hsome]
      rfl
  rw [visitMap_of_known haccepted.plain hknown haccepted.kinds haccepted.keys
    (by simp), append_nil, visitMap, if_pos hrequired]

theorem Accepted.fromStr (fields : List Field) : env.libs.json.fromStr fields request.paramsJson =
      match visitMap fields args.entries [] with
      | some values => .ok values
      | none => .error (env.libs.json.message fields request.paramsJson) := by
  have hparse : env.libs.json.parse request.paramsJson = some (.obj args.entries) := by
    rw [haccepted.records.params, haccepted.roundTrip, ← haccepted.eq_obj]
  rw [Parser.fromStr, hparse]
  rfl

theorem Accepted.decodeParams_declared (hdeclared : Declared tool args) (name : String) :
    decodeParams env.libs request name tool.action.fields = .ok args.entries.reverse := by
  rw [decodeParams, haccepted.fromStr, haccepted.visitMap_declared hdeclared]
  rfl

theorem Accepted.decodeParams_undeclared (hundeclared : ¬ Declared tool args) (name : String) :
    ∃ why, decodeParams env.libs request name tool.action.fields = .error why := by
  have hunknown : ∃ entry ∈ args.entries, ∀ field ∈ tool.action.fields, field.name ≠ entry.1 := by
    unfold Declared at hundeclared
    push Not at hundeclared
    obtain ⟨entry, hentry, hnone⟩ := hundeclared
    refine ⟨entry, hentry, ?_⟩
    intro field hfield hname
    obtain ⟨param, hparam, hmirrors⟩ := haccepted.aligned.ofField field hfield
    exact hnone param hparam (hmirrors.name.trans hname)
  rw [decodeParams, haccepted.fromStr, visitMap_of_unknown haccepted.plain hunknown]
  exact ⟨_, rfl⟩

omit haccepted in
theorem textArg_eq_string? (args : Json) (name : String) :
    textArg args name = Values.string? args.entries name := by
  unfold textArg Values.string?
  rw [Json.get?_eq_lookup]
  cases args.entries.lookup name with
  | none => rfl
  | some value => cases value <;> rfl

/-- A required argument is there, and of its type. -/
theorem Accepted.requiredValue {param : ParamDef} (hparam : param ∈ tool.params)
    (hrequired : param.required = true) :
    ∃ value, args.get? param.name = some value ∧ param.Admits env.libs value := by
  obtain ⟨value, hvalue⟩ := Option.isSome_iff_exists.mp
    (isSome_of_checkParams haccepted.checked hparam hrequired)
  exact ⟨value, hvalue, admits_of_checkParams haccepted.checked hparam hvalue⟩

/-- A declared number is read alike on both sides. -/
theorem Accepted.natArg_eq_nat?
    {name : String} (hnumber : ∃ param ∈ tool.params, IsNumber param name) :
    natArg args name = Values.nat? args.entries name := by
  obtain ⟨param, hparam, hnumber⟩ := hnumber
  unfold natArg Values.nat?
  cases hvalue : args.get? name with
  | none =>
    rw [Json.get?_eq_lookup] at hvalue
    rw [hvalue]
    rfl
  | some value =>
    have hadmits := admits_of_checkParams haccepted.checked hparam (hnumber.name ▸ hvalue)
    rw [ParamDef.Admits, hnumber.paramType] at hadmits
    obtain ⟨number, rfl, hbound⟩ := hadmits
    rw [Json.get?_eq_lookup] at hvalue
    rw [hvalue, Option.bind_some, Json.asU64_int (by omega), Option.map_some,
      Nat.mod_eq_of_lt hbound]
    rfl

/-- The guest of the arguments is the guest of the decoded operation. -/
theorem Accepted.guestIdArg_eq (hguest : tool.action ≠ .createGuest) :
    guestIdArg args = some (guestIdOf args.entries.reverse) := by
  obtain ⟨param, hparam, hnumber, hrequired⟩ := haccepted.aligned.guest hguest
  have hread := haccepted.natArg_eq_nat? ⟨param, hparam, hnumber⟩
  obtain ⟨value, hvalue, hadmits⟩ := haccepted.requiredValue hparam hrequired
  rw [ParamDef.Admits, hnumber.paramType] at hadmits
  obtain ⟨number, rfl, hbound⟩ := hadmits
  rw [Json.get?_eq_lookup, hnumber.name] at hvalue
  have hnat : Values.nat? args.entries "guest_id" = some number := by
    rw [Values.nat?, hvalue]
    simp
  rw [guestIdArg, hread, guestIdOf, natOf, Values.nat?_reverse haccepted.keys, hnat]
  rfl

/-- The texts that decoding checks to be names are names. -/
structure NamesFit (libs : Libraries) (action : ToolAction) (values : Values) : Prop where
  required : ∀ name ∈ action.requiredNames, Shape.name.check libs (textOf values name) = .ok ()
  optional : ∀ name ∈ action.optionalNames, ∀ text,
    values.string? name = some text → Shape.name.check libs text = .ok ()

theorem Accepted.namesFit : NamesFit env.libs tool.action args.entries.reverse := by
  have hchecked : ∀ {param name text}, param ∈ tool.params →
      IsName param name → Values.string? args.entries name = some text →
      Shape.name.check env.libs text = .ok () := by
    intro param name text hparam hname htext
    have hvalue : args.get? param.name = some (.str text) := by
      rw [Json.get?_eq_lookup, hname.name]
      exact Values.lookup_of_string? htext
    have hadmits := admits_of_checkParams haccepted.checked hparam hvalue
    rw [ParamDef.Admits, hname.paramType, hname.shape] at hadmits
    obtain ⟨checked, heq, hcheck⟩ := hadmits
    cases heq
    exact hcheck
  refine ⟨?_, ?_⟩
  · intro name hmem
    obtain ⟨param, hparam, hname, hrequired⟩ := haccepted.aligned.requiredNames name hmem
    obtain ⟨value, hvalue, hadmits⟩ := haccepted.requiredValue hparam hrequired
    rw [ParamDef.Admits, hname.paramType] at hadmits
    obtain ⟨text, rfl, -⟩ := hadmits
    rw [Json.get?_eq_lookup, hname.name] at hvalue
    have htext : Values.string? args.entries name = some text := by rw [Values.string?, hvalue]
    rw [textOf, Values.string?_reverse haccepted.keys, htext]
    exact hchecked hparam hname htext
  · intro name hmem text htext
    obtain ⟨param, hparam, hname⟩ := haccepted.aligned.optionalNames name hmem
    rw [Values.string?_reverse haccepted.keys] at htext
    exact hchecked hparam hname htext

omit haccepted in
/-- The order in which the decoder collects the arguments does not show. -/
theorem operation_reverse (action : ToolAction) {values : Values}
    (hkeys : (values.map Prod.fst).Nodup) :
    action.operation values.reverse = action.operation values := by
  cases action <;> simp only [ToolAction.operation, mcpStopGuestParams, mcpGuestIdParams,
      mcpSnapshotParams, mcpCloneGuestParams, mcpMigrateGuestParams,
      mcpCreateGuestParams, mcpCloneWithCloudinitParams, guestIdOf, natOf,
      textOf, flagOf, Values.nat?_reverse hkeys, Values.bool?_reverse hkeys,
      Values.string?_reverse hkeys]

end Accepted

section Decoding

variable {env : McpEnv} {tool : ToolDef} {args : Json}
variable {request : PendingRequest} {libs : Libraries}

theorem checkName_eq_ok {field text : String} (hcheck : Shape.name.check libs text = .ok ()) :
    checkName libs field text = .ok () :=
  RustStr.mapError_eq_ok.mpr hcheck

theorem checkOptionalName_eq_ok {field : String} {value : Option String}
    (hcheck : ∀ text, value = some text → Shape.name.check libs text = .ok ()) :
    checkOptionalName libs field value = .ok () := by
  cases value with
  | none => rfl
  | some text => exact checkName_eq_ok (hcheck text rfl)

/-- The decoders of the tools on an existing guest have one form. -/
theorem decode_onGuest (libs : Libraries) {action : ToolAction}
    (hgated : action.ungated = false) (hguest : action ≠ .createGuest)
    (haction : request.action = action.toolName) :
    ∃ (more : Values → Except String Unit) (op : Values → ApprovedOp),
      (∀ values, action.operation values = some (op values)) ∧
      (∀ values, NamesFit libs action values → more values = .ok ()) ∧
      ApprovedOp.decode libs request = (do
        let values ← decodeOnGuest libs request action.toolName action.fields more
        return op values) := by
  unfold ApprovedOp.decode
  rw [haction]
  cases action with
  | stopGuest | restartGuest | deleteGuest | suspendGuest =>
    exact ⟨fun _ => .ok (), _, fun _ => rfl, fun _ _ => rfl, rfl⟩
  | createSnapshot | deleteSnapshot | migrateGuest =>
    exact ⟨_, _, fun _ => rfl, fun _ hfit => checkName_eq_ok (hfit.required _ mem_cons_self), rfl⟩
  | cloneGuest | cloneWithCloudinit =>
    exact ⟨_, _, fun _ => rfl,
      fun _ hfit => checkOptionalName_eq_ok (hfit.optional _ mem_cons_self), rfl⟩
  | createGuest => exact absurd rfl hguest
  | _ => cases hgated

/-- What the decoder asks of the arguments beyond the checks of the registry. -/
structure FitsDecoder (tool : ToolDef) (args : Json) : Prop where
  declared : Declared tool args
  positive : guestIdArg args ≠ some 0
  template : tool.action = .createGuest → textArg args "type" = some "lxc" →
    textArg args "template" ≠ none

variable (haccepted : Accepted env tool args request)
include haccepted

theorem Accepted.row_vmid (hguest : tool.action ≠ .createGuest) :
    request.vmid = some (guestIdOf args.entries.reverse) := by
  rw [haccepted.records.vmid, vmidArg, haccepted.guestIdArg_eq hguest]
  rfl

theorem Accepted.checkMcpGuestId (hguest : tool.action ≠ .createGuest)
    (hpositive : guestIdArg args ≠ some 0) :
    checkMcpGuestId request (guestIdOf args.entries.reverse) = .ok () := by
  rw [haccepted.guestIdArg_eq hguest] at hpositive
  unfold Proxxx.checkMcpGuestId
  rw [if_neg (fun hzero => hpositive (congrArg some hzero)), haccepted.row_vmid hguest]
  simp

omit haccepted in
theorem checkMcpGuestId_zero (request : PendingRequest) :
    ∃ why, checkMcpGuestId request 0 = .error why :=
  ⟨_, rfl⟩

/-- A tool on a guest: the operation of the arguments, or a refusal. -/
theorem Accepted.decode_guest (hguest : tool.action ≠ .createGuest) :
    (FitsDecoder tool args → ∃ op, tool.action.operation args.entries = some op ∧
        ApprovedOp.decode env.libs request = .ok op) ∧
    (¬ FitsDecoder tool args → ∃ why, ApprovedOp.decode env.libs request = .error why) := by
  have haction := haccepted.records.action.trans haccepted.aligned.toolName
  obtain ⟨more, op, hop, hmore, hdecode⟩ :=
    decode_onGuest env.libs haccepted.aligned.gated hguest haction
  rw [hdecode]
  refine ⟨?_, ?_⟩
  · intro hfits
    refine ⟨op args.entries.reverse, ?_, ?_⟩
    · rw [← operation_reverse _ haccepted.keys]
      exact hop _
    · rw [decodeOnGuest, haccepted.decodeParams_declared hfits.declared]
      simp only [bind, Except.bind, haccepted.checkMcpGuestId hguest hfits.positive,
        hmore _ haccepted.namesFit]
      rfl
  · intro hmisfit
    by_cases hdeclared : Declared tool args
    · have hzero : guestIdOf args.entries.reverse = 0 := by
        by_contra hne
        refine hmisfit ⟨hdeclared, ?_, fun hcreate => absurd hcreate hguest⟩
        rw [haccepted.guestIdArg_eq hguest]
        exact fun heq => hne (Option.some.inj heq)
      obtain ⟨why, hwhy⟩ := checkMcpGuestId_zero request
      refine ⟨why, ?_⟩
      rw [decodeOnGuest, haccepted.decodeParams_declared hdeclared]
      simp only [bind, Except.bind, hzero, hwhy]
    · obtain ⟨why, hwhy⟩ := haccepted.decodeParams_undeclared hdeclared tool.action.toolName
      refine ⟨why, ?_⟩
      rw [decodeOnGuest, hwhy]
      rfl

omit haccepted in
theorem checkCreateGuest_eq_ok {params : McpCreateGuestParams}
    (hnode : Shape.name.check libs params.node = .ok ())
    (htype : params.guestType = "qemu" ∨ params.guestType = "lxc")
    (htemplate : params.guestType = "lxc" → params.template ≠ none)
    (hname : ∀ text, params.name = some text → Shape.name.check libs text = .ok ())
    (hstorage : ∀ text, params.storage = some text → Shape.name.check libs text = .ok ())
    (hvmid : request.vmid = params.vmid) :
    checkCreateGuest libs request params = .ok () := by
  have hvalid : ¬ (params.guestType ≠ "qemu" ∧ params.guestType ≠ "lxc") := by
    rcases htype with htype | htype <;> simp [htype]
  have hbuilt : ¬ (params.guestType = "lxc" ∧ params.template = none) :=
    fun hlxc => htemplate hlxc.1 hlxc.2
  unfold checkCreateGuest
  rw [checkName_eq_ok hnode, if_neg hvalid, if_neg hbuilt,
    checkOptionalName_eq_ok hname, checkOptionalName_eq_ok hstorage, hvmid]
  cases params.vmid with
  | none => rfl
  | some vmid => simp [bind, Except.bind, pure, Except.pure]

omit haccepted in
/-- A container is created from a template. -/
theorem checkCreateGuest_untemplated {params : McpCreateGuestParams}
    (hnode : Shape.name.check libs params.node = .ok ())
    (htype : params.guestType = "lxc") (htemplate : params.template = none) :
    checkCreateGuest libs request params = .error "create_guest lxc: missing 'template'" := by
  have hvalid : ¬ (params.guestType ≠ "qemu" ∧ params.guestType ≠ "lxc") := by simp [htype]
  unfold checkCreateGuest
  rw [checkName_eq_ok hnode, if_neg hvalid, if_pos ⟨htype, htemplate⟩]
  rfl

/-- Declared arguments of a creation name no guest, so the type is theirs and
the row has their id. -/
theorem Accepted.guestIdArg_create
    (hcreate : tool.action = .createGuest) (hdeclared : Declared tool args) :
    guestIdArg args = none := by
  have hundeclared := (haccepted.aligned.create hcreate).2
  have hlookup : args.entries.lookup "guest_id" = none := by
    rw [lookup_eq_none_iff]
    intro entry hentry
    obtain ⟨param, hparam, hname⟩ := hdeclared entry hentry
    have hne : "guest_id" ≠ entry.1 := fun heq =>
      hundeclared (mem_map.mpr ⟨param, hparam, hname.trans heq.symm⟩)
    exact bne_iff_ne.mpr hne
  rw [guestIdArg, natArg, Json.get?_eq_lookup, hlookup]
  rfl

/-- The type of a creation is one of the two, on both sides. -/
theorem Accepted.createType (hnone : guestIdArg args = none) :
    textArg args "type" = some (textOf args.entries.reverse "type") ∧
      (textOf args.entries.reverse "type" = "qemu" ∨
        textOf args.entries.reverse "type" = "lxc") := by
  obtain ⟨guestType, -, htype⟩ := haccepted.records.placed hnone
  have hread : textOf args.entries.reverse "type" = guestType.text := by
    rw [textArg_eq_string?] at htype
    rw [textOf, Values.string?_reverse haccepted.keys, htype]
    rfl
  rw [hread]
  refine ⟨htype, ?_⟩
  cases guestType with
  | qemu => exact Or.inl rfl
  | lxc => exact Or.inr rfl

theorem Accepted.decode_eq_create (hcreate : tool.action = .createGuest) :
    ApprovedOp.decode env.libs request = decodeCreateGuest env.libs request := by
  have haction := haccepted.records.action.trans haccepted.aligned.toolName
  unfold ApprovedOp.decode
  rw [haction, hcreate]
  rfl

/-- With declared arguments only the checks of a creation are left. -/
theorem Accepted.decode_create_declared
    (hcreate : tool.action = .createGuest) (hdeclared : Declared tool args) :
    ApprovedOp.decode env.libs request = (do
      checkCreateGuest env.libs request (mcpCreateGuestParams args.entries.reverse)
      return .mcpCreateGuest (mcpCreateGuestParams args.entries.reverse)) := by
  have hvalues := haccepted.decodeParams_declared hdeclared "create_guest"
  rw [hcreate, ToolAction.fields] at hvalues
  rw [haccepted.decode_eq_create hcreate, decodeCreateGuest, hvalues]
  rfl

theorem Accepted.createTemplate :
    (mcpCreateGuestParams args.entries.reverse).template = textArg args "template" := by
  rw [textArg_eq_string?, ← Values.string?_reverse haccepted.keys]
  rfl

theorem Accepted.checkCreateGuest
    (hcreate : tool.action = .createGuest) (hfits : FitsDecoder tool args) :
    checkCreateGuest env.libs request (mcpCreateGuestParams args.entries.reverse) = .ok () := by
  have hnone := haccepted.guestIdArg_create hcreate hfits.declared
  obtain ⟨htype, hkinds⟩ := haccepted.createType hnone
  have hnames := haccepted.namesFit
  rw [hcreate] at hnames
  refine checkCreateGuest_eq_ok (hnames.required "node" mem_cons_self) hkinds ?_
    (hnames.optional "name" (by simp [ToolAction.optionalNames]))
    (hnames.optional "storage" (by simp [ToolAction.optionalNames])) ?_
  · intro hlxc hnothing
    have htyped : textArg args "type" = some "lxc" := htype.trans (congrArg some hlxc)
    exact hfits.template hcreate htyped (haccepted.createTemplate.symm.trans hnothing)
  · rw [haccepted.records.vmid, vmidArg, hnone, Option.none_or,
      haccepted.natArg_eq_nat? (haccepted.aligned.create hcreate).1,
      ← Values.nat?_reverse haccepted.keys]
    rfl

/-- A creation: the operation of the arguments, or a refusal. -/
theorem Accepted.decode_create (hcreate : tool.action = .createGuest) :
    (FitsDecoder tool args → ∃ op, tool.action.operation args.entries = some op ∧
        ApprovedOp.decode env.libs request = .ok op) ∧
    (¬ FitsDecoder tool args → ∃ why, ApprovedOp.decode env.libs request = .error why) := by
  refine ⟨?_, ?_⟩
  · intro hfits
    refine ⟨.mcpCreateGuest (mcpCreateGuestParams args.entries.reverse), ?_, ?_⟩
    · rw [← operation_reverse _ haccepted.keys, hcreate]
      rfl
    · rw [haccepted.decode_create_declared hcreate hfits.declared,
        haccepted.checkCreateGuest hcreate hfits]
      rfl
  · intro hmisfit
    by_cases hdeclared : Declared tool args
    · have hnone := haccepted.guestIdArg_create hcreate hdeclared
      obtain ⟨htype, -⟩ := haccepted.createType hnone
      have hmissing : textArg args "type" = some "lxc" ∧ textArg args "template" = none := by
        by_contra hbuilt
        refine hmisfit ⟨hdeclared, by simp [hnone], ?_⟩
        exact fun _ hlxc hnothing => hbuilt ⟨hlxc, hnothing⟩
      have hnames := haccepted.namesFit
      rw [hcreate] at hnames
      rw [haccepted.decode_create_declared hcreate hdeclared,
        checkCreateGuest_untemplated (hnames.required "node" mem_cons_self)
          (Option.some.inj (htype.symm.trans hmissing.1))
          (haccepted.createTemplate.trans hmissing.2)]
      exact ⟨_, rfl⟩
    · obtain ⟨why, hwhy⟩ := haccepted.decodeParams_undeclared hdeclared "create_guest"
      rw [hcreate, ToolAction.fields] at hwhy
      rw [haccepted.decode_eq_create hcreate, decodeCreateGuest, hwhy]
      exact ⟨why, rfl⟩

end Decoding

section Stored

variable {env : McpEnv} {name : String} {args : Json} {tool : ToolDef}
variable {state final : McpState} {answer : ToolAnswer} {id : String}
variable {request : PendingRequest}

/-- The one row that was not there before is the row of the call. -/
theorem Stored.records_new {status : RequestStatus} {stored : String}
    (hstored : Stored env name args status stored state final)
    (hrow : final.table.row id = some request)
    (hnew : state.table.row id ≠ some request) :
    Records env name args request := by
  by_cases hid : id = stored
  · obtain ⟨found, hfound, -, hrecords⟩ := hstored.table.row
    rw [hid, hfound] at hrow
    cases hrow
    exact hrecords
  · obtain ⟨base, hswept, -, hothers⟩ := hstored.table.others
    rw [hothers id hid] at hrow
    refine absurd ?_ hnew
    rcases hswept with rfl | ⟨time, rfl⟩
    · exact hrow
    · exact PendingTable.row_of_openAtWithNow hrow

/-- The row of an accepted call of a destructive tool is decoded into the tool's
operation on its arguments exactly if every argument is declared, the guest id
is not zero and a container has its template.  Otherwise decoding refuses it. -/
theorem stored_call_decodes_iff (hround : env.libs.json.parse (env.toText args) = some args)
    (hkeys : (args.entries.map Prod.fst).Nodup)
    (hfind : findTool name = some tool) (hgated : tool.destructive = true)
    (hrun : (execute (handleToolCall env name args) state).1 = .ok answer)
    (haccepted : answer.isError = false)
    (hrow : (execute (handleToolCall env name args) state).2.table.row id = some request)
    (hnew : state.table.row id ≠ some request) :
    (FitsDecoder tool args → ∃ op, tool.action.operation args.entries = some op ∧
        ApprovedOp.decode env.libs request = .ok op) ∧
    (¬ FitsDecoder tool args → ∃ why, ApprovedOp.decode env.libs request = .error why) := by
  have hends : Ends (handleToolCall env name args) state _ _ :=
    handleToolCall_ends hfind hgated state
  unfold Ends at hends
  rcases hexecute : execute (handleToolCall env name args) state with
    ⟨result, final⟩
  rw [hexecute] at hends hrun hrow
  dsimp only at hrun hrow
  subst hrun
  dsimp only at hends
  rw [if_neg (by simp [haccepted])] at hends
  obtain ⟨hchecked, stored, hstored⟩ := hends
  have hname : tool.name = name := by simpa using List.find?_some hfind
  have hrecords := hstored.records_new hrow hnew
  rw [← hname] at hrecords
  have hcall : Accepted env tool args request :=
    { aligned := aligned_of_tool tool (List.mem_of_find?_eq_some hfind) hgated, checked := hchecked
      records := hrecords, roundTrip := hround, keys := hkeys }
  by_cases hcreate : tool.action = .createGuest
  · exact hcall.decode_create hcreate
  · exact hcall.decode_guest hcreate

end Stored

namespace ToolCallWitness

def suspendRow : PendingRequest :=
  { id := "r1", action := "suspend_guest", vmid := some 100
    node := some "pve1", guestType := some .qemu, paramsJson := "", require := 1
    issuedAt := 0, expiresAt := 120, status := .pending, approvers := []
    upid := none, error := none }

/-- A call with nothing but its guest is decoded into its operation. -/
theorem suspend_call_decodes :
    ∃ op, ToolAction.suspendGuest.operation suspendArgs.entries = some op ∧
      ApprovedOp.decode (env suspendArgs).libs suspendRow = .ok op := by
  have hrow : (execute (handleToolCall (env suspendArgs) "suspend_guest"
      suspendArgs) start).2.table.row "r1" = some suspendRow := by decide +kernel
  have hnew : start.table.row "r1" ≠ some suspendRow := by simp [start, PendingTable.empty]
  refine (stored_call_decodes_iff rfl (by decide) rfl rfl rfl rfl hrow hnew).1
    ⟨?_, by decide, by rintro ⟨⟩⟩
  simp [Declared, suspendArgs, Json.entries]

/-- A suspension with an argument that its tool does not declare. -/
def remarkArgs : Json :=
  .obj [("guest_id", .int 100), ("reason", .str "maintenance")]

def containerArgs : Json :=
  .obj [("node", .str "pve1"), ("type", .str "lxc")]

/-- The row a call leaves, and whether it can be decoded. -/
def decodable (name : String) (args : Json) : Option Bool :=
  ((execute (handleToolCall (env args) name args) start).2.table.row "r1").map
    fun request => (ApprovedOp.decode (env args).libs request).toOption.isSome

/-- Both calls are accepted and stored, and neither row can be decoded: one has
an undeclared argument, the other asks for a container without a template. -/
theorem accepted_calls_undecodable :
    ((execute (handleToolCall (env remarkArgs) "suspend_guest" remarkArgs)
        start).1.toOption.map ToolAnswer.isError = some false ∧
      decodable "suspend_guest" remarkArgs = some false) ∧
    ((execute (handleToolCall (env containerArgs) "create_guest" containerArgs)
        start).1.toOption.map ToolAnswer.isError = some false ∧
      decodable "create_guest" containerArgs = some false) := by decide +kernel

end ToolCallWitness

end Proxxx
