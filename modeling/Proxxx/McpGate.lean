/-
What handling a tool call can do: which mutations it sends, and what it leaves
in the store of approval requests.
-/
import Proxxx.McpDispatch

namespace Proxxx

open FaultProgram SerdeJson

section Mutations

/-- The methods that change the cluster for a tool. -/
def ToolAction.sends : ToolAction → Mutation → Bool
  | .startGuest, .startGuest _ _ _ => true
  | .resumeGuest, .resumeGuest _ _ _ => true
  | .stopGuest, .stopGuest _ _ _ _ => true
  | .stopGuest, .shutdownGuest _ _ _ _ => true
  | .restartGuest, .restartGuest _ _ _ => true
  | .suspendGuest, .suspendGuest _ _ _ => true
  | .deleteGuest, .deleteGuest _ _ _ => true
  | .createSnapshot, .createSnapshot _ _ _ _ => true
  | .deleteSnapshot, .deleteSnapshot _ _ _ _ => true
  | .cloneGuest, .cloneGuest _ _ _ _ _ _ => true
  | .migrateGuest, .migrateGuest _ _ _ _ _ => true
  | .createGuest, .createLxc _ _ => true
  | .createGuest, .createQemu _ _ => true
  | .cloneWithCloudinit, .cloneGuest _ _ _ _ _ _ => true
  | .cloneWithCloudinit, .updateGuestConfig _ _ _ _ => true
  | .cloneWithCloudinit, .regenerateCloudinit _ _ => true
  | _, _ => false

/-- A method of a tool that is marked destructive. -/
def Mutation.isDestructive (mutation : Mutation) : Bool :=
  tools.any fun tool => tool.destructive && tool.action.sends mutation

/-- The actions of the tools that are not marked. -/
def ToolAction.ungated : ToolAction → Bool
  | .listGuests | .getGuestStatus | .startGuest | .resumeGuest | .listSnapshots
  | .listNodes | .getNodeResources | .getNodeStatus | .getClusterStatus
  | .listTasks | .getTaskLog | .getStoragePools | .listBackupJobs
  | .getReplicationStatus | .listClusterEvents => true
  | _ => false

theorem ungated_of_tool :
    ∀ tool ∈ tools, tool.destructive = false → tool.action.ungated = true := by decide

/-- A tool that is not marked shares no method with one that is. -/
theorem not_isDestructive_of_ungated {action : ToolAction}
    {mutation : Mutation} (hungated : action.ungated = true)
    (hsends : action.sends mutation = true) :
    mutation.isDestructive = false := by
  cases mutation with
  | startGuest | resumeGuest => rfl
  | _ =>
    cases action <;> first
        | exact Bool.noConfusion hungated
        | exact Bool.noConfusion hsends

end Mutations

section Executors

variable (gateway : Gateway) {allowed : Mutation → Bool}

theorem stays_execStopGuest (node : String) (guestType : GuestType) (params : McpStopGuestParams) :
    Stays (Sends ToolAction.stopGuest.sends) (execStopGuest gateway node guestType params) := by
  unfold execStopGuest
  split <;> exact stays_send gateway rfl

theorem stays_cloneTarget (newid : Nat) : Stays (Sends allowed) (cloneTarget gateway newid) := by
  unfold cloneTarget
  split
  · exact Stays.call fun _ history => sends_lookup (by simp) history
  · exact Stays.pure newid

theorem stays_createTarget (vmid : Option Nat) :
    Stays (Sends allowed) (createTarget gateway vmid) := by
  unfold createTarget
  split
  · exact Stays.pure _
  · exact Stays.call fun _ history => sends_lookup (by simp) history

theorem stays_sendCreate (params : McpCreateGuestParams) (vmid : Nat) :
    Stays (Sends ToolAction.createGuest.sends) (sendCreate gateway params vmid) := by
  unfold sendCreate
  split
  · split
    · exact Stays.throw _
    · exact stays_send gateway rfl
  · exact stays_send gateway rfl

theorem stays_execCreateGuest (params : McpCreateGuestParams) :
    Stays (Sends ToolAction.createGuest.sends) (execCreateGuest gateway params) :=
  (Stays.ensure _ _).bind fun _ =>
    (stays_createTarget gateway _).bind fun vmid =>
      (stays_sendCreate gateway params vmid).bind fun _ => Stays.pure _

theorem stays_pollTask (node upid : String) (polls : Nat) :
    Stays (Sends allowed) (pollTask gateway node upid polls) := by
  have hlook : Stays (Sends allowed) (getTaskStatus gateway node upid) :=
    Stays.call fun _ history => sends_lookup (by simp) history
  induction polls with
  | zero =>
    refine hlook.bind fun task => ?_
    split
    · exact Stays.pure task
    · exact Stays.throw _
  | succ polls ih =>
    refine hlook.bind fun task => ?_
    split
    · exact Stays.pure task
    · exact ih

theorem stays_applyCloudinitAndRegen (node : String) (vmid : Nat)
    (guestType : GuestType) (profile : CloudInitProfile) :
    Stays (Sends ToolAction.cloneWithCloudinit.sends)
      (applyCloudinitAndRegen gateway node vmid guestType profile) := by
  refine (Stays.ensure _ _).bind fun _ => ?_
  refine (Stays.liftResult _).bind fun params => ?_
  split
  · exact Stays.pure none
  · exact (stays_send gateway rfl).bind fun _ => (stays_send gateway rfl).bind fun _ => Stays.pure _

theorem stays_execCloneWithCloudinit (libs : Libraries) (node : String)
    (guestType : GuestType) (params : McpCloneWithCloudinitParams) :
    Stays (Sends ToolAction.cloneWithCloudinit.sends)
      (execCloneWithCloudinit gateway libs node guestType params) :=
  (Stays.ensure _ _).bind fun _ =>
    (stays_cloneTarget gateway _).bind fun newid =>
      (stays_send gateway rfl).bind fun upid =>
        (stays_pollTask gateway node upid _).bind fun _ =>
          (Stays.ensure _ _).bind fun _ =>
            (stays_applyCloudinitAndRegen gateway node newid guestType _).bind fun _ => Stays.pure _

end Executors

section Run

variable (env : McpEnv) (args : Json) {allowed : Mutation → Bool}

theorem stays_requireGuest (vmid : Nat) : Stays (Moves allowed) (requireGuest env vmid) := by
  refine ((stays_onCluster (stays_findGuest env.gateway vmid)).bind fun _ => Stays.pure _).bind ?_
  intro found
  cases found with
  | some found => exact Stays.pure found
  | none => exact Stays.throw _

theorem stays_fromValue (fields : List Field) :
    Stays (Moves allowed) (fromValue env args fields) := by
  unfold fromValue
  split
  · exact Stays.pure _
  · exact Stays.throw _

/-- A tool on a guest named by the arguments. -/
theorem stays_onGuest {vmid : Nat} {rest : String × GuestType → Mcp String}
    (hrest : ∀ found, Stays (Moves allowed) (rest found)) :
    Stays (Moves allowed) (requireGuest env vmid >>= rest) :=
  (stays_requireGuest env vmid).bind hrest

/-- A tool whose one effect is a program on the cluster. -/
theorem stays_effect {α : Type} {program : GatewayProgram α}
    {text : α → String} (hprogram : Stays (Sends allowed) program) :
    Stays (Moves allowed) (onCluster program >>= fun done => return text done) :=
  (stays_onCluster hprogram).bind fun _ => Stays.pure _

/-- A tool sends its own methods at most, and stores nothing. -/
theorem stays_runTool (action : ToolAction) :
    Stays (Moves action.sends) (runTool env args action) := by
  have hread : ∀ {α : Type} {program : Mcp α} {text : α → String},
      Stays (Moves action.sends) program →
      Stays (Moves action.sends) (program >>= fun done => return text done) :=
    fun hprogram => hprogram.bind fun _ => Stays.pure _
  cases action with
  | listNodes | getStoragePools | getTaskLog | getClusterStatus | listTasks
  | getNodeStatus | listBackupJobs | getReplicationStatus => exact hread (stays_askCluster env _)
  | listGuests =>
    refine hread ?_
    unfold askGuests
    split <;> exact stays_askCluster env _
  | getGuestStatus | listSnapshots =>
    exact stays_onGuest env fun _ => hread (stays_askCluster env _)
  | getNodeResources =>
    refine (stays_askCluster env _).bind fun nodes => ?_
    split
    · exact Stays.pure _
    · exact Stays.throw _
  | listClusterEvents => exact (stays_nowSecs env).bind fun _ => hread (stays_askCluster env _)
  | startGuest | resumeGuest =>
    exact stays_onGuest env fun _ => stays_effect (stays_send env.gateway rfl)
  | stopGuest =>
    exact (stays_fromValue env args _).bind fun _ => stays_onGuest env
      fun _ => stays_effect (stays_execStopGuest env.gateway _ _ _)
  | restartGuest | deleteGuest | createSnapshot | deleteSnapshot
  | suspendGuest | migrateGuest =>
    exact (stays_fromValue env args _).bind fun _ => stays_onGuest env
      fun _ => stays_effect (stays_send env.gateway rfl)
  | cloneGuest =>
    refine (stays_fromValue env args _).bind fun _ => stays_onGuest env fun _ => stays_effect ?_
    exact (stays_cloneTarget env.gateway _).bind fun _ =>
      (stays_send env.gateway rfl).bind fun _ => Stays.pure _
  | createGuest =>
    exact (stays_fromValue env args _).bind fun _ =>
      stays_effect (stays_execCreateGuest env.gateway _)
  | cloneWithCloudinit =>
    exact (stays_fromValue env args _).bind fun _ => stays_onGuest env
      fun _ => stays_effect (stays_execCloneWithCloudinit env.gateway env.libs _ _ _)

end Run

section Store

/-- The table as it was, or as opening the store sweeps it. -/
def Swept (before after : PendingTable) : Prop :=
  after = before ∨ ∃ time : Nat, after = before.openAtWithNow time

/-- The row asks for the approval of this call. -/
structure Records (env : McpEnv) (name : String) (args : Json)
    (request : PendingRequest) : Prop where
  action : request.action = name
  vmid : request.vmid = vmidArg args
  params : request.paramsJson = env.toText args
  placed : guestIdArg args = none →
    ∃ guestType, request.guestType = some guestType ∧ textArg args "type" = some guestType.text

/-- Exactly one row was added, under a free id; no other row changed. -/
structure AddsRow (env : McpEnv) (name : String) (args : Json)
    (status : RequestStatus) (id : String) (before after : PendingTable) : Prop where
  row : ∃ request, after.row id = some request ∧ request.status = status ∧
    Records env name args request
  others : ∃ base, Swept before base ∧ base.row id = none ∧
    ∀ other, other ≠ id → after.row other = base.row other

def noMutation : Mutation → Bool :=
  fun _ => false

/-- Nothing was sent to the cluster and no row was added. -/
structure Kept (start final : McpState) : Prop where
  sends : Sends noMutation start.calls final.calls
  table : Swept start.table final.table

/-- Nothing was sent to the cluster and one row was added. -/
structure Stored (env : McpEnv) (name : String) (args : Json)
    (status : RequestStatus) (id : String) (start final : McpState) : Prop where
  sends : Sends noMutation start.calls final.calls
  table : AddsRow env name args status id start.table final.table

end Store

section Gate

variable {env : McpEnv} {name : String} {args : Json}
variable {start state final : McpState}

theorem Moves.kept (hmoves : Moves noMutation start final) : Kept start final :=
  ⟨hmoves.sends, Or.inl hmoves.table⟩

/-- A statement on the store takes effect or leaves everything as it is. -/
theorem storeStatement_ends {fault : McpState → Fault}
    {effect : PendingTable → PendingTable} {Done : Unit → McpState → Prop}
    {Halted : Halt AppError → McpState → Prop}
    (hdone : Done () { state with table := effect state.table })
    (hhalted : ∀ halt, Halted halt state) :
    Ends (storeStatement env fault effect) state Done Halted := by
  exact Ends.seq (Ends.get (Ends.attempt_or (fun _ => hdone) fun _ => hhalted))

theorem openDefault_ends (hmoves : Moves noMutation start state) :
    Ends (openDefault env) state (fun _ => Kept start) (fun _ => Kept start) := by
  refine Ends.seq (((stays_nowSecs env).after hmoves).imp ?_ fun _ _ hmoved => hmoved.kept)
  intro time middle hmiddle
  refine storeStatement_ends ⟨hmiddle.sends, Or.inr ⟨time, ?_⟩⟩ fun _ => hmiddle.kept
  rw [hmiddle.table]

theorem insertPending_ends {new : NewPendingRequest} (hkept : Kept start state)
    (hrecords : ∀ request : PendingRequest, request.action = new.action →
      request.vmid = new.vmid → request.guestType = new.guestType →
      request.paramsJson = new.paramsJson → Records env name args request) :
    Ends (insertPending env new) state (fun id => Stored env name args .pending id start)
      (fun _ => Kept start) := by
  unfold insertPending nowSecs consult
  refine Ends.seq (Ends.call_or (fun time _ => ?_) fun _ _ => hkept)
  refine Ends.seq (Ends.call_or (fun id _ => ?_) fun _ _ => hkept)
  refine Ends.seq (Ends.get ?_)
  unfold PendingTable.insertAt
  cases hrow : state.table.row id with
  | some taken => exact Ends.throw hkept
  | none =>
    refine Ends.seq (storeStatement_ends ⟨hkept.sends, ?_, ?_⟩ fun _ => hkept)
    · refine ⟨_, if_pos rfl, rfl, ?_⟩
      exact hrecords _ rfl rfl rfl rfl
    · exact ⟨state.table, hkept.table, hrow, fun other hother => if_neg hother⟩

theorem newRequest_records {policy : Policy} {node : String} {guestType : GuestType}
    (hplaced : guestIdArg args = none → textArg args "type" = some guestType.text)
    {request : PendingRequest}
    (haction : request.action = name) (hvmid : request.vmid = vmidArg args)
    (htype : request.guestType = (newRequest env name args policy node guestType).guestType)
    (hparams : request.paramsJson = env.toText args) :
    Records env name args request :=
  { action := haction, vmid := hvmid, params := hparams
    placed := fun hnone => ⟨guestType, htype, hplaced hnone⟩ }

theorem storeRequest_ends {policy : Policy} {node : String}
    {guestType : GuestType} (hmoves : Moves noMutation start state)
    (hplaced : guestIdArg args = none → textArg args "type" = some guestType.text) :
    Ends (storeRequest env (newRequest env name args policy node guestType))
      state (fun id => Stored env name args .pending id start)
      (fun _ => Kept start) := by
  unfold storeRequest
  split
  · exact insertPending_ends hmoves.kept fun request haction hvmid htype =>
      newRequest_records hplaced haction hvmid htype
  · refine Ends.bind _ (openDefault_ends hmoves) ?_
    intro _ middle hmiddle
    exact insertPending_ends hmiddle fun request haction hvmid htype =>
      newRequest_records hplaced haction hvmid htype

/-- Closing the row keeps it the request for this call. -/
theorem Stored.markFailed {id error : String}
    (hstored : Stored env name args .pending id start state) :
    Stored env name args .failed id start
      { state with table := state.table.markFailed id error } := by
  obtain ⟨request, hrow, -, hrecords⟩ := hstored.table.row
  obtain ⟨base, hswept, hfree, hothers⟩ := hstored.table.others
  refine ⟨hstored.sends, ⟨{ request with status := .failed, error := some error }, ?_, rfl, ?_⟩,
    base, hswept, hfree, ?_⟩
  · rw [PendingTable.markFailed, PendingTable.update_row_same, hrow]
    rfl
  · exact ⟨hrecords.action, hrecords.vmid, hrecords.params, hrecords.placed⟩
  · intro other hother
    rw [PendingTable.markFailed, PendingTable.update_row_other _ hother]
    exact hothers other hother

theorem announce_ends {policy : Policy} {note id : String}
    (hstored : Stored env name args .pending id start state) :
    Ends (announce env name args policy note id) state (fun outcome final =>
        match outcome with
        | .ok message => message.isSome = true ∧ Stored env name args .pending id start final
        | .error answer => answer.isError = true ∧ Stored env name args .failed id start final)
      (fun _ => Stored env name args .pending id start) := by
  have hsent : ∀ message, Ends (toResult (requestApproval env message)) state
      (fun _ => Stored env name args .pending id start)
      (fun _ => Stored env name args .pending id start) := by
    intro message
    refine Ends.onError_alike (Ends.seq (Ends.call_or (fun _ _ => ?_) fun _ _ => ?_))
      fun _ _ hfinal => Ends.pure hfinal
    · exact Ends.pure ⟨hstored.sends, hstored.table⟩
    · exact ⟨hstored.sends, hstored.table⟩
  refine Ends.bind _ (hsent _) ?_
  intro answer middle hmiddle
  cases answer with
  | ok done => exact Ends.pure ⟨rfl, hmiddle⟩
  | error e =>
    exact Ends.seq (storeStatement_ends (Ends.pure ⟨rfl, hmiddle.markFailed⟩) fun _ => hmiddle)

theorem stays_fetchTagged : Stays (Moves noMutation) (fetchTagged env args) := by
  unfold fetchTagged
  split
  · exact stays_onCluster (stays_findGuest env.gateway _)
  · exact Stays.pure none

theorem stays_matchPolicy : Stays (Moves noMutation) (matchPolicy env name args) := by
  unfold matchPolicy
  split
  · exact Stays.pure _
  · exact stays_fetchTagged.bind fun _ => Stays.pure _

theorem stays_setUpGateway : Stays (Moves noMutation) (setUpGateway env) := by
  unfold setUpGateway
  split
  · exact Stays.pure _
  split
  · exact Stays.pure _
  · refine (stays_consult _).toResult.bind ?_
    intro answer
    cases answer with
    | ok | error => exact Stays.pure _

theorem stays_resolveGuest (vmid : Nat) (fetched : Option Guest) :
    Stays (Moves noMutation) (resolveGuest env vmid fetched) := by
  cases fetched with
  | some guest => exact Stays.pure guest
  | none =>
    refine (stays_onCluster (stays_findGuest env.gateway vmid)).bind ?_
    intro found
    cases found with
    | some guest => exact Stays.pure guest
    | none => exact Stays.throw _

/-- What is known once the call has been placed: a refusal is marked as one, and
without a guest the type is the one of the arguments. -/
def PlacedWell (args : Json) : Placement → Prop
  | .error answer => answer.isError = true
  | .ok (_, guestType, _) => guestIdArg args = none → textArg args "type" = some guestType.text

theorem assessGuest_ends {vmid : Nat} (hguest : guestIdArg args = some vmid)
    (guest : Guest) (hmoves : Moves noMutation start state) :
    Ends (assessGuest env name vmid guest) state
      (fun placement final => PlacedWell args placement ∧ Moves noMutation start final)
      (fun _ => Moves noMutation start) := by
  have hplaced : ∀ found, PlacedWell args (.ok found) := fun _ hnone => by
    rw [hguest] at hnone
    cases hnone
  unfold assessGuest
  split
  · exact Ends.pure ⟨hplaced _, hmoves⟩
  refine Ends.bind _ ((stays_mcpPreflight env _ guest).after hmoves) ?_
  intro risks middle hmiddle
  dsimp only
  split
  · exact Ends.pure ⟨rfl, hmiddle⟩
  · exact Ends.pure ⟨hplaced _, hmiddle⟩

theorem placeByArgs_eq_ok {found : String × GuestType × String}
    (hfound : placeByArgs env name args = .ok found) :
    textArg args "type" = some found.2.1.text := by
  revert hfound
  fun_cases placeByArgs env name args <;> intro hfound <;> cases hfound
  next htype => exact htype
  next htype => exact htype

theorem place_ends (fetched : Option Guest) (hmoves : Moves noMutation start state) :
    Ends (place env name args fetched) state
      (fun placement final => PlacedWell args placement ∧ Moves noMutation start final)
      (fun _ => Moves noMutation start) := by
  unfold place
  split
  next vmid hguest =>
    refine Ends.bind _ ((stays_resolveGuest vmid fetched).after hmoves) ?_
    intro guest middle hmiddle
    exact Ends.seq (Ends.ensure (fun _ => assessGuest_ends hguest guest hmiddle) fun _ => hmiddle)
  next =>
    refine Ends.seq (Ends.liftResult (fun found hfound => ?_) fun _ _ => hmoves)
    exact Ends.pure ⟨fun _ => placeByArgs_eq_ok hfound, hmoves⟩

/-- What the gate leaves: a refusal without a row or with a closed one, or one
pending row.  It never lets the call through. -/
def GateLeaves (env : McpEnv) (name : String) (args : Json) (start : McpState) :
    Except ToolAnswer (Option String) → McpState → Prop
  | .error answer, final => answer.isError = true ∧
      (Kept start final ∨ ∃ id, Stored env name args .failed id start final)
  | .ok message, final => message.isSome = true ∧ ∃ id, Stored env name args .pending id start final

theorem requestHitl_ends (policy : Policy) (fetched : Option Guest)
    (hmoves : Moves noMutation start state) :
    Ends (requestHitl env name args policy fetched) state (GateLeaves env name args start)
      (fun _ final => Kept start final ∨ ∃ id, Stored env name args .pending id start final) := by
  refine Ends.seq ((stays_setUpGateway.after hmoves).imp ?_ fun _ _ hmoved => Or.inl hmoved.kept)
  intro gateway middle hmiddle
  cases gateway with
  | error why => exact Ends.pure ⟨rfl, Or.inl hmiddle.kept⟩
  | ok done =>
    refine Ends.seq ((place_ends fetched hmiddle).imp ?_ fun _ _ hfinal => Or.inl hfinal.kept)
    rintro placement placed ⟨hplaced, hmoved⟩
    cases placement with
    | error answer => exact Ends.pure ⟨hplaced, Or.inl hmoved.kept⟩
    | ok found =>
      refine Ends.seq ((storeRequest_ends hmoved hplaced).imp ?_ fun _ _ hkept => Or.inl hkept)
      intro id stored hstored
      refine (announce_ends hstored).imp ?_ fun _ _ hfinal => Or.inr ⟨id, hfinal⟩
      intro outcome final houtcome
      cases outcome with
      | ok message => exact ⟨houtcome.1, id, houtcome.2⟩
      | error answer => exact ⟨houtcome.1, Or.inr ⟨id, houtcome.2⟩⟩

theorem gateDestructive_ends (state : McpState) :
    Ends (gateDestructive env name args) state (GateLeaves env name args state)
      (fun _ final => Kept state final ∨ ∃ id, Stored env name args .pending id state final) := by
  refine Ends.seq ((stays_matchPolicy state).imp ?_ fun _ _ hmoves => Or.inl hmoves.kept)
  rintro ⟨fetched, matched⟩ middle hmiddle
  cases matched with
  | none => exact Ends.pure ⟨rfl, Or.inl hmiddle.kept⟩
  | some policy => exact requestHitl_ends policy fetched hmiddle

end Gate

section Handler

variable {env : McpEnv} {name : String} {args : Json} {tool : ToolDef}

/-- A tool that is not marked runs at once, and stores nothing. -/
theorem stays_handleToolCall (hfind : findTool name = some tool)
    (hungated : tool.destructive = false) :
    Stays (Moves tool.action.sends) (handleToolCall env name args) := by
  unfold handleToolCall
  rw [hfind]
  refine (Stays.liftResult _).bind fun _ => ?_
  have hgate : gate env tool name args = pure (.ok none) := by simp [gate, hungated]
  rw [hgate, pure_bind]
  exact (stays_runTool env args tool.action).bind fun _ => Stays.pure _

/-- A tool that is marked is refused or stored, and nothing else happens. -/
theorem handleToolCall_ends (hfind : findTool name = some tool)
    (hgated : tool.destructive = true) (state : McpState) :
    Ends (handleToolCall env name args) state (fun answer final =>
        if answer.isError then Kept state final ∨ ∃ id, Stored env name args .failed id state final
        else checkParams env.libs env.toText args tool.params = .ok () ∧
            ∃ id, Stored env name args .pending id state final)
      (fun _ final => Kept state final ∨ ∃ id, Stored env name args .pending id state final) := by
  have hrefl : Moves noMutation state state := Std.Refl.refl state
  unfold handleToolCall
  rw [hfind]
  refine Ends.seq (Ends.liftMapError (fun _ hchecked => ?_) fun _ _ => Or.inl hrefl.kept)
  have hgate : gate env tool name args = gateDestructive env name args := by simp [gate, hgated]
  rw [hgate]
  refine Ends.bind _ (gateDestructive_ends state) ?_
  intro outcome middle houtcome
  cases outcome with
  | error answer =>
    refine Ends.pure ?_
    rw [if_pos houtcome.1]
    exact houtcome.2
  | ok message =>
    obtain ⟨text, rfl⟩ := Option.isSome_iff_exists.mp houtcome.1
    exact Ends.pure ⟨hchecked, houtcome.2⟩

/-- What a call of a destructive tool leaves, by its response.  An answer that
is marked as an error leaves no pending row; an error of the protocol may, if
the call was cut off or the store failed after the row was written. -/
inductive GatedOutcome (env : McpEnv) (name : String) (args : Json)
    (start : McpState) : RpcResponse → McpState → Prop where
  | refused {text : String} {final : McpState}
      (hstore : Kept start final ∨ ∃ id, Stored env name args .failed id start final) :
      GatedOutcome env name args start (.result ⟨text, true⟩) final
  | failed {code : Int} {message : String} {final : McpState}
      (hstore : Kept start final ∨ ∃ id, Stored env name args .pending id start final) :
      GatedOutcome env name args start (.error code message) final
  | pending {text id : String} {final : McpState}
      (hstored : Stored env name args .pending id start final) :
      GatedOutcome env name args start (.result ⟨text, false⟩) final

theorem toolsCall_gated {params : Option Json} (hcalled : calledTool params = .ok (name, args))
    (hfind : findTool name = some tool) (hgated : tool.destructive = true)
    (state : McpState) :
    GatedOutcome env name args state (toolsCall env params state).1
      (toolsCall env params state).2 := by
  have hends : Ends (handleToolCall env name args) state _ _ :=
    handleToolCall_ends hfind hgated state
  unfold Ends at hends
  unfold toolsCall
  rw [hcalled]
  dsimp only
  rcases hrun : execute (handleToolCall env name args) state with
    ⟨(e | _) | ⟨text, _ | _⟩, final⟩
  all_goals rw [hrun] at hends
  · exact .failed hends
  · exact .failed hends
  · obtain ⟨-, id, hstored⟩ := hends
    exact .pending hstored
  · exact .refused hends

theorem GatedOutcome.sends {start final : McpState} {response : RpcResponse}
    (houtcome : GatedOutcome env name args start response final) :
    Sends noMutation start.calls final.calls := by
  cases houtcome with
  | refused hstore | failed hstore =>
    rcases hstore with hkept | ⟨id, hstored⟩
    · exact hkept.sends
    · exact hstored.sends
  | pending hstored => exact hstored.sends

theorem toolsCall_final {params : Option Json}
    (hcalled : calledTool params = .ok (name, args)) (state : McpState) :
    (toolsCall env params state).2 = (execute (handleToolCall env name args) state).2 := by
  unfold toolsCall
  rw [hcalled]
  dsimp only
  rcases execute (handleToolCall env name args) state with
    ⟨(e | _) | answer, final⟩
  · rfl
  · rfl
  · rfl

/-- Whatever is called, no method of a destructive tool is used. -/
theorem toolsCall_sends (params : Option Json) (state : McpState) :
    Sends (fun mutation => !mutation.isDestructive) state.calls
      (toolsCall env params state).2.calls := by
  cases hcalled : calledTool params with
  | error message =>
    have hfinal : (toolsCall env params state).2 = state := by simp [toolsCall, hcalled]
    rw [hfinal]
    exact Std.Refl.refl state.calls
  | ok called =>
    obtain ⟨name, args⟩ := called
    cases hfind : findTool name with
    | none =>
      have hnone : Stays (Moves noMutation) (handleToolCall env name args) := by
        unfold handleToolCall
        rw [hfind]
        exact Stays.throw _
      rw [toolsCall_final hcalled]
      exact (Ends.final (Moves noMutation state) (hnone state)).sends.mono (by simp [noMutation])
    | some tool =>
      cases hmark : tool.destructive with
      | true => exact (toolsCall_gated hcalled hfind hmark state).sends.mono (by simp [noMutation])
      | false =>
        have hstays : Stays (Moves tool.action.sends) (handleToolCall env name args) :=
          stays_handleToolCall hfind hmark
        have hmoves := Ends.final (Moves _ state) (hstays state)
        rw [toolsCall_final hcalled]
        refine hmoves.sends.mono ?_
        intro mutation hsends
        have hungated := ungated_of_tool tool (List.mem_of_find?_eq_some hfind) hmark
        simp [not_isDestructive_of_ungated hungated hsends]

/-- A `tools/call` request uses no method of a tool marked destructive.  If it
calls such a tool, then it is refused, or exactly one pending row for that tool
and its arguments is stored. -/
theorem tools_call_refuses_or_stores (env : McpEnv) (params : Option Json) (state : McpState) :
    (∃ added, (toolsCall env params state).2.calls = state.calls ++ added ∧
      ∀ mutation reply, .sent mutation reply ∈ added → ∀ tool ∈ tools, tool.destructive = true →
          tool.action.sends mutation = false) ∧
    ∀ name args tool, calledTool params = .ok (name, args) →
      findTool name = some tool → tool.destructive = true →
      GatedOutcome env name args state (toolsCall env params state).1
        (toolsCall env params state).2 := by
  refine ⟨?_, fun name args tool hcalled hfind hmark => toolsCall_gated hcalled hfind hmark state⟩
  obtain ⟨added, hcalls, hadded⟩ := toolsCall_sends params state
  refine ⟨added, hcalls, ?_⟩
  intro mutation reply hmem tool htool hmark
  have hharmless : mutation.isDestructive = false := by simpa using hadded mutation reply hmem
  have htools := List.any_eq_false.mp hharmless tool htool
  simpa [hmark] using htools

end Handler

namespace ToolCallWitness

def guest : Guest :=
  { vmid := 100, status := .stopped, guestType := .qemu, node := "pve1"
    uptime := 0, tags := "", lock := "", hastate := "", netin := 0, netout := 0 }

/-- A cluster with one guest, which answers nothing but lookups. -/
def gateway : Gateway :=
  { findGuest := fun _ vmid => .ok (if vmid = 100 then some guest else none)
    nextFreeVmid := fun _ => .stops
    getNextVmid := fun _ => .stops
    getTaskStatus := fun _ _ _ => .stops
    mutate := fun _ _ => .stops
    polls := 0 }

/-- One policy for everything; the given arguments are read back. -/
def env (args : Json) : McpEnv :=
  { libs :=
      { json := { parse := fun _ => some args, message := fun _ _ => "" }
        debugChar := fun _ => ""
        debugText := fun _ => "" }
    toText := fun _ => ""
    toTextPretty := fun _ => ""
    fromValueMessage := fun _ _ => ""
    cloudinitText := fun _ => ""
    gateway
    answer := fun _ _ => .stops
    clock := fun _ => 0
    policies := [⟨"*", "*", "telegram", 1⟩]
    suppliedGateway := true
    telegram := none
    pbs := none
    requestApproval := fun _ _ => .ok ()
    suppliedStore := true
    generateRequestId := fun _ => .ok "r1"
    openStore := fun _ => .none
    insertRow := fun _ => .none
    markRow := fun _ => .none
    storeError := fun _ => .msg "" }

def start : McpState :=
  { calls := [], reads := [], messages := [], table := .empty }

def suspendArgs : Json :=
  .obj [("guest_id", .int 100)]

def suspendCall : Json :=
  .obj [("name", .str "suspend_guest"), ("arguments", suspendArgs)]

/-- The governed call of a destructive tool ends in the pending case. -/
theorem suspend_call_stored : (toolsCall (env suspendArgs) (some suspendCall) start).1 =
      .result ⟨"Action intercepted by HITL policy. Requires 1 approval(s) " ++
        "via telegram. Transaction: r1", false⟩ ∧
    GatedOutcome (env suspendArgs) "suspend_guest" suspendArgs start
      (toolsCall (env suspendArgs) (some suspendCall) start).1
      (toolsCall (env suspendArgs) (some suspendCall) start).2 :=
  ⟨by decide +kernel, (tools_call_refuses_or_stores (env suspendArgs) (some suspendCall)
      start).2 "suspend_guest" suspendArgs _ rfl rfl rfl⟩

end ToolCallWitness

end Proxxx
