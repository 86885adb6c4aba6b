/-
The daemon's handling of one callback, and what it may send to the cluster when
the callback completes the quorum of a request.
-/
import Proxxx.HitlExecutor
import Proxxx.StepSystem

namespace Proxxx

open FaultProgram StepSystem List

section Mutations

/-- The existing guest a mutation acts on. -/
def Mutation.guest : Mutation → Option (String × GuestType × Nat)
  | .startGuest node vmid guestType | .stopGuest node vmid guestType _
  | .shutdownGuest node vmid guestType _ | .restartGuest node vmid guestType
  | .suspendGuest node vmid guestType | .resumeGuest node vmid guestType
  | .deleteGuest node vmid guestType | .createSnapshot node vmid guestType _
  | .deleteSnapshot node vmid guestType _
  | .cloneGuest node vmid guestType _ _ _
  | .migrateGuest node vmid guestType _ _
  | .updateGuestConfig node vmid guestType _ => some (node, guestType, vmid)
  | .regenerateCloudinit node vmid => some (node, .qemu, vmid)
  | .createLxc _ _ | .createQemu _ _ => none

/-- The preflight that belongs to a mutation. -/
def Mutation.preflightOp : Mutation → Option PreflightOp
  | .stopGuest _ _ _ _ | .shutdownGuest _ _ _ _ => some .stop
  | .restartGuest _ _ _ => some .restart
  | .deleteGuest _ _ _ => some .delete
  | .migrateGuest _ _ _ _ _ => some .migrate
  | _ => none

/-- The id of the guest a mutation creates, as it is sent. -/
def Mutation.newVmid : Mutation → Option String
  | .cloneGuest _ _ _ newid _ _ => some (toString newid)
  | .createLxc _ params | .createQemu _ params => params.lookup "vmid"
  | _ => none

/-- Configuring a guest, the one thing done to a fresh clone. -/
def Mutation.configures : Mutation → Bool
  | .updateGuestConfig _ _ _ _ | .regenerateCloudinit _ _ => true
  | _ => false

end Mutations

section Safety

variable (libs : Libraries) (request : PendingRequest)

/-- A clone with this id has been made before. -/
def JustCloned (before : History) (node : String) (vmid : Nat) : Prop :=
  ∃ source guestType name full upid,
    .sent (.cloneGuest node source guestType vmid name full) (.ok upid) ∈ before

/-- The guest with the id of the request was found where the request recorded
it, and at a risk the mutation may take. -/
structure FoundAsRecorded (before : History) (mutation : Mutation)
    (node : String) (guestType : GuestType) (vmid : Nat) : Prop where
  binds : ∃ op, ApprovedOp.decode libs request = .ok op ∧ Binds request op vmid
  recordedNode : request.node = some node
  recordedType : request.guestType = some guestType
  found : ∃ guest, .found vmid (.ok (some guest)) ∈ before ∧
    guest.node = node ∧ guest.guestType = guestType ∧
    ∀ preflight, mutation.preflightOp = some preflight →
      ∀ risk ∈ assess preflight guest, risk.2 ≠ .severe

/-- The id of a new guest was found free, or the request names none and the
cluster picked it. -/
def FreeOrPicked (before : History) (vmid : Nat) : Prop :=
  ∃ op, ApprovedOp.decode libs request = .ok op ∧ (op.freeTargetVmid request = some vmid ∧
        .found vmid (.ok none) ∈ before ∨
      op.freeTargetVmid request = none ∧
        (.nextFree (.ok vmid) ∈ before ∨ .nextVmid (.ok vmid) ∈ before))

/-- What a mutation needs of the calls before it. -/
structure SafeMutation (before : History) (mutation : Mutation) : Prop where
  existing : ∀ {node guestType vmid},
    mutation.guest = some (node, guestType, vmid) →
    (mutation.configures = true ∧ JustCloned before node vmid) ∨
      FoundAsRecorded libs request before mutation node guestType vmid
  target : ∀ {text}, mutation.newVmid = some text →
    ∃ vmid, text = toString vmid ∧ FreeOrPicked libs request before vmid

/-- Every mutation of a history was safe when it was sent. -/
def Permitted (history : History) : Prop :=
  ∀ before mutation reply rest, history = before ++ .sent mutation reply :: rest →
    SafeMutation libs request before mutation

def NoneSent (history : History) : Prop :=
  ∀ mutation reply, .sent mutation reply ∉ history

end Safety

section Histories

variable {libs : Libraries} {request : PendingRequest} {history : History}

/-- One call more: only a mutation has something to show. -/
theorem Permitted.concat {event : GatewayEvent} (hhistory : Permitted libs request history)
    (hevent : ∀ mutation reply, event = .sent mutation reply →
      SafeMutation libs request history mutation) :
    Permitted libs request (history ++ [event]) := by
  have hall : AtEach (fun before entry => ∀ mutation reply, entry = .sent mutation reply →
      SafeMutation libs request before mutation) (history ++ [event]) := by
    refine AtEach.concat ?_ hevent
    intro before entry rest heq mutation reply hentry
    exact hhistory before mutation reply rest (hentry ▸ heq)
  intro before mutation reply rest heq
  exact hall before _ rest heq mutation reply rfl

theorem NoneSent.permitted (hnone : NoneSent history) : Permitted libs request history := by
  intro before mutation reply rest heq
  exact absurd (by simp [heq]) (hnone mutation reply)

theorem NoneSent.concat {event : GatewayEvent} (hnone : NoneSent history)
    (hevent : ∀ mutation reply, event ≠ .sent mutation reply) :
    NoneSent (history ++ [event]) := by
  intro mutation reply hmem
  rcases mem_append.mp hmem with hold | hnew
  · exact hnone mutation reply hold
  · exact hevent mutation reply (mem_singleton.mp hnew).symm

end Histories

/-- What has been established once the guest of the operation is bound. -/
structure Located (libs : Libraries) (request : PendingRequest)
    (op : ApprovedOp) (bound : Option BoundGuest) (history : History) : Prop where
  decoded : ApprovedOp.decode libs request = .ok op
  noneSent : NoneSent history
  bound : ∀ vmid node guestType, bound = some (vmid, node, guestType) →
    op.existingGuestVmid request = some vmid ∧
    request.node = some node ∧ request.guestType = some guestType ∧
    ∃ guest, .found vmid (.ok (some guest)) ∈ history ∧
      guest.node = node ∧ guest.guestType = guestType ∧
      ∀ preflight, op.preflightOp = some preflight →
        ∀ risk ∈ assess preflight guest, risk.2 ≠ .severe

/-- What has been established when the execution starts. -/
structure Ready (libs : Libraries) (request : PendingRequest) (op : ApprovedOp)
    (bound : Option BoundGuest) (history : History) : Prop
    extends Located libs request op bound history where
  target : ∀ vmid, op.freeTargetVmid request = some vmid → .found vmid (.ok none) ∈ history

section Execution

variable {libs : Libraries} {gateway : Gateway} {request : PendingRequest}
variable {op : ApprovedOp} {bound : Option BoundGuest} {history : History}
variable {node : String} {guestType : GuestType} {vmid : Nat}
variable {mutation : Mutation} {event : GatewayEvent}

/-- A call that is no mutation changes nothing about the binding. -/
theorem Located.concat (hlocated : Located libs request op bound history)
    (hevent : ∀ mutation reply, event ≠ .sent mutation reply) :
    Located libs request op bound (history ++ [event]) where
  decoded := hlocated.decoded
  noneSent := hlocated.noneSent.concat hevent
  bound := by
    intro vmid node guestType hbound
    obtain ⟨hvmid, hnode, htype, guest, hfound, hguest⟩ := hlocated.bound vmid node guestType hbound
    exact ⟨hvmid, hnode, htype, guest, mem_append_left _ hfound, hguest⟩

theorem Ready.concat (hready : Ready libs request op bound history)
    (hevent : ∀ mutation reply, event ≠ .sent mutation reply) :
    Ready libs request op bound (history ++ [event]) where
  toLocated := hready.toLocated.concat hevent
  target := fun vmid hvmid => mem_append_left _ (hready.target vmid hvmid)

theorem Ready.permitted (hready : Ready libs request op bound history) :
    Permitted libs request history :=
  hready.noneSent.permitted

/-- A mutation of the bound guest, at the risk the operation was checked
for. -/
theorem Ready.foundAsRecorded
    (hready : Ready libs request op (some (vmid, node, guestType)) history)
    (hrisk : ∀ preflight, mutation.preflightOp = some preflight → op.preflightOp = some preflight) :
    FoundAsRecorded libs request history mutation node guestType vmid := by
  obtain ⟨hvmid, hnode, htype, guest, hfound, hguestNode, hguestType, hrisks⟩ :=
    hready.bound vmid node guestType rfl
  refine ⟨⟨op, hready.decoded, decode_binds hready.decoded hvmid⟩, hnode, htype,
    guest, hfound, hguestNode, hguestType, ?_⟩
  intro preflight hpreflight
  exact hrisks preflight (hrisk preflight hpreflight)

/-- What an execution leaves: only safe mutations, and at least one if it
succeeds. -/
def Carried (libs : Libraries) (request : PendingRequest) (history : History) : Prop :=
  Permitted libs request history ∧ ¬NoneSent history

/-- Whatever the cluster answers, the program is an execution in that sense. -/
abbrev Executes {α : Type} (libs : Libraries) (request : PendingRequest)
    (program : GatewayProgram α) (history : History) : Prop :=
  Ends program history (fun _ => Carried libs request) (fun _ => Permitted libs request)

theorem not_noneSent_concat {reply : Reply AppError String} :
    ¬NoneSent (history ++ [.sent mutation reply]) := by
  intro hnone
  exact hnone mutation reply (by simp)

/-- One mutation is sent: however it is answered, the history stays
permitted. -/
theorem send_ends (hhistory : Permitted libs request history)
    (hsafe : SafeMutation libs request history mutation) :
    Ends (send gateway mutation) history (fun upid final => Carried libs request final ∧
        final = history ++ [.sent mutation (.ok upid)])
      (fun _ => Permitted libs request) := by
  have hsent : ∀ reply, Permitted libs request (history ++ [.sent mutation reply]) := by
    intro reply
    apply hhistory.concat
    intro other otherReply heq
    cases heq
    exact hsafe
  exact Ends.call_or (fun _ _ => ⟨⟨hsent _, not_noneSent_concat⟩, rfl⟩) fun _ _ => hsent _

/-- An operation that is a single mutation of the bound guest. -/
theorem single_ends (hready : Ready libs request op (some (vmid, node, guestType)) history)
    (hguest : mutation.guest = some (node, guestType, vmid))
    (hrisk : ∀ preflight, mutation.preflightOp = some preflight → op.preflightOp = some preflight)
    (hnew : mutation.newVmid = none) :
    Executes libs request (send gateway mutation) history := by
  have hsafe : SafeMutation libs request history mutation := by
    constructor
    · intro otherNode otherType other hother
      rw [hguest] at hother
      cases hother
      exact Or.inr (hready.foundAsRecorded hrisk)
    · intro text htext
      rw [hnew] at htext
      cases htext
  exact (send_ends hready.permitted hsafe).imp (fun _ _ hsent => hsent.1)
    fun _ _ hpermitted => hpermitted

variable {newid : Nat}

theorem cloneTarget_ends (hready : Ready libs request op bound history)
    (htarget : op.freeTargetVmid request = if 0 < newid then some newid else none) :
    Ends (cloneTarget gateway newid) history
      (fun picked final => Ready libs request op bound final ∧
        FreeOrPicked libs request final picked)
      (fun _ => Permitted libs request) := by
  unfold cloneTarget
  split
  next hzero =>
    have hnone : op.freeTargetVmid request = none := by simp [htarget, hzero]
    have hnext : ∀ reply, Ready libs request op bound (history ++ [.nextFree reply]) :=
      fun reply => hready.concat (by simp)
    exact Ends.call_or (fun _ _ => ⟨hnext _, op, hready.decoded, Or.inr ⟨hnone, by simp⟩⟩)
      fun _ _ => (hnext _).permitted
  next hpositive =>
    have hsome : op.freeTargetVmid request = some newid := by
      simp [htarget, Nat.pos_of_ne_zero hpositive]
    exact Ends.pure ⟨hready, op, hready.decoded, Or.inl ⟨hsome, hready.target newid hsome⟩⟩

theorem clone_ends {name : Option String} {full : Bool}
    (hready : Ready libs request op (some (vmid, node, guestType)) history)
    (hfree : FreeOrPicked libs request history newid) :
    Ends (send gateway (.cloneGuest node vmid guestType newid name full)) history
      (fun _ final => Carried libs request final ∧ JustCloned final node newid)
      (fun _ => Permitted libs request) := by
  have hsafe : SafeMutation libs request history
      (.cloneGuest node vmid guestType newid name full) := by
    constructor
    · intro otherNode otherType other hother
      cases hother
      exact Or.inr (hready.foundAsRecorded (by simp [Mutation.preflightOp]))
    · intro text htext
      cases htext
      exact ⟨newid, rfl, hfree⟩
  refine (send_ends hready.permitted hsafe).imp ?_ fun _ _ hpermitted => hpermitted
  rintro upid final ⟨hcarried, rfl⟩
  exact ⟨hcarried, vmid, guestType, name, full, upid, by simp⟩

/-- Looking at a task keeps whatever further looks keep. -/
theorem pollTask_ends (Keeps : History → Prop) {upid : String}
    (hpoll : ∀ history reply, Keeps history →
      Keeps (history ++ [.polled node upid reply])) (polls : Nat)
    (hhistory : Keeps history) :
    Ends (pollTask gateway node upid polls) history (fun _ => Keeps) (fun _ => Keeps) := by
  have hstatus : ∀ history, Keeps history → Ends (getTaskStatus gateway node upid) history
        (fun _ => Keeps) (fun _ => Keeps) :=
    fun history hkeeps => Ends.call_or (fun _ _ => hpoll _ _ hkeeps) fun _ _ => hpoll _ _ hkeeps
  induction polls generalizing history with
  | zero =>
    refine Ends.bind _ (hstatus history hhistory) fun task final hfinal => ?_
    split
    · exact Ends.pure hfinal
    · exact Ends.throw hfinal
  | succ polls ih =>
    refine Ends.bind _ (hstatus history hhistory) fun task final hfinal => ?_
    split
    · exact Ends.pure hfinal
    · exact ih hfinal

/-- What stays true from the clone on. -/
def ClonedSafely (libs : Libraries) (request : PendingRequest) (node : String)
    (newid : Nat) (history : History) : Prop :=
  Carried libs request history ∧ JustCloned history node newid

theorem ClonedSafely.concat (hcloned : ClonedSafely libs request node newid history)
    (hevent : ∀ mutation reply, event = .sent mutation reply →
      SafeMutation libs request history mutation) :
    ClonedSafely libs request node newid (history ++ [event]) := by
  obtain ⟨⟨hpermitted, hsent⟩, source, sourceType, name, full, upid, hclone⟩ := hcloned
  refine ⟨⟨hpermitted.concat hevent, ?_⟩, source, sourceType, name, full, upid,
    mem_append_left _ hclone⟩
  intro hnone
  apply hsent
  intro mutation reply hmem
  exact hnone mutation reply (mem_append_left _ hmem)

/-- Configuring the fresh clone. -/
theorem configure_ends (hcloned : ClonedSafely libs request node newid history)
    (hguest : ∃ guestType, mutation.guest = some (node, guestType, newid))
    (hconfigures : mutation.configures = true)
    (hnew : mutation.newVmid = none) :
    Ends (send gateway mutation) history (fun _ => ClonedSafely libs request node newid)
      (fun _ => Permitted libs request) := by
  have hsafe : SafeMutation libs request history mutation := by
    obtain ⟨guestType, hguest⟩ := hguest
    constructor
    · intro otherNode otherType other hother
      rw [hguest] at hother
      cases hother
      exact Or.inl ⟨hconfigures, hcloned.2⟩
    · intro text htext
      rw [hnew] at htext
      cases htext
  obtain ⟨⟨hpermitted, -⟩, source, sourceType, name, full, upid, hclone⟩ := hcloned
  refine (send_ends hpermitted hsafe).imp ?_ fun _ _ hhalted => hhalted
  rintro _ final ⟨hcarried, rfl⟩
  exact ⟨hcarried, source, sourceType, name, full, upid, mem_append_left _ hclone⟩

theorem applyCloudinitAndRegen_ends (profile : CloudInitProfile)
    (hcloned : ClonedSafely libs request node newid history) :
    Executes libs request (applyCloudinitAndRegen gateway node newid guestType profile) history := by
  refine Ends.seq (Ends.ensure (fun _ => ?_) fun _ => hcloned.1.1)
  refine Ends.seq (Ends.liftResult (fun params _ => ?_) fun _ _ => hcloned.1.1)
  split
  · exact Ends.pure hcloned.1
  · refine Ends.bind _ (configure_ends hcloned ⟨guestType, rfl⟩ rfl rfl) ?_
    intro _ configured hconfigured
    refine Ends.bind _ (configure_ends hconfigured ⟨.qemu, rfl⟩ rfl rfl) ?_
    exact fun _ _ hregenerated => Ends.pure hregenerated.1

theorem execCloneWithCloudinit_ends {params : McpCloneWithCloudinitParams}
    (hready : Ready libs request (.mcpCloneWithCloudinit params)
      (some (params.guestId, node, guestType)) history) :
    Executes libs request (execCloneWithCloudinit gateway libs node guestType params) history := by
  refine Ends.seq (Ends.ensure (fun _ => ?_) fun _ => hready.permitted)
  refine Ends.bind _ (cloneTarget_ends hready rfl) ?_
  rintro newid targeted ⟨htargeted, hfree⟩
  refine Ends.bind _ (clone_ends htargeted hfree) ?_
  intro upid cloned hcloned
  refine Ends.seq ((pollTask_ends (ClonedSafely libs request node newid)
    (fun _ _ hkeeps => hkeeps.concat (by simp)) gateway.polls hcloned).imp ?_
      fun _ _ hkeeps => hkeeps.1.1)
  intro task polled hpolled
  refine Ends.seq (Ends.ensure (fun _ => ?_) fun _ => hpolled.1.1)
  exact Ends.seq (applyCloudinitAndRegen_ends (cloudInitProfile params) hpolled)

theorem execCloneGuest_ends {params : McpCloneGuestParams}
    (hready : Ready libs request (.mcpCloneGuest params)
      (some (params.guestId, node, guestType)) history) :
    Executes libs request (execCloneGuest gateway node guestType params) history := by
  refine Ends.bind _ (cloneTarget_ends hready rfl) ?_
  rintro newid targeted ⟨htargeted, hfree⟩
  refine Ends.bind _ (clone_ends htargeted hfree) ?_
  exact fun _ _ hcloned => Ends.pure hcloned.1

theorem createTarget_ends {vmid : Option Nat} (hready : Ready libs request op bound history)
    (htarget : op.freeTargetVmid request = vmid.filter (0 < ·)) :
    Ends (createTarget gateway vmid) history
      (fun picked final => Ready libs request op bound final ∧
        FreeOrPicked libs request final picked)
      (fun _ => Permitted libs request) := by
  unfold createTarget
  split
  next target hsome =>
    rw [hsome] at htarget
    exact Ends.pure ⟨hready, op, hready.decoded, Or.inl ⟨htarget, hready.target target htarget⟩⟩
  next hnone =>
    rw [hnone] at htarget
    have hnext : ∀ reply, Ready libs request op bound (history ++ [.nextVmid reply]) :=
      fun reply => hready.concat (by simp)
    exact Ends.call_or (fun _ _ => ⟨hnext _, op, hready.decoded, Or.inr ⟨htarget, by simp⟩⟩)
      fun _ _ => (hnext _).permitted

/-- Creating a guest touches no existing one. -/
theorem create_ends {vmid : Nat} (hready : Ready libs request op bound history)
    (hguest : mutation.guest = none)
    (hnew : mutation.newVmid = some (toString vmid))
    (hfree : FreeOrPicked libs request history vmid) :
    Executes libs request (send gateway mutation) history := by
  have hsafe : SafeMutation libs request history mutation := by
    constructor
    · intro otherNode otherType other hother
      rw [hguest] at hother
      cases hother
    · intro text htext
      rw [hnew] at htext
      cases htext
      exact ⟨vmid, rfl, hfree⟩
  exact (send_ends hready.permitted hsafe).imp (fun _ _ hsent => hsent.1)
    fun _ _ hpermitted => hpermitted

theorem execCreateGuest_ends {params : McpCreateGuestParams}
    (hready : Ready libs request op bound history)
    (htarget : op.freeTargetVmid request = params.vmid.filter (0 < ·)) :
    Executes libs request (execCreateGuest gateway params) history := by
  refine Ends.seq (Ends.ensure (fun _ => ?_) fun _ => hready.permitted)
  refine Ends.bind _ (createTarget_ends hready htarget) ?_
  rintro vmid targeted ⟨htargeted, hfree⟩
  refine Ends.seq (?_ : Ends (sendCreate _ _ _) _ (fun _ => Carried libs request) _)
  unfold sendCreate
  split
  · split
    · exact Ends.throw htargeted.permitted
    · exact create_ends htargeted rfl rfl hfree
  · exact create_ends htargeted rfl rfl hfree

/-- With a bound guest, its id is the one the operation names. -/
theorem Ready.guestId_eq {guestId : Nat}
    (hready : Ready libs request op (some (vmid, node, guestType)) history)
    (hparams : op.existingGuestVmid request = some guestId) :
    vmid = guestId := by
  obtain ⟨hvmid, -⟩ := hready.bound vmid node guestType rfl
  rw [hparams] at hvmid
  exact (Option.some.inj hvmid).symm

/-- Every executor keeps to the guest it was bound to. -/
theorem executeApprovedOp_ends (hready : Ready libs request op bound history) :
    Executes libs request (executeApprovedOp gateway libs op request.vmid bound) history := by
  have hbind : ∀ {α : Type} {rest : BoundGuest → GatewayProgram α}, (∀ vmid node guestType,
        Ready libs request op (some (vmid, node, guestType)) history →
        Executes libs request (rest (vmid, node, guestType)) history) →
      Executes libs request (requireBound bound >>= rest) history := by
    intro α rest hrest
    cases bound with
    | none => exact Ends.throw hready.permitted
    | some guest => exact hrest guest.1 guest.2.1 guest.2.2 hready
  have hnamed : ∀ {α : Type} {rest : BoundGuest → GatewayProgram α} {guestId : Nat},
      op.existingGuestVmid request = some guestId → (∀ node guestType,
        Ready libs request op (some (guestId, node, guestType)) history →
        Executes libs request (rest (guestId, node, guestType)) history) →
      Executes libs request (requireBound bound >>= rest) history := by
    intro α rest guestId hguestId hrest
    refine hbind fun vmid node guestType h => ?_
    obtain rfl := h.guestId_eq hguestId
    exact hrest node guestType h
  cases op with
  | cliStart | cliRestart | cliSuspend | cliResume =>
    exact hbind fun _ _ _ h => single_ends h rfl (fun _ hrisk => hrisk) rfl
  | cliStop params =>
    refine hbind fun _ _ _ h => ?_
    cases params.force with
    | true | false => exact single_ends h rfl (fun _ hrisk => hrisk) rfl
  | mcpStopGuest params =>
    refine hnamed rfl fun node guestType h => ?_
    change Ends (execStopGuest gateway node guestType params) _ _ _
    unfold execStopGuest
    split <;> exact single_ends h rfl (fun _ hrisk => hrisk) rfl
  | mcpRestartGuest params | mcpDeleteGuest params | mcpCreateSnapshot params
  | mcpDeleteSnapshot params | mcpSuspendGuest params | mcpMigrateGuest params =>
    exact hnamed rfl fun _ _ h => single_ends h rfl (fun _ hrisk => hrisk) rfl
  | mcpCloneGuest params => exact hnamed rfl fun _ _ h => Ends.seq (execCloneGuest_ends h)
  | mcpCreateGuest params => exact Ends.seq (execCreateGuest_ends hready rfl)
  | mcpCloneWithCloudinit params =>
    exact hnamed rfl fun _ _ h => Ends.seq (execCloneWithCloudinit_ends h)

theorem lookup_ends (hnone : NoneSent history) :
    Ends (mapError PerformError.lookup (findGuest gateway vmid)) history
      (fun live final => final = history ++ [.found vmid (.ok live)])
      (fun _ => NoneSent) := by
  apply Ends.mapError
  apply Ends.call
  · exact fun live _ => rfl
  · exact fun e _ => hnone.concat (by simp)
  · exact fun _ => hnone.concat (by simp)

theorem binding_eq_some (hbinding : request.binding = some (node, guestType)) :
    request.node = some node ∧ request.guestType = some guestType := by
  unfold PendingRequest.binding at hbinding
  split at hbinding
  next recorded recordedType hnode htype =>
    cases hbinding
    exact ⟨(Option.filter_eq_some_iff.mp hnode).1, htype⟩
  next => cases hbinding

/-- The preflight lets a guest pass only without a severe risk. -/
theorem checkRisks_ends {guest : Guest} (hnone : NoneSent history) :
    Ends (checkRisks op vmid guest) history (fun _ final => history = final ∧
        ∀ preflight, op.preflightOp = some preflight →
          ∀ risk ∈ assess preflight guest, risk.2 ≠ .severe)
      (fun _ => NoneSent) := by
  unfold checkRisks
  split
  next hop => exact Ends.pure ⟨rfl, by simp [hop]⟩
  next preflight hop =>
    dsimp only
    split
    next => exact Ends.throw hnone
    next hlevel =>
      refine Ends.pure ⟨rfl, ?_⟩
      intro other hother risk hrisk hsevere
      rw [hop] at hother
      cases hother
      exact hlevel (maxLevel_eq_severe_iff.mpr ⟨risk, hrisk, hsevere⟩)

theorem bindGuest_ends (hdecoded : ApprovedOp.decode libs request = .ok op)
    (hvmid : op.existingGuestVmid request = some vmid)
    (hnone : NoneSent history) :
    Ends (bindGuest gateway request op vmid) history
      (fun guest final => Located libs request op (some guest) final)
      (fun _ => NoneSent) := by
  unfold bindGuest
  split
  next => exact Ends.throw hnone
  next node guestType hbinding =>
    obtain ⟨hnode, htype⟩ := binding_eq_some hbinding
    apply Ends.bind _ (lookup_ends hnone)
    rintro live _ rfl
    have hlooked : NoneSent (history ++ [.found vmid (.ok live)]) := hnone.concat (by simp)
    cases live with
    | none => exact Ends.throw hlooked
    | some guest =>
      dsimp only
      split
      next hsame =>
        obtain ⟨rfl, rfl⟩ := hsame
        apply Ends.bind _ (checkRisks_ends hlooked)
        rintro _ _ ⟨rfl, hrisks⟩
        refine Ends.pure ⟨hdecoded, hlooked, ?_⟩
        intro other otherNode otherType heq
        cases heq
        exact ⟨hvmid, hnode, htype, guest, by simp, rfl, rfl, hrisks⟩
      next => exact Ends.throw hlooked

theorem bindExisting_ends (hdecoded : ApprovedOp.decode libs request = .ok op)
    (hnone : NoneSent history) :
    Ends (bindExisting gateway request op) history
      (fun bound final => Located libs request op bound final)
      (fun _ => NoneSent) := by
  unfold bindExisting
  split
  next vmid hvmid => exact Ends.seq (bindGuest_ends hdecoded hvmid hnone)
  next =>
    have hlocated : Located libs request op none history := ⟨hdecoded, hnone, by simp⟩
    refine Ends.seq (?_ : Ends (checkCreateBinding _ _) _ (fun _ => Located libs request op none) _)
    unfold checkCreateBinding
    split
    · dsimp only
      split
      · exact Ends.throw hnone
      · exact Ends.pure hlocated
    · exact Ends.pure hlocated

theorem checkFreeTarget_ends (hlocated : Located libs request op bound history) :
    Ends (checkFreeTarget gateway request op) history (fun _ => Ready libs request op bound)
      (fun _ => NoneSent) := by
  unfold checkFreeTarget
  split
  next hnone => exact Ends.pure ⟨hlocated, by simp [hnone]⟩
  next vmid htarget =>
    apply Ends.bind _ (lookup_ends hlocated.noneSent)
    rintro existing _ rfl
    have hlooked : Located libs request op bound (history ++ [.found vmid (.ok existing)]) :=
      hlocated.concat (by simp)
    cases existing with
    | none =>
      refine Ends.pure ⟨hlooked, ?_⟩
      intro other hother
      rw [htarget] at hother
      cases hother
      simp
    | some guest => exact Ends.throw hlooked.noneSent

/-- Whatever the cluster answers, an approved request leads to safe mutations
only, and to none at all unless it gets as far as its execution. -/
theorem performApproved_ends : Ends (performApproved libs gateway request) []
    (fun _ => Carried libs request)
    (fun _ => Permitted libs request) := by
  have hstart : NoneSent [] := nofun
  refine Ends.seq (Ends.liftMapError (fun op hdecoded => ?_) fun _ _ => hstart.permitted)
  refine Ends.seq ((bindExisting_ends hdecoded hstart).imp ?_ fun _ _ hnone => hnone.permitted)
  intro bound located hlocated
  refine Ends.seq ((checkFreeTarget_ends hlocated).imp ?_ fun _ _ hnone => hnone.permitted)
  intro _ ready hready
  refine Ends.seq (Ends.mapError ((executeApprovedOp_ends hready).imp ?_ ?_))
  · exact fun _ _ hcarried => hcarried
  · rintro (_ | _) _ hpermitted
    · exact hpermitted
    · exact hpermitted

end Execution

inductive CallbackOutcome where
  | executed (action : String) (vmid : Nat) (upid : String)
  | executeFailed (action : String) (vmid : Nat) (error : String)
  | denied (action : String) (vmid : Nat)
  | replay (txnId : String)
  | expired (id : String)
  | unknownRequest (id : String)
  | notACallback
  | invalidFormat (data : String)
  | unauthorizedApprover (userId : Int)
  | wrongChat (chatId : Int)
  | awaitingApprovals (votes need : Nat)
deriving Repr, DecidableEq

def mapRejectionToOutcome : CallbackRejection → CallbackOutcome
  | .missingData => .notACallback
  | .unsigned data | .invalidSignature data | .legacyFormat data
  | .invalidPayload data => .invalidFormat data
  | .missingChat => .wrongChat 0
  | .wrongChat chatId => .wrongChat chatId
  | .noApproversConfigured userId | .unauthorizedApprover userId => .unauthorizedApprover userId

/-- What is written to the row of a request when its execution is over. -/
inductive Mark where
  | executed (id upid : String)
  | failed (id error : String)
deriving Repr, DecidableEq

def Mark.apply : Mark → PendingTable → PendingTable
  | .executed id upid, table => table.markExecuted id upid
  | .failed id error, table => table.markFailed id error

/-- How a performance ended; a stopped process marks nothing. -/
abbrev Performed := Except (Halt PerformError) (Nat × String)

def PerformError.text : PerformError → String
  | .refused _ text => text
  | .lookup error => error.chain
  | .execution _ error => error.display

def markOf (id : String) : Performed → Option Mark
  | .ok (_, upid) => some (.executed id upid)
  | .error (.error e) => some (.failed id e.text)
  | .error .stopped => none

/-- The outcome the handler returns; a failed lookup is passed on as an
error. -/
def outcomeOf (action : String) : Performed → Except (Halt AppError) CallbackOutcome
  | .ok (vmid, upid) => .ok (.executed action vmid upid)
  | .error (.error (.refused vmid text)) => .ok (.executeFailed action vmid text)
  | .error (.error (.execution vmid error)) => .ok (.executeFailed action vmid error.display)
  | .error (.error (.lookup error)) => .error (.error error)
  | .error .stopped => .error .stopped

/-- What one callback leaves behind. -/
structure Handled where
  outcome : Except (Halt AppError) CallbackOutcome
  table : PendingTable
  mark : Option Mark
  history : History

/-- What the handler is run with. -/
structure HandlerEnv where
  mac : Mac
  libs : Libraries
  telegram : TelegramGateway
  gateway : Gateway

/-- An approved request is carried out and marked. -/
def handleApproved (env : HandlerEnv) (request : PendingRequest) (table : PendingTable) : Handled :=
  let performed := execute (performApproved env.libs env.gateway request) []
  let mark := markOf request.id performed.1
  { outcome := outcomeOf request.action performed.1, table := mark.elim table (·.apply table)
    mark
    history := performed.2 }

def handleCallbackUpdate (env : HandlerEnv) (update : Option CallbackQuery)
    (now : Int) (table : PendingTable) : Handled :=
  let answer (outcome : CallbackOutcome) (table : PendingTable) : Handled :=
    { outcome := .ok outcome, table, mark := none, history := [] }
  match update with
  | none => answer .notACallback table
  | some callback =>
    match verifyCallback env.mac env.telegram callback with
    | .error rejection => answer (mapRejectionToOutcome rejection) table
    | .ok verified =>
      match table.processCallbackAt verified.txnId verified.decision verified.approverId now with
      | (.unknownRequest, after) => answer (.unknownRequest verified.txnId) after
      | (.expired request, after) => answer (.expired request.id) after
      | (.alreadyHandled request, after) => answer (.replay request.id) after
      | (.denied request, after) => answer (.denied request.action (request.vmid.getD 0)) after
      | (.awaitingApprovals _ votes need _, after) => answer (.awaitingApprovals votes need) after
      | (.approved request, after) => handleApproved env request after

section Handler

variable {env : HandlerEnv} {callback : CallbackQuery}
variable {verified : VerifiedCallback} {request : PendingRequest}
variable {table after : PendingTable} {now : Int}

theorem handleCallbackUpdate_approved
    (hverified : verifyCallback env.mac env.telegram callback = .ok verified)
    (happroved : table.processCallbackAt verified.txnId verified.decision
      verified.approverId now = (.approved request, after)) :
    handleCallbackUpdate env (some callback) now table =
      handleApproved env request after := by simp [handleCallbackUpdate, hverified, happroved]

/-- The row of an approved request is in the table, approved. -/
theorem processCallbackAt_approved_row {id : String}
    {decision : CallbackDecision} {approverId : Int}
    (happroved : table.processCallbackAt id decision approverId now = (.approved request, after)) :
    request.id = id ∧ after.row id = some request := by
  have hstep := processCallbackAt_step table id decision approverId now
  rw [happroved] at hstep
  cases hstep with
  | approved before hrow hpending hearly hdecision hquorum =>
    have hid : before.id = id := table.row_id hrow
    exact ⟨hid, by simp [hrow]⟩

/-- A callback that completes the quorum sends a mutation only to the guest
that was found as the request recorded it, creates guests only under free ids,
and otherwise sends nothing and marks the row failed. -/
theorem approved_request_safe
    (hverified : verifyCallback env.mac env.telegram callback = .ok verified)
    (happroved : table.processCallbackAt verified.txnId verified.decision
      verified.approverId now = (.approved request, after)) :
    let handled := handleCallbackUpdate env (some callback) now table
    (∀ before mutation reply rest, handled.history = before ++ .sent mutation reply :: rest →
      SafeMutation env.libs request before mutation) ∧
    (NoneSent handled.history → handled.outcome ≠ .error .stopped →
      ∃ error row, handled.mark = some (.failed request.id error) ∧
        handled.table.row request.id = some row ∧ row.status = .failed ∧
        row.error = some error) := by
  intro handled
  obtain ⟨hid, hrow⟩ := processCallbackAt_approved_row happroved
  have hhandled : handled = handleApproved env request after :=
    handleCallbackUpdate_approved hverified happroved
  have hends := @performApproved_ends env.libs env.gateway request
  unfold Ends at hends
  rw [hhandled]
  unfold handleApproved
  rcases hperformed : execute (performApproved env.libs env.gateway request) []
    with ⟨(e | _) | ⟨vmid, upid⟩, history⟩
  · rw [hperformed] at hends
    refine ⟨hends, fun _ _ => ⟨e.text,
      { request with status := .failed, error := some e.text }, rfl, ?_, rfl,
      rfl⟩⟩
    rw [← hid] at hrow
    simp [markOf, Mark.apply, PendingTable.markFailed, PendingTable.update_row_same, hrow]
  · rw [hperformed] at hends
    exact ⟨hends, fun _ hrunning => absurd rfl hrunning⟩
  · rw [hperformed] at hends
    exact ⟨hends.1, fun hnone => absurd hnone hends.2⟩

end Handler

namespace HandlerWitness

def guest : Guest :=
  { vmid := 100, status := .stopped, guestType := .qemu, node := "pve1", uptime := 0, tags := ""
    lock := "", hastate := "", netin := 0, netout := 0 }

def env : HandlerEnv :=
  { mac := { tag := fun _ _ => List.replicate 8 0, tag_ne_nil := by simp }
    libs :=
      { json :=
          { parse := fun _ => some (.obj [("guest_id", .int 100)])
            message := fun _ _ => "" }
        debugChar := String.singleton
        debugText := id }
    telegram := { chatId := "42", hmacKey := [], allowedApprovers := [7] }
    gateway :=
      { findGuest := fun _ _ => .ok (some guest)
        nextFreeVmid := fun _ => .ok 101
        getNextVmid := fun _ => .ok 101
        getTaskStatus := fun _ _ _ => .ok { status := "stopped", exitstatus := some "OK" }
        mutate := fun _ _ => .ok "UPID:1"
        polls := 0 } }

def newRequest : NewPendingRequest :=
  { action := "delete_guest", vmid := some 100, node := some "pve1", guestType := some .qemu
    paramsJson := "\x7b\"guest_id\":100\x7d", require := 1, ttlSecs := 120 }

def request : PendingRequest :=
  { id := "r1", action := "delete_guest", vmid := some 100, node := some "pve1"
    guestType := some .qemu, paramsJson := newRequest.paramsJson, require := 1, issuedAt := 0
    expiresAt := 120, status := .approved, approvers := [7], upid := none, error := none }

def table : PendingTable :=
  ((PendingTable.empty.insertAt "r1" newRequest 0).map (·.2)).getD .empty

def callback : CallbackQuery :=
  { userId := 7, message := some { chat := some 42 }, data := some "approve:r1:0000000000000000" }

def verified : VerifiedCallback :=
  { decision := .approve, txnId := "r1", rawData := "approve:r1:0000000000000000", approverId := 7 }

/-- Deleting a stopped guest that is where the request says. -/
theorem approved_request_safe_delete : SafeMutation env.libs request [.found 100 (.ok (some guest))]
    (.deleteGuest "pve1" 100 .qemu) := by
  have hverified : verifyCallback env.mac env.telegram callback = .ok verified := by decide +kernel
  have happroved : table.processCallbackAt verified.txnId verified.decision verified.approverId 5 =
        (.approved request, (table.processCallbackAt verified.txnId
          verified.decision verified.approverId 5).2) := rfl
  exact (approved_request_safe hverified happroved).1 [_] _ (.ok "UPID:1") [] (by decide +kernel)

end HandlerWitness

end Proxxx
