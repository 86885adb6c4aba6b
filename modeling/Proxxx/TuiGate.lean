/-
What the approval gate of the terminal interface guarantees.  A directly
dispatched call that a policy or the secure mode governs rests on the answer to
its own request; a queued one does so as long as the guest that the worker reads
from the cluster is not governed by more than the reducer's snapshot of it.
-/
import Proxxx.TuiApproval

namespace Proxxx

open StepSystem List

section Statements

/-- The operations an effect is for. -/
def SideEffect.targets : SideEffect → List HitlTarget
  | .executeQueue ops => ops.filterMap fun op => queuedActionHitlTarget op.action
  | effect => (hitlAction effect).toList

/-- A policy governs the operation on the guest that was looked up for it, or the
secure mode does. -/
def Governed (policies : List Policy) (secureMode : Bool) (sent : SentMutation) : Prop :=
  (policyFor policies sent.target (guestTags sent.guest)).isSome ∨
    (secureMode && isDestructiveAction sent.target.action) = true

/-- Enough different approvers. -/
def Enough (require : Nat) (approvers : List Int) : Prop :=
  approvers.Nodup ∧ max require 1 ≤ approvers.length

/-- A governed call rests on enough answers to the request for its operation. -/
def LoggedCall.Gated (policies : List Policy) (call : LoggedCall) : Prop :=
  Governed policies call.secureMode call.sent →
    ∃ ballot, call.ballot = some ballot ∧ ballot.target = call.sent.target ∧
      Enough ballot.require ballot.approvers

/-- The worker's guest is under a policy only if the gate intercepts the
operation on the reducer's snapshot, or the pre-flight stops it. -/
def KeepsStep (policies : List Policy) (view : TuiView) (op : QueuedOp)
    (lookup : Except String Guest) : Prop :=
  ∀ target guest, queuedActionHitlTarget op.action = some target →
    lookup = .ok guest → op.refusal guest = none →
    (policyFor policies target guest.tagList).isSome →
    Intercepted policies view target

/-- The condition on a step: an executed queue meets guests that are in step with
the snapshot, or it is not dispatched at all. -/
def QueueInStep (policies : List Policy) (state : TuiState) : TuiEvent → Prop
  | .dispatch (.executeQueue ops) env =>
    env.saved = true → ∀ place ∈ env.attach ops,
      KeepsStep policies state.view place.1 place.2.lookup
  | _ => True

end Statements

section Desk

/-- Every entry counts different approvers for a request of its own, every
request is for one operation, and an approval has enough answers. -/
structure ApprovalDesk.Sound (desk : ApprovalDesk) : Prop where
  voters : ∀ entry ∈ desk.pending, entry.approvers.Nodup
  owner : ∀ entry ∈ desk.pending, ∃ task, desk.tasks[entry.task]? = some task ∧
    entry.require = max task.need.require 1
  single : ∀ task ∈ desk.tasks, task.need.effect.targets = [task.need.target]
  enough : ∀ task ∈ desk.tasks, ∀ approvers,
    task.state = .approved approvers → Enough task.need.require approvers

variable {desk : ApprovalDesk}

namespace ApprovalDesk.Sound

/-- Entries may be dropped, and may count other approvers. -/
theorem repend (hsound : desk.Sound) {pending : List PendingTuiEntry}
    (hpending : ∀ entry ∈ pending, entry.approvers.Nodup ∧
      ∃ old ∈ desk.pending, old.task = entry.task ∧ old.require = entry.require) :
    ApprovalDesk.Sound { desk with pending } where
  voters entry hentry := (hpending entry hentry).1
  owner entry hentry := by
    obtain ⟨-, old, hold, htask, hrequire⟩ := hpending entry hentry
    rw [← htask, ← hrequire]
    exact hsound.owner old hold
  single := hsound.single
  enough := hsound.enough

theorem unregister (hsound : desk.Sound) (txnId : String) : (desk.unregister txnId).Sound := by
  refine hsound.repend fun entry hentry => ?_
  have hold := mem_of_mem_filter hentry
  exact ⟨hsound.voters entry hold, entry, hold, rfl, rfl⟩

/-- A task may change its state as long as an approval has enough answers. -/
theorem modify (hsound : desk.Sound) (task : Nat) (change : ApprovalTask → ApprovalTask)
    (hneed : ∀ old, (change old).need = old.need)
    (henough : ∀ old, desk.tasks[task]? = some old → ∀ approvers,
      (change old).state = .approved approvers → Enough old.need.require approvers) :
    ApprovalDesk.Sound { desk with tasks := desk.tasks.modify task change } where
  voters := hsound.voters
  owner entry hentry := by
    obtain ⟨old, hold, hrequire⟩ := hsound.owner entry hentry
    by_cases hsame : task = entry.task
    · exact ⟨change old, by simp [hsame, hold], by rw [hneed, hrequire]⟩
    · exact ⟨old, by simp [hsame, hold], hrequire⟩
  single other hother := by
    obtain ⟨place, hplace⟩ := mem_iff_getElem?.mp hother
    rw [List.getElem?_modify] at hplace
    obtain ⟨old, hold, rfl⟩ := Option.map_eq_some_iff.mp hplace
    have hsingle := hsound.single old (mem_of_getElem? hold)
    split
    · rw [hneed, hsingle]
    · exact hsingle
  enough other hother := by
    obtain ⟨place, hplace⟩ := mem_iff_getElem?.mp hother
    rw [List.getElem?_modify] at hplace
    obtain ⟨old, hold, rfl⟩ := Option.map_eq_some_iff.mp hplace
    split
    next hsame =>
      rw [hneed]
      exact henough old (hsame ▸ hold)
    next => exact hsound.enough old (mem_of_getElem? hold)

theorem close (hsound : desk.Sound) (task : Nat) : (desk.close task).Sound := by
  refine hsound.modify task _ (fun _ => rfl) ?_
  nofun

theorem answer (hsound : desk.Sound) (task : Nat) (state : TaskState)
    (henough : ∀ old, desk.tasks[task]? = some old → ∀ approvers,
      state = .approved approvers → Enough old.need.require approvers) :
    (desk.answer task state).Sound := by
  refine hsound.modify task _ (fun old => ?_) ?_
  · split <;> rfl
  · intro old hold approvers happroved
    split at happroved
    · exact henough old hold approvers happroved
    · exact hsound.enough old (mem_of_getElem? hold) approvers happroved

/-- A request joins the desk; an older one under the same id loses its entry. -/
theorem request (hsound : desk.Sound) {held : ApprovalNeed × OpEnv}
    (hsingle : held.1.effect.targets = [held.1.target]) :
    (desk.request held).Sound := by
  unfold ApprovalDesk.request
  split
  · exact hsound
  · exact hsound.unregister _
  · have hrest := hsound.unregister held.2.txnId
    constructor
    · intro entry hentry
      rcases mem_cons.mp hentry with rfl | hold
      · exact nodup_nil
      · exact hrest.voters entry hold
    · intro entry hentry
      rcases mem_cons.mp hentry with rfl | hold
      · exact ⟨_, List.getElem?_concat_length, rfl⟩
      · obtain ⟨task, htask, hrequire⟩ := hrest.owner entry hold
        refine ⟨task, ?_, hrequire⟩
        have hplace := (List.getElem?_eq_some_iff.mp htask).1
        exact (List.getElem?_append_left hplace).trans htask
    · intro task htask
      rcases mem_append.mp htask with hold | hnew
      · exact hsound.single task hold
      · obtain rfl := mem_singleton.mp hnew
        exact hsingle
    · intro task htask approvers happroved
      rcases mem_append.mp htask with hold | hnew
      · exact hsound.enough task hold approvers happroved
      · obtain rfl := mem_singleton.mp hnew
        cases happroved

theorem requests (hsound : desk.Sound) {held : List (ApprovalNeed × OpEnv)}
    (hsingle : ∀ need ∈ held, need.1.effect.targets = [need.1.target]) :
    (held.foldl ApprovalDesk.request desk).Sound := by
  induction held generalizing desk with
  | nil => exact hsound
  | cons head tail ih =>
    rw [forall_mem_cons] at hsingle
    exact ih (hsound.request hsingle.1) hsingle.2

/-- A callback lets a request through only with its own number of different
approvers. -/
theorem applyCallback (hsound : desk.Sound) (txnId : String)
    (decision : CallbackDecision) (approverId : Int) (now : Nat) :
    (desk.applyCallback txnId decision approverId now).Sound := by
  unfold ApprovalDesk.applyCallback
  split
  · exact hsound
  next entry hfind =>
    have hentry := List.mem_of_find?_eq_some hfind
    obtain ⟨owner, howner, hrequire⟩ := hsound.owner entry hentry
    have hnodup := (hsound.voters entry hentry).insert (a := approverId)
    have hleft := hsound.unregister txnId
    split
    · exact hleft
    · cases decision with
      | deny =>
        refine hleft.answer _ _ ?_
        nofun
      | approve =>
        dsimp only
        split
        next hcount =>
          refine hleft.answer _ _ ?_
          intro old hold approvers happroved
          cases happroved
          obtain rfl := Option.some.inj (howner.symm.trans hold)
          exact ⟨hnodup, by omega⟩
        next =>
          refine hsound.repend fun voted hvoted => ?_
          obtain ⟨old, hold, rfl⟩ := mem_map.mp hvoted
          split
          · exact ⟨hnodup, old, hold, rfl, rfl⟩
          · exact ⟨hsound.voters old hold, old, hold, rfl, rfl⟩

end ApprovalDesk.Sound

end Desk

section Dispatch

variable {policies : List Policy} {view : TuiView} {skipHitl : Bool}
  {effect : SideEffect} {env : DispatchEnv} {ops : List QueuedOp}
  {sent : SentMutation}

theorem mem_dispatchQueue_sent : sent ∈ (dispatchQueue policies view skipHitl ops env).sent ↔
    env.saved = true ∧ ∃ place ∈ env.attach ops, queueNeed policies view skipHitl place.1 = none ∧
        workOp place.1 place.2.lookup = .ok sent := by
  unfold dispatchQueue
  split
  next hsaved =>
    simp only [mem_filterMap, hsaved, true_and]
    refine exists_congr fun place => and_congr_right fun _ => ?_
    cases queueNeed policies view skipHitl place.1 with
    | some need => simp
    | none => cases workOp place.1 place.2.lookup <;> simp [Except.toOption]
  next hsaved => simp [hsaved]

theorem mem_dispatchDirect_sent
    (hsent : sent ∈ (dispatchDirect policies view skipHitl effect env).sent) :
    hitlAction effect = some sent.target ∧ sent.guest = view.find sent.target.vmid ∧
      (skipHitl = true ∨ ¬ Intercepted policies view sent.target) := by
  revert hsent
  fun_cases dispatchDirect policies view skipHitl effect env <;> intro hsent
  any_goals cases hsent
  next target htarget _ hpassed =>
    obtain ⟨mutation, -, rfl⟩ := mem_map.mp hsent
    exact ⟨htarget, rfl, (checkHitl_eq_ok_iff.mp hpassed).2⟩

theorem targets_of_hitlAction {target : HitlTarget} (htarget : hitlAction effect = some target) :
    effect.targets = [target] := by
  unfold SideEffect.targets
  split
  · cases htarget
  · simp [htarget]

/-- A dispatch sends calls for the operations of its effect only. -/
theorem target_mem_of_sent (hsent : sent ∈
      (dispatchSideEffect policies view skipHitl effect env).sent) :
    sent.target ∈ effect.targets := by
  unfold dispatchSideEffect at hsent
  split at hsent
  next ops =>
    obtain ⟨-, place, hplace, -, hwork⟩ := mem_dispatchQueue_sent.mp hsent
    obtain ⟨target, guest, mutation, htarget, -, -, -, rfl⟩ := workOp_eq_ok_iff.mp hwork
    obtain ⟨⟨op, index⟩, hop, rfl⟩ := mem_map.mp hplace
    exact mem_filterMap.mpr ⟨op, fst_mem_of_mem_zipIdx hop, htarget⟩
  next =>
    rw [targets_of_hitlAction (mem_dispatchDirect_sent hsent).1]
    exact mem_singleton_self _

/-- What a dispatch holds back is one operation, under its own name. -/
theorem single_of_held {held : ApprovalNeed × OpEnv} (hheld : held ∈
      (dispatchSideEffect policies view skipHitl effect env).held) :
    held.1.effect.targets = [held.1.target] := by
  unfold dispatchSideEffect at hheld
  split at hheld
  next ops =>
    unfold dispatchQueue at hheld
    split at hheld
    · obtain ⟨place, -, hneed⟩ := mem_filterMap.mp hheld
      obtain ⟨need, hasked, rfl⟩ := Option.map_eq_some_iff.mp hneed
      obtain ⟨htarget, heffect⟩ := queueNeed_eq_some hasked
      rw [heffect]
      simp [SideEffect.targets, htarget]
    · cases hheld
  next =>
    unfold dispatchDirect at hheld
    split at hheld
    · cases hheld
    next target htarget =>
      split at hheld
      next need hasked =>
        obtain rfl := mem_singleton.mp hheld
        obtain ⟨hfor, heffect⟩ := checkHitl_eq_error hasked
        rw [heffect, hfor]
        exact targets_of_hitlAction htarget
      next => cases hheld

/-- The gate and a directly dispatched effect read the same guest. -/
theorem direct_not_governed (hsent : sent ∈ (dispatchDirect policies view false effect env).sent) :
    ¬ Governed policies view.secureMode sent := by
  obtain ⟨-, hguest, hskip | hfree⟩ := mem_dispatchDirect_sent hsent
  · cases hskip
  · rwa [Governed, hguest]

/-- A queue sends no governed call exactly when its guests are in step with the
snapshot. -/
theorem queue_not_governed_iff : (∀ sent ∈ (dispatchQueue policies view false ops env).sent,
    ¬ Governed policies view.secureMode sent) ↔
    (env.saved = true → ∀ place ∈ env.attach ops,
      KeepsStep policies view place.1 place.2.lookup) := by
  constructor
  · intro hsent hsaved place hplace target guest htarget hlookup hrefusal hpolicy
    by_contra hfree
    obtain ⟨mutation, hmutation⟩ := Option.isSome_iff_exists.mp (mutation_isSome guest htarget)
    refine hsent { target, guest := some guest, mutation } ?_ (.inl hpolicy)
    refine mem_dispatchQueue_sent.mpr ⟨hsaved, place, hplace, ?_, ?_⟩
    · exact (queueNeed_eq_none_iff htarget).mpr (.inr hfree)
    · exact workOp_eq_ok_iff.mpr
        ⟨target, guest, mutation, htarget, hlookup, hrefusal, hmutation, rfl⟩
  · intro hstep sent hsent hgoverned
    obtain ⟨hsaved, place, hplace, hneed, hwork⟩ := mem_dispatchQueue_sent.mp hsent
    obtain ⟨target, guest, mutation, htarget, hlookup, hrefusal, -, rfl⟩ :=
      workOp_eq_ok_iff.mp hwork
    have hfree : ¬ Intercepted policies view target := by
      simpa using (queueNeed_eq_none_iff htarget).mp hneed
    apply hfree
    rcases hgoverned with hpolicy | hsecure
    · exact hstep hsaved place hplace target guest htarget hlookup hrefusal hpolicy
    · exact .inr hsecure

end Dispatch

section Runs

variable {policies : List Policy} {state next : TuiState} {event : TuiEvent}

def TuiState.Sound (state : TuiState) : Prop :=
  state.desk.Sound

theorem dispatch_sound (hsound : state.Sound) (ballot : Option Ballot)
    (effect : SideEffect) (env : DispatchEnv) :
    (state.dispatch policies ballot effect env).Sound :=
  ApprovalDesk.Sound.requests hsound fun _ hheld => single_of_held hheld

theorem step_sound (hstep : state.step policies event = some next)
    (hsound : state.Sound) : next.Sound := by
  revert hstep
  fun_cases TuiState.step policies state event <;>
    simp only [Option.some.injEq, reduceCtorEq, false_implies] <;> rintro rfl
  next => exact hsound
  next effect env => exact dispatch_sound hsound none effect env
  next txnId decision approverId now =>
    exact ApprovalDesk.Sound.applyCallback hsound txnId decision approverId now
  next task waiting _ _ =>
    exact (ApprovalDesk.Sound.unregister hsound waiting.txnId).close task
  next task env _ _ closed _ _ =>
    have hclosed : closed.Sound := ApprovalDesk.Sound.close hsound task
    exact dispatch_sound hclosed _ _ env
  next task _ _ _ _ _ => exact ApprovalDesk.Sound.close hsound task

/-- The calls of a dispatch without an answer are gated when none of them is
governed. -/
theorem gated_of_none {calls : List SentMutation} {secureMode : Bool} : (∀ sent ∈ calls,
      LoggedCall.Gated policies { sent, secureMode, ballot := none }) ↔
      ∀ sent ∈ calls, ¬ Governed policies secureMode sent := by simp [LoggedCall.Gated]

theorem forall_mem_dispatch_log {P : LoggedCall → Prop}
    {ballot : Option Ballot} {effect : SideEffect} {env : DispatchEnv} :
    (∀ call ∈ (state.dispatch policies ballot effect env).log, P call) ↔
      (∀ call ∈ state.log, P call) ∧
        ∀ sent ∈ (dispatchSideEffect policies state.view ballot.isSome effect env).sent,
          P { sent, secureMode := state.view.secureMode, ballot } := by
  rw [TuiState.dispatch, forall_mem_append, forall_mem_map]

/-- A step keeps the log gated exactly when it meets the condition. -/
theorem step_gated_iff (hstep : state.step policies event = some next) (hsound : state.Sound) :
    (∀ call ∈ next.log, call.Gated policies) ↔ (∀ call ∈ state.log, call.Gated policies) ∧
        QueueInStep policies state event := by
  revert hstep
  fun_cases TuiState.step policies state event <;>
    simp only [Option.some.injEq, reduceCtorEq, false_implies] <;> rintro rfl
  case case2 effect env =>
    rw [forall_mem_dispatch_log]
    refine and_congr_right fun _ => gated_of_none.trans ?_
    unfold dispatchSideEffect
    split
    next ops => exact queue_not_governed_iff
    next hdirect =>
      have hcondition : QueueInStep policies state (.dispatch effect env) := by
        unfold QueueInStep
        split
        next heq =>
          cases heq
          exact absurd rfl (hdirect _)
        next => trivial
      exact iff_of_true (fun sent => direct_not_governed) hcondition
  case case7 task env heard hheard _ approvers happroved =>
    have htask := mem_of_getElem? hheard
    rw [forall_mem_dispatch_log]
    refine and_congr_right fun _ => iff_of_true ?_ trivial
    intro sent hsent _
    have htarget := target_mem_of_sent hsent
    rw [hsound.single heard htask, mem_singleton] at htarget
    exact ⟨_, rfl, htarget.symm, hsound.enough heard htask approvers happroved⟩
  all_goals exact (and_iff_left trivial).symm

theorem start_sound (view : TuiView) : (TuiState.start view).Sound := by
  constructor <;> intro entry hentry <;> cases hentry

end Runs

namespace GateWitness

def policies : List Policy :=
  [{ action := "delete", target := "tag:prod", channel := "telegram", require := 2 }]

def guest : Guest where
  vmid := 101
  status := .stopped
  guestType := .qemu
  node := "pve1"
  uptime := 0
  tags := "prod"
  lock := ""
  hastate := ""
  netin := 0
  netout := 0

def deletion : QueuedOp where
  id := "1-0"
  action := .deleteGuest 101
  description := "Delete Guest 101 (db)"
  diff := "- 101 db"
  status := .pending
  createdAtSecs := 0
  bypassPreflight := false

/-- The write-ahead succeeds, the cluster finds the guest and the request for
approval is delivered. -/
def env : DispatchEnv where
  saved := true
  answers _ :=
    { lookup := .ok guest, txnId := "a1", telegram := .delivered, now := 0 }

/-- Before the first refresh the reducer knows no guest. -/
def unaware : TuiView := { guests := [], secureMode := false }

def aware : TuiView := { guests := [guest], secureMode := false }

def answered : List TuiEvent :=
  [.dispatch (.executeQueue [deletion]) env, .callback "a1" .approve 7 1,
    .callback "a1" .approve 8 2, .deliver 0 env]

end GateWitness

end Proxxx
