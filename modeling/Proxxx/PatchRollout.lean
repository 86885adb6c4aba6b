/-
What a rolling upgrade sends, and when: the commands follow the plan, a failure
ends them, and a node is left alone until the nodes rebooted before it are back.
The last holds as far as the polls of a reboot wait tell the truth, since a poll
without an answer counts as a node that is down.
-/
import Proxxx.PatchOrchestrator
import Proxxx.StepSystem

namespace Proxxx

open Orchestrator List

@[simp]
theorem NodeLog.acts_after {α : Type} (acts : List Act) (run : NodeLog α) :
    (NodeLog.after acts run).acts = acts ++ run.acts := rfl

@[simp]
theorem NodeLog.result_after {α : Type} (acts : List Act) (run : NodeLog α) :
    (NodeLog.after acts run).result = run.result := rfl

/-- The node was down at some poll, and then or later it was listed online. -/
def CameBack (node : String) (acts : List Act) : Prop :=
  ∃ before poll after, acts = before ++ .nodes poll :: after ∧ poll.online node = true ∧
    ∃ earlier, Act.nodes earlier ∈ before ++ [.nodes poll] ∧ earlier.wentDown = true

/-- A poll that does not list the node online falls into a time when it was
down. -/
def Poll.Telling (node : String) (poll : Poll) : Prop :=
  poll.online node = false → poll.wentDown = true

/-- Every reboot order is followed by the node's return. -/
def Awaited (node : String) (acts : List Act) : Prop :=
  ∀ early late, acts = early ++ .reboot :: late → CameBack node late

/-- The commands a plan can lead to, from a position on. -/
def commandsFrom : Nat → List NodePlan → List PatchEvent
  | _, [] => []
  | position, entry :: rest =>
    eventsAt position entry [.upgrade, .reboot] ++ commandsFrom (position + 1) rest

def PatchEvent.isCommand (event : PatchEvent) : Bool :=
  event.act.isCommand

/-- The acts at one position of the plan. -/
def actsAt (position : Nat) (events : List PatchEvent) : List Act :=
  (events.filter (·.position == position)).map (·.act)

/-- Nothing is sent to a node before the nodes that were ordered to reboot
earlier in the plan have been down and are listed online again. -/
def WaitsForReboots (events : List PatchEvent) : Prop :=
  ∀ before event after, events = before ++ event :: after → event.act.isSent = true →
    ∀ early order late, before = early ++ order :: late →
      order.act = .reboot → order.position < event.position →
      CameBack order.node (actsAt order.position late)

def NodeAnswers.UpgradeFails (answers : NodeAnswers) : Prop :=
  (∃ e, answers.writeAhead = .error e) ∨ (∃ e, answers.upgrade = .error e) ∨
    ∃ res, answers.upgrade = .ok res ∧ res.ok = false

/-- The positions count from `first`.  A node that fails is the last one anything
is done about, and the entries behind it stay as they were. -/
structure StopsAtFailure (first : Nat) (nodes : List NodePlan)
    (answers : Nat → NodeAnswers) (run : Applied) : Prop where
  failed : ∀ patched, run.result = .ok patched →
    ∀ k entry ended, nodes[k]? = some entry → patched[k]? = some ended →
      ended.status.isFailed = true → entry.status.isFailed = false →
      (∀ event ∈ run.events, event.position ≤ first + k) ∧ patched.drop (k + 1) = nodes.drop (k + 1)
  halted : (∀ patched, run.result ≠ .ok patched) →
    ∃ k < nodes.length, (answers (first + k)).UpgradeFails ∧
      ∀ event ∈ run.events, event.position ≤ first + k

section Wait

variable {node : String} {timeout : Nat} {polls : List Poll}

/-- The flag stands for a poll that did not list the node online. -/
theorem waitForReboot_came_back (htelling : ∀ poll ∈ polls, poll.Telling node) {sawOffline : Bool}
    {detail : NodeStatusDetail}
    (hback : (waitForReboot node timeout sawOffline polls).result = .ok detail) :
    ∃ before poll after, (waitForReboot node timeout sawOffline polls).acts =
        before ++ .nodes poll :: after ∧
      poll.online node = true ∧
      (sawOffline = true ∨ ∃ earlier, Act.nodes earlier ∈ before ∧ earlier.wentDown = true) := by
  fun_induction waitForReboot node timeout sawOffline polls with
  | case1 => cases hback
  | case2 sawOffline poll rest hclock hoffline ih =>
    obtain ⟨hpoll, hrest⟩ := forall_mem_cons.mp htelling
    obtain ⟨before, found, after, hacts, hfound, -⟩ := ih hrest hback
    refine ⟨.nodes poll :: before, found, after, congrArg (Act.nodes poll :: ·) hacts, hfound, ?_⟩
    exact .inr ⟨poll, mem_cons_self, hpoll (by simpa using hoffline)⟩
  | case3 sawOffline poll rest hclock honline hunseen ih =>
    obtain ⟨-, hrest⟩ := forall_mem_cons.mp htelling
    obtain ⟨before, found, after, hacts, hfound, hdown⟩ := ih hrest hback
    obtain ⟨earlier, hmem, hwent⟩ := hdown.resolve_left (by simp)
    refine ⟨.nodes poll :: before, found, after, congrArg (Act.nodes poll :: ·) hacts, hfound, ?_⟩
    exact .inr ⟨earlier, mem_cons_of_mem _ hmem, hwent⟩
  | case4 sawOffline poll rest hclock honline hseen =>
    exact ⟨[], poll, [.status], rfl, by simpa using honline, .inl (by simpa using hseen)⟩
  | case5 sawOffline poll rest hclock honline hseen =>
    exact ⟨[], poll, _, rfl, by simpa using honline, .inl (by simpa using hseen)⟩
  | case6 => cases hback

theorem CameBack.of_waitForReboot
    (htelling : ∀ poll ∈ polls, poll.Telling node) {detail : NodeStatusDetail}
    (hback : (waitForReboot node timeout false polls).result = .ok detail) :
    CameBack node (waitForReboot node timeout false polls).acts := by
  obtain ⟨before, poll, after, hacts, honline, hdown⟩ := waitForReboot_came_back htelling hback
  obtain ⟨earlier, hmem, hwent⟩ := hdown.resolve_left (by simp)
  exact ⟨before, poll, after, hacts, honline, earlier, mem_append_left _ hmem, hwent⟩

/-- A wait only reads. -/
theorem isCommand_waitForReboot {sawOffline : Bool} :
    ∀ act ∈ (waitForReboot node timeout sawOffline polls).acts, act.isCommand = false := by
  fun_induction waitForReboot node timeout sawOffline polls
  all_goals simp_all [Act.isCommand]

end Wait

section Node

variable {node : String} {strategy : PatchStrategy} {entry patched : NodePlan}
  {answers : NodeAnswers} {acts : List Act}

theorem CameBack.within (hback : CameBack node acts)
    (first last : List Act) : CameBack node (first ++ acts ++ last) := by
  obtain ⟨before, poll, after, rfl, honline, earlier, hmem, hwent⟩ := hback
  refine ⟨first ++ before, poll, after ++ last, by simp, honline, earlier, ?_, hwent⟩
  rw [append_assoc]
  exact mem_append_right first hmem

theorem CameBack.exists_down (hback : CameBack node acts) : acts.any (fun act => match act with
      | .nodes poll => poll.wentDown
      | _ => false) = true := by
  obtain ⟨before, poll, after, rfl, -, earlier, hmem, hwent⟩ := hback
  refine any_eq_true.mpr ⟨.nodes earlier, ?_, hwent⟩
  rw [append_cons]
  exact mem_append_left after hmem

theorem Awaited.of_no_reboot (hnone : Act.reboot ∉ acts) : Awaited node acts := by
  intro early late hacts
  exact absurd (by simp [hacts]) hnone

theorem Awaited.append {first : List Act} (hnone : Act.reboot ∉ first)
    (hacts : Awaited node acts) : Awaited node (first ++ acts) := by
  intro early late hsplit
  rcases StepSystem.place_of_append hsplit with
    ⟨front, -, hrest⟩ | ⟨back, hfirst, -⟩
  · exact hacts front late hrest
  · exact absurd (by simp [hfirst]) hnone

theorem Awaited.order {late : List Act} (hnone : Act.reboot ∉ late)
    (hback : CameBack node late) : Awaited node (.reboot :: late) := by
  intro early rest hsplit
  cases early with
  | nil => exact (List.cons.inj hsplit).2 ▸ hback
  | cons head tail =>
    have hlate : late = tail ++ .reboot :: rest := (List.cons.inj hsplit).2
    exact absurd (by simp [hlate]) hnone

theorem reboot_not_mem_waitForReboot {timeout : Nat} {sawOffline : Bool} {polls : List Poll} :
    Act.reboot ∉ (waitForReboot node timeout sawOffline polls).acts := by
  intro hmem
  exact absurd (isCommand_waitForReboot _ hmem) (by decide)

/-- All that the reboot phase can come to. -/
inductive RebootCourse (strategy : PatchStrategy) (entry : NodePlan)
    (answers : NodeAnswers) : NodeLog NodeEnd → Prop where
  | without (first : List Act) (hquiet : ∀ act ∈ first, act.isCommand = false) :
      RebootCourse strategy entry answers (.after first (entry.finish false))
  | failed (middle : List Act) (phase : String) (e : PatchError)
      (hquiet : ∀ act ∈ middle, act.isCommand = false) :
      RebootCourse strategy entry answers
        (.after (.progress .reboot :: .reboot :: middle) (entry.fail phase e))
  | returned (waited : NodeLog (Except PatchError NodeStatusDetail))
      (post : NodeStatusDetail)
      (hwaited : waited = waitForReboot entry.node strategy.rebootWaitTimeout
        false answers.polls)
      (hpost : waited.result = .ok post) :
      RebootCourse strategy entry answers
        (.after (.progress .reboot :: .reboot :: .progress .waitReboot ::
          waited.acts) ({ entry with kernelAfter := some post.kversion }.finish
            true))

theorem rebootCourse : RebootCourse strategy entry answers
    (rebootPhase strategy entry answers) := by
  unfold rebootPhase
  split
  · split
    · exact .without [.progress .reboot] (by simp [Act.isCommand])
    · split
      · rename_i e _
        exact .failed [] "reboot" e (by simp)
      · dsimp only
        split
        · rename_i post hpost
          exact .returned _ post rfl hpost
        · rename_i e _
          refine .failed (.progress .waitReboot :: (waitForReboot entry.node
            strategy.rebootWaitTimeout false answers.polls).acts) _ e ?_
          simpa [Act.isCommand] using isCommand_waitForReboot
  · exact .without [] (by simp)

/-- All that the work on a node can come to. -/
inductive NodeCourse (strategy : PatchStrategy) (entry : NodePlan)
    (answers : NodeAnswers) : NodeLog NodeEnd → Prop where
  | settled :
      NodeCourse strategy entry answers
        { acts := [.progress entry.status], result := .next entry }
  | halted (run : NodeLog NodeEnd) (hfails : answers.UpgradeFails)
      (hcommands : (run.acts.filter Act.isCommand).Sublist [.upgrade])
      (hend : ∀ patched, run.result ≠ .next patched) :
      NodeCourse strategy entry answers run
  | upgraded (first : List Act) (started : NodePlan) (run : NodeLog NodeEnd)
      (hcommands : (first.filter Act.isCommand).Sublist [.upgrade])
      (hnode : started.node = entry.node)
      (hrun : RebootCourse strategy started answers run) :
      NodeCourse strategy entry answers (.after first run)

theorem runUpgrade_commands :
    ((runUpgrade node answers).acts.filter Act.isCommand).Sublist [.upgrade] := by
  unfold runUpgrade
  split
  · simp
  · split
    · simp [Act.isCommand]
    · split
      · simp [Act.isCommand]
      · split <;> simp [Act.isCommand]

theorem upgradeFails_of_runUpgrade {halt : UpgradeHalt}
    (hhalt : (runUpgrade node answers).result = .error halt) :
    answers.UpgradeFails := by
  unfold runUpgrade at hhalt
  split at hhalt
  · rename_i e hwrite
    exact .inl ⟨e, hwrite⟩
  · split at hhalt
    · rename_i e hupgrade
      exact .inr (.inl ⟨e, hupgrade⟩)
    · rename_i res hupgrade
      cases hok : res.ok with
      | true => simp [hok] at hhalt
      | false => exact .inr (.inr ⟨res, hupgrade, hok⟩)

theorem nodeCourse_upgradePhase (first : List Act) (started : NodePlan)
    (hfirst : ∀ act ∈ first, act.isCommand = false)
    (hnode : started.node = entry.node) :
    NodeCourse strategy entry answers (.after first (upgradePhase strategy started answers)) := by
  have hnone : first.filter Act.isCommand = [] := by simpa [filter_eq_nil_iff] using hfirst
  have hcommands : ((first ++ (runUpgrade started.node answers).acts).filter
      Act.isCommand).Sublist [.upgrade] := by
    rw [filter_append, hnone]
    exact runUpgrade_commands
  unfold upgradePhase
  split
  · exact .upgraded first started _ (by simp [hnone]) hnode rebootCourse
  · dsimp only
    cases hupgraded : (runUpgrade started.node answers).result with
    | ok =>
      have hcourse : NodeCourse strategy entry answers
          (.after (first ++ (runUpgrade started.node answers).acts)
            (rebootPhase strategy started answers)) :=
        .upgraded _ started _ hcommands hnode rebootCourse
      simpa [NodeLog.after] using hcourse
    | error halt =>
      have hfails := upgradeFails_of_runUpgrade hupgraded
      cases halt with
      | failed e =>
        dsimp only
        split
        · exact .halted _ hfails (by simpa using hcommands) (by simp)
        · refine .halted _ hfails ?_ (by simp [NodePlan.fail])
          simpa [NodePlan.fail, Act.isCommand] using hcommands
      | panicked => exact .halted _ hfails (by simpa using hcommands) (by simp)

theorem nodeCourse : NodeCourse strategy entry answers (patchNode strategy entry answers) := by
  unfold patchNode
  split
  · exact .settled
  · exact .settled
  · exact nodeCourse_upgradePhase _ _ (by simp [Act.isCommand]) rfl

variable {run : NodeLog NodeEnd}

/-- The node is done only behind its return. -/
theorem RebootCourse.awaited (hcourse : RebootCourse strategy entry answers run)
    (htelling : ∀ poll ∈ answers.polls, poll.Telling entry.node)
    (hnext : run.result = .next patched) : Awaited entry.node run.acts := by
  cases hcourse with
  | without first hquiet =>
    refine Awaited.append ?_ (Awaited.of_no_reboot (by simp [NodePlan.finish]))
    exact fun hmem => absurd (hquiet _ hmem) (by decide)
  | failed => simp [NodePlan.fail] at hnext
  | returned waited post hwaited hpost =>
    subst hwaited
    have hback := CameBack.of_waitForReboot htelling hpost
    rw [NodeLog.acts_after, cons_append]
    have hfirst : Act.reboot ∉ [Act.progress .reboot] := by simp
    refine Awaited.append hfirst (Awaited.order ?_ ?_)
    · simp [NodePlan.finish, reboot_not_mem_waitForReboot]
    · exact hback.within [.progress .waitReboot] _

theorem RebootCourse.commands (hcourse : RebootCourse strategy entry answers run) :
    (run.acts.filter Act.isCommand).Sublist [.reboot] := by
  cases hcourse with
  | without first hquiet =>
    have hnone : first.filter Act.isCommand = [] := by simpa [filter_eq_nil_iff] using hquiet
    simp [NodePlan.finish, hnone, Act.isCommand]
  | failed middle phase e hquiet =>
    have hnone : middle.filter Act.isCommand = [] := by simpa [filter_eq_nil_iff] using hquiet
    simp [NodePlan.fail, hnone, filter_cons, Act.isCommand]
  | returned waited post hwaited hpost =>
    have hnone : waited.acts.filter Act.isCommand = [] := by
      rw [hwaited]
      simpa [filter_eq_nil_iff] using isCommand_waitForReboot
    simp [NodePlan.finish, hnone, filter_cons, Act.isCommand]

/-- A node that the plan goes on from is done. -/
theorem RebootCourse.result (hcourse : RebootCourse strategy entry answers run) :
    (∃ patched, run.result = .stop patched) ∨ ∃ patched, run.result = .next patched ∧
        patched.status.isFailed = false := by
  cases hcourse with
  | without => exact .inr ⟨_, rfl, rfl⟩
  | failed => exact .inl ⟨_, rfl⟩
  | returned => exact .inr ⟨_, rfl, rfl⟩

theorem NodeCourse.awaited (hcourse : NodeCourse strategy entry answers run)
    (htelling : ∀ poll ∈ answers.polls, poll.Telling entry.node)
    (hnext : run.result = .next patched) : Awaited entry.node run.acts := by
  cases hcourse with
  | settled => exact Awaited.of_no_reboot (by simp)
  | halted _ _ _ hend => exact absurd hnext (hend patched)
  | upgraded first started run hcommands hnode hrun =>
    rw [← hnode] at htelling ⊢
    refine Awaited.append ?_ (hrun.awaited htelling hnext)
    intro hmem
    have hreboot : Act.reboot ∈ first.filter Act.isCommand := mem_filter.mpr ⟨hmem, rfl⟩
    simpa using hcommands.subset hreboot

theorem NodeCourse.commands (hcourse : NodeCourse strategy entry answers run) :
    (run.acts.filter Act.isCommand).Sublist [.upgrade, .reboot] := by
  cases hcourse with
  | settled => simp [Act.isCommand]
  | halted run hfails hcommands hend =>
    exact hcommands.trans (sublist_append_left [Act.upgrade] [Act.reboot])
  | upgraded first started run hcommands hnode hrun =>
    rw [NodeLog.acts_after, filter_append]
    exact hcommands.append hrun.commands

/-- A node the plan goes on from has failed only if it had failed before. -/
theorem NodeCourse.next (hcourse : NodeCourse strategy entry answers run)
    (hnext : run.result = .next patched) (hfailed : patched.status.isFailed = true) :
    entry.status.isFailed = true := by
  cases hcourse with
  | settled =>
    cases hnext
    exact hfailed
  | halted _ _ _ hend => exact absurd hnext (hend patched)
  | upgraded first started run hcommands hnode hrun =>
    rcases hrun.result with ⟨stopped, hstop⟩ | ⟨done, hdone, hstatus⟩
    · rw [NodeLog.result_after, hstop] at hnext
      cases hnext
    · rw [NodeLog.result_after, hdone] at hnext
      cases hnext
      rw [hstatus] at hfailed
      cases hfailed

/-- The call ends without a plan only at an upgrade that failed. -/
theorem NodeCourse.upgradeFails (hcourse : NodeCourse strategy entry answers run)
    (hnext : ∀ patched, run.result ≠ .next patched)
    (hstop : ∀ patched, run.result ≠ .stop patched) : answers.UpgradeFails := by
  cases hcourse with
  | settled => exact absurd rfl (hnext entry)
  | halted _ hfails => exact hfails
  | upgraded first started run hcommands hnode hrun =>
    rcases hrun.result with ⟨stopped, hend⟩ | ⟨done, hend, -⟩
    · exact absurd hend (hstop stopped)
    · exact absurd hend (hnext done)

end Node

section Loop

variable {strategy : PatchStrategy} {answers : Nat → NodeAnswers}
  {position : Nat} {nodes : List NodePlan} {entry : NodePlan} {acts : List Act}

theorem position_eventsAt : ∀ event ∈ eventsAt position entry acts, event.position = position := by
  simp [eventsAt]

/-- The loop goes on behind a node, or it ends there: with the plan as far as it
got, or without one at a failed upgrade. -/
theorem patchLoop_cons (strategy : PatchStrategy) (answers : Nat → NodeAnswers)
    (position : Nat) (entry : NodePlan) (rest : List NodePlan) :
    (∃ patched, (patchNode strategy entry (answers position)).result = .next patched ∧
      Orchestrator.applyFrom strategy answers position (entry :: rest) =
        { events := eventsAt position entry
            (patchNode strategy entry (answers position)).acts ++
            (Orchestrator.applyFrom strategy answers (position + 1) rest).events,
          result := (Orchestrator.applyFrom strategy answers (position + 1)
            rest).result.cons patched }) ∨
    (Orchestrator.applyFrom strategy answers position (entry :: rest)).events =
        eventsAt position entry (patchNode strategy entry (answers position)).acts ∧
      ((∃ patched, (Orchestrator.applyFrom strategy answers position
            (entry :: rest)).result = .ok (patched :: rest)) ∨
        (answers position).UpgradeFails ∧ ∀ patched,
          (Orchestrator.applyFrom strategy answers position
            (entry :: rest)).result ≠ .ok patched) := by
  rw [Orchestrator.applyFrom]
  dsimp only
  have hcourse : NodeCourse strategy entry (answers position) _ := nodeCourse
  cases hresult : (patchNode strategy entry (answers position)).result with
  | next patched => exact .inl ⟨patched, rfl, rfl⟩
  | stop patched => exact .inr ⟨rfl, .inl ⟨patched, rfl⟩⟩
  | refused | panicked =>
    have hfails := hcourse.upgradeFails (by simp [hresult]) (by simp [hresult])
    exact .inr ⟨rfl, .inr ⟨hfails, by simp⟩⟩

theorem position_applyFrom :
    ∀ event ∈ (Orchestrator.applyFrom strategy answers position nodes).events,
      position ≤ event.position := by
  induction nodes generalizing position with
  | nil => simp [Orchestrator.applyFrom]
  | cons entry rest ih =>
    intro event hevent
    rcases patchLoop_cons strategy answers position entry rest with
      ⟨patched, -, hrun⟩ | ⟨hevents, -⟩
    · rw [hrun] at hevent
      rcases mem_append.mp hevent with hhere | hlater
      · exact (position_eventsAt event hhere).ge
      · exact (Nat.le_succ position).trans (ih event hlater)
    · rw [hevents] at hevent
      exact (position_eventsAt event hevent).ge

theorem applyFrom_commands : ((Orchestrator.applyFrom strategy answers position nodes).events.filter
    PatchEvent.isCommand).Sublist (commandsFrom position nodes) := by
  induction nodes generalizing position with
  | nil => simp [Orchestrator.applyFrom, commandsFrom]
  | cons entry rest ih =>
    have hhere : ((eventsAt position entry
        (patchNode strategy entry (answers position)).acts).filter PatchEvent.isCommand).Sublist
        (eventsAt position entry [.upgrade, .reboot]) := by
      unfold eventsAt
      rw [filter_map]
      exact nodeCourse.commands.map _
    rcases patchLoop_cons strategy answers position entry rest with
      ⟨patched, -, hrun⟩ | ⟨hevents, -⟩
    · rw [hrun, filter_append]
      exact hhere.append ih
    · rw [hevents]
      exact hhere.trans (sublist_append_left _ _)

theorem ApplyEnd.cons_eq_ok {result : ApplyEnd} {patched : List NodePlan} :
    result.cons entry = .ok patched ↔ ∃ rest, result = .ok rest ∧ patched = entry :: rest := by
  cases result with
  | ok rest =>
    constructor
    · rintro ⟨⟩
      exact ⟨rest, rfl, rfl⟩
    · rintro ⟨_, ⟨⟩, rfl⟩
      rfl
  | error | panicked => simp [ApplyEnd.cons]

theorem stopsAtFailure_applyFrom : StopsAtFailure position nodes answers
    (Orchestrator.applyFrom strategy answers position nodes) := by
  induction nodes generalizing position with
  | nil => exact ⟨by simp, fun h => absurd rfl (h [])⟩
  | cons entry rest ih =>
    rcases patchLoop_cons strategy answers position entry rest with
      ⟨patched, hnext, hrun⟩ | ⟨hevents, ⟨patched, hstop⟩ | ⟨hfails, hhalt⟩⟩
    · have hlater := @ih (position + 1)
      have hbound (k : Nat) (hlast : ∀ event ∈ (Orchestrator.applyFrom strategy answers
          (position + 1) rest).events, event.position ≤ position + 1 + k) :
          ∀ event ∈ eventsAt position entry (patchNode strategy entry (answers position)).acts ++
            (Orchestrator.applyFrom strategy answers (position + 1) rest).events,
            event.position ≤ position + (k + 1) := by
        intro event hevent
        rcases mem_append.mp hevent with hhere | hthere
        · have hposition := position_eventsAt event hhere
          omega
        · have hposition := hlast event hthere
          omega
      rw [hrun]
      constructor
      · intro all hall k before ended hbefore hended hfailed hfresh
        obtain ⟨others, hothers, rfl⟩ := ApplyEnd.cons_eq_ok.mp hall
        cases k with
        | zero =>
          cases hbefore
          cases hended
          rw [nodeCourse.next hnext hfailed] at hfresh
          cases hfresh
        | succ k =>
          obtain ⟨hlast, hdrop⟩ := hlater.failed others hothers k before ended
            hbefore hended hfailed hfresh
          exact ⟨hbound k hlast, hdrop⟩
      · intro hnot
        have hnone : ∀ others,
            (Orchestrator.applyFrom strategy answers (position + 1) rest).result ≠ .ok others :=
          fun others hothers => hnot _ (ApplyEnd.cons_eq_ok.mpr ⟨others, hothers, rfl⟩)
        obtain ⟨k, hk, hfails, hlast⟩ := hlater.halted hnone
        refine ⟨k + 1, Nat.succ_lt_succ hk, ?_, hbound k hlast⟩
        rwa [show position + (k + 1) = position + 1 + k by omega]
    · constructor
      · intro all hall k before ended hbefore hended hfailed hfresh
        rw [hstop] at hall
        cases hall
        cases k with
        | zero =>
          refine ⟨?_, rfl⟩
          rw [hevents]
          exact fun event hevent => (position_eventsAt event hevent).le
        | succ k =>
          -- Behind the failed node nothing has changed.
          rw [List.getElem?_cons_succ] at hbefore hended
          rw [hbefore] at hended
          cases hended
          rw [hfailed] at hfresh
          cases hfresh
      · exact fun hnot => absurd hstop (hnot _)
    · constructor
      · exact fun all hall => absurd hall (hhalt all)
      · intro _
        refine ⟨0, Nat.succ_pos _, hfails, ?_⟩
        rw [hevents]
        exact fun event hevent => (position_eventsAt event hevent).le

theorem actsAt_eventsAt : actsAt position (eventsAt position entry acts) = acts := by
  simp [actsAt, eventsAt, filter_map, Function.comp_def]

theorem actsAt_append (first last : List PatchEvent)
    (hlast : ∀ event ∈ last, event.position ≠ position) :
    actsAt position (first ++ last) = actsAt position first := by
  have hnone : last.filter (·.position == position) = [] := by simpa [filter_eq_nil_iff] using hlast
  simp [actsAt, filter_append, hnone]

/-- One more node in front: it is back when a later node is sent anything. -/
theorem WaitsForReboots.cons {later : List PatchEvent} (hawaited : Awaited entry.node acts)
    (hlater : WaitsForReboots later)
    (hposition : ∀ event ∈ later, position < event.position) :
    WaitsForReboots (eventsAt position entry acts ++ later) := by
  intro before event after hsplit hsent early order late hbefore horder hbehind
  rcases StepSystem.place_of_append hsplit with
    ⟨front, rfl, hrest⟩ | ⟨back, hhere, -⟩
  · rcases StepSystem.place_of_append hbefore with
      ⟨middle, -, hmiddle⟩ | ⟨rest, hhere, rfl⟩
    · exact hlater front event after hrest hsent middle order late hmiddle horder hbehind
    · obtain ⟨sofar, others, rfl, -, hothers⟩ := map_eq_append_iff.mp hhere
      obtain ⟨act, waiting, rfl, rfl, rfl⟩ := map_eq_cons_iff.mp hothers
      have hfront : ∀ other ∈ front, other.position ≠ position := by
        intro other hother
        exact (hposition other (by simp [hrest, hother])).ne'
      rw [actsAt_append _ _ hfront]
      obtain rfl : act = .reboot := horder
      have hwaiting : actsAt position (eventsAt position entry waiting) = waiting := actsAt_eventsAt
      unfold eventsAt at hwaiting
      rw [hwaiting]
      exact hawaited sofar waiting rfl
  · -- The event is about this node, as is everything before it.
    have hevent : event ∈ eventsAt position entry acts := by simp [hhere]
    have hearlier : order ∈ eventsAt position entry acts := by simp [hhere, hbefore]
    have heventAt := position_eventsAt event hevent
    have horderAt := position_eventsAt order hearlier
    omega

theorem WaitsForReboots.of_same_position {events : List PatchEvent}
    (hsame : ∀ event ∈ events, event.position = position) :
    WaitsForReboots events := by
  rintro before event after rfl - early order late rfl - hbehind
  have hevent := hsame event (by simp)
  have horder := hsame order (by simp)
  omega

/-- The polls the nodes of a plan are answered, from a position on. -/
def TellingPolls (answers : Nat → NodeAnswers) (position : Nat) (nodes : List NodePlan) : Prop :=
  ∀ k entry, nodes[k]? = some entry →
    ∀ poll ∈ (answers (position + k)).polls, poll.Telling entry.node

theorem waitsForReboots_applyFrom (htelling : TellingPolls answers position nodes) : WaitsForReboots
    (Orchestrator.applyFrom strategy answers position nodes).events := by
  induction nodes generalizing position with
  | nil => exact @WaitsForReboots.of_same_position position _ (by simp [Orchestrator.applyFrom])
  | cons entry rest ih =>
    rcases patchLoop_cons strategy answers position entry rest with
      ⟨patched, hnext, hrun⟩ | ⟨hevents, -⟩
    · rw [hrun]
      refine WaitsForReboots.cons ?_ (ih ?_) position_applyFrom
      · exact nodeCourse.awaited (htelling 0 entry rfl) hnext
      · intro k other hother
        have hpolls := htelling (k + 1) other hother
        rwa [show position + (k + 1) = position + 1 + k by omega] at hpolls
    · rw [hevents]
      exact WaitsForReboots.of_same_position position_eventsAt

end Loop

/-- The commands follow the plan, a failure ends them, and a node is sent nothing
before the nodes ordered to reboot ahead of it are back: the last where every
poll of a reboot wait without the node online falls into its downtime. -/
theorem patch_rollout_ordered (strategy : PatchStrategy)
    (answers : Nat → NodeAnswers) (nodes : List NodePlan) :
    ((Orchestrator.apply strategy answers nodes).events.filter
        PatchEvent.isCommand).Sublist (commandsFrom 0 nodes) ∧
      (StopsAtFailure 0 nodes answers (Orchestrator.apply strategy answers nodes) ∨
        strategy.maxConcurrent ≠ 1 ∧ (Orchestrator.apply strategy answers nodes).events = []) ∧
      (TellingPolls answers 0 nodes →
        WaitsForReboots (Orchestrator.apply strategy answers nodes).events) := by
  unfold Orchestrator.apply
  split
  · rename_i hserial
    refine ⟨by simp, .inr ⟨by simpa using hserial, rfl⟩, fun _ => ?_⟩
    exact @WaitsForReboots.of_same_position 0 _ (by simp)
  · exact ⟨applyFrom_commands, .inl stopsAtFailure_applyFrom, waitsForReboots_applyFrom⟩

section FailedUpgrade

/-- The text has no more than `n` bytes, or a character begins `n` bytes before
its end. -/
def CutsAt (text : String) (n : Nat) : Prop :=
  text.utf8ByteSize ≤ n ∨ ∃ front back, text = front ++ back ∧ back.utf8ByteSize = n

theorem exists_tail_iff {text : String} {n : Nat} :
    (∃ last, tail text n = some last) ↔ CutsAt text n := by
  unfold Orchestrator.tail CutsAt
  split
  · rename_i hshort
    exact iff_of_true ⟨text, rfl⟩ (.inl hshort)
  · rename_i hlong
    rw [or_iff_right hlong, ← Option.isSome_iff_exists, List.find?_isSome]
    simp only [mem_map, mem_tails, beq_iff_eq]
    constructor
    · rintro ⟨_, ⟨chars, ⟨front, hfront⟩, rfl⟩, hsize⟩
      refine ⟨.ofList front, .ofList chars, ?_, hsize⟩
      rw [← String.ofList_append, hfront, String.ofList_toList]
    · rintro ⟨front, back, rfl, hsize⟩
      exact ⟨back, ⟨back.toList, ⟨front.toList, by simp⟩, by simp⟩, hsize⟩

/-- The cut falls into the character in front. -/
theorem not_cutsAt_wide {rest : List Char} {n : Nat}
    (hsize : (String.ofList ('é' :: rest)).utf8ByteSize = n + 1) :
    ¬CutsAt (.ofList ('é' :: rest)) n := by
  rintro (hshort | ⟨front, back, htext, hback⟩)
  · omega
  · have hfront : front.utf8ByteSize = 1 := by
      rw [htext, String.utf8ByteSize_append] at hsize
      omega
    have hlist := congrArg String.toList htext
    rw [String.toList_ofList, String.toList_append] at hlist
    cases hchars : front.toList with
    | nil =>
      rw [String.toList_eq_nil_iff.mp hchars] at hfront
      cases hfront
    | cons first others =>
      rw [hchars] at hlist
      obtain ⟨rfl, -⟩ := List.cons.inj hlist
      have hwide : front = "é" ++ String.ofList others := String.toList_injective (by simp [hchars])
      have hfirst : "é".utf8ByteSize = 2 := by decide
      rw [hwide, String.utf8ByteSize_append] at hfront
      omega

variable {strategy : PatchStrategy} {answers : Nat → NodeAnswers}

/-- The loop goes through the nodes in front. -/
theorem applyFrom_append {position : Nat} {front : List NodePlan}
    (hfront : ∀ k entry, front[k]? = some entry → ∃ patched,
      (patchNode strategy entry (answers (position + k))).result = .next patched)
    (rest : List NodePlan) :
    ∃ patched : List NodePlan, (Orchestrator.applyFrom strategy answers position (front ++ rest)).result =
        patched.foldr ApplyEnd.cons
          (Orchestrator.applyFrom strategy answers (position + front.length) rest).result := by
  induction front generalizing position with
  | nil => exact ⟨[], rfl⟩
  | cons entry others ih =>
    obtain ⟨patched, hpatched⟩ := hfront 0 entry rfl
    obtain ⟨later, hlater⟩ := ih fun k other hother => by
      have hnext := hfront (k + 1) other hother
      rwa [show position + (k + 1) = position + 1 + k by omega] at hnext
    refine ⟨patched :: later, ?_⟩
    rw [cons_append, Orchestrator.applyFrom]
    simp only [Nat.add_zero] at hpatched
    simp only [hpatched, hlater, length_cons, foldr_cons]
    rw [show position + 1 + others.length = position + (others.length + 1) by omega]

theorem foldr_cons_ok (patched rest : List NodePlan) :
    patched.foldr ApplyEnd.cons (.ok rest) = .ok (patched ++ rest) := by
  induction patched with
  | nil => rfl
  | cons entry others ih => rw [foldr_cons, ih, ApplyEnd.cons, cons_append]

/-- An upgrade that exits with a failure is reported as such, and the later nodes
stay as they are, exactly if its messages can be cut at 500 bytes. -/
theorem failed_upgrade_reported_iff {front rest : List NodePlan} {entry : NodePlan}
    (hserial : strategy.maxConcurrent = 1) (hreal : strategy.dryRun = false)
    (hfront : ∀ k other, front[k]? = some other → ∃ patched,
      (patchNode strategy other (answers k)).result = .next patched)
    (hpending : entry.status = .pending)
    (hwritten : (answers front.length).writeAhead = .ok ())
    {res : ExecResult} (hupgrade : (answers front.length).upgrade = .ok res)
    (hexit : res.exitCode ≠ some 0) :
    (∃ e, (runUpgrade entry.node (answers front.length)).result = .error (.failed e)) ∧
      (∃ patched kernelBefore error,
        (Orchestrator.apply strategy answers (front ++ entry :: rest)).result = .ok (patched ++
            { entry with kernelBefore, status := .failed "upgrade" error } :: rest)) ↔
      CutsAt res.stderr 500 := by
  have hok : res.ok = false := by simpa [ExecResult.ok] using hexit
  rw [← exists_tail_iff]
  constructor
  · rintro ⟨⟨e, hfailed⟩, -⟩
    cases htail : tail res.stderr 500 with
    | none => simp [runUpgrade, hwritten, hupgrade, hok, htail] at hfailed
    | some last => exact ⟨last, rfl⟩
  · rintro ⟨last, htail⟩
    refine ⟨by simp [runUpgrade, hwritten, hupgrade, hok, htail], ?_⟩
    obtain ⟨patched, hpatched⟩ := @applyFrom_append strategy answers 0 front
      (by simpa using hfront) (entry :: rest)
    have hstop : ∃ kernelBefore error,
        (Orchestrator.applyFrom strategy answers front.length (entry :: rest)).result =
          .ok ({ entry with kernelBefore, status := .failed "upgrade" error } :: rest) := by
      simp [Orchestrator.applyFrom, patchNode, hpending, upgradePhase, hreal, runUpgrade, hwritten,
        hupgrade, hok, htail, PatchError.msg, NodePlan.fail]
    obtain ⟨kernelBefore, error, hstop⟩ := hstop
    refine ⟨patched, kernelBefore, error, ?_⟩
    rw [Orchestrator.apply, if_neg (by simp [hserial]), hpatched, Nat.zero_add, hstop,
      foldr_cons_ok]

end FailedUpgrade

namespace RolloutWitness

def listed (status : NodeStatus) : Except PatchError (List ListedNode) :=
  .ok [{ node := "pve1", status := status }, { node := "pve2", status := .online }]

def detail : Except PatchError NodeStatusDetail :=
  .ok { uptime := 30, kversion := "6.8.12-4-pve", pveversion := "8.2.4" }

def answered (polls : List Poll) : NodeAnswers where
  before := detail
  writeAhead := .ok ()
  upgrade := .ok { stderr := "", exitCode := some 0 }
  reboot := .ok { stderr := "", exitCode := some 0 }
  polls := polls

def kernelUpgrade (node : String) : NodePlan :=
  .fromInventory node
    [{ package := "proxmox-kernel-6.8", sectionName := "kernel" }]

def nodes : List NodePlan :=
  [kernelUpgrade "pve1", kernelUpgrade "pve2"]

def backOnline : Poll where
  clock := 5000
  listed := listed .online
  detail := detail
  wentDown := false

/-- The first poll finds the node down. -/
def seenDown : Nat → NodeAnswers
  | 0 => answered
      [{ clock := 0, listed := listed .offline, detail := detail, wentDown := true }, backOnline]
  | _ => answered []

/-- The first poll finds no API, and the node is still shutting its guests
down. -/
def unanswered : Nat → NodeAnswers
  | 0 => answered
      [{ clock := 0, listed := .error (.msg "connection reset by peer"),
         detail := detail, wentDown := false }, backOnline]
  | _ => answered []

theorem telling_seenDown : TellingPolls seenDown 0 nodes := by
  intro k entry hentry
  match k with
  | 0 =>
    cases hentry
    intro poll hpoll
    simp only [seenDown, answered, Nat.add_zero, mem_cons, not_mem_nil, or_false] at hpoll
    rcases hpoll with rfl | rfl
    · exact fun _ => rfl
    · exact fun honline => absurd honline (by decide +kernel)
  | k + 1 => simp [seenDown, answered]

theorem patch_rollout_seen_down :
    (((apply {} seenDown nodes).events.filter PatchEvent.isCommand).map
        (·.node) = ["pve1", "pve1", "pve2", "pve2"]) ∧
      WaitsForReboots (apply {} seenDown nodes).events :=
  ⟨by decide +kernel, (patch_rollout_ordered {} seenDown nodes).2.2 telling_seenDown⟩

/-- The next node is upgraded while the first has not been down. -/
theorem patch_rollout_unanswered : (∀ poll ∈ (unanswered 0).polls, poll.wentDown = false) ∧
    ((apply {} unanswered nodes).events.filter PatchEvent.isCommand).map
      (·.node) = ["pve1", "pve1", "pve2", "pve2"] ∧
    ¬ WaitsForReboots (apply {} unanswered nodes).events := by
  refine ⟨by simp [unanswered, answered, backOnline], by decide +kernel, ?_⟩
  intro hwaits
  have hback := hwaits ((apply {} unanswered nodes).events.take 10) _ _ rfl rfl
    ((apply {} unanswered nodes).events.take 4) _ _ rfl rfl (by decide +kernel)
  exact absurd hback.exists_down (by decide +kernel)

/-- The upgrade of every node exits with 100 and these messages. -/
def upgradeFails (stderr : String) : Nat → NodeAnswers :=
  fun _ => { answered [] with upgrade := .ok { stderr, exitCode := some 100 } }

/-- 501 bytes whose first two are one character. -/
def longStderr : String :=
  .ofList ('é' :: List.replicate 499 'x')

theorem apply_upgradeFails {stderr : String} (htail : tail stderr 500 = none)
    {entry : NodePlan} (hpending : entry.status = .pending) (rest : List NodePlan) :
    (apply {} (upgradeFails stderr) (entry :: rest)).result = .panicked := by
  simp [apply, Orchestrator.applyFrom, patchNode, hpending, upgradePhase, runUpgrade, upgradeFails,
    answered, ExecResult.ok, htail]

/-- The call panics. -/
theorem failed_upgrade_panics : (apply {} (upgradeFails longStderr) nodes).result = .panicked := by
  have hsize : longStderr.utf8ByteSize = 500 + 1 := by decide +kernel
  refine apply_upgradeFails ?_ rfl _
  refine Option.eq_none_iff_forall_ne_some.mpr fun last hlast => ?_
  exact not_cutsAt_wide hsize (exists_tail_iff.mp ⟨last, hlast⟩)

theorem failed_upgrade_reported_locked : ∃ patched kernelBefore error,
    (apply {} (upgradeFails "E: dpkg was interrupted") nodes).result =
      .ok (patched ++ { kernelUpgrade "pve1" with
        kernelBefore, status := .failed "upgrade" error } :: [kernelUpgrade "pve2"]) :=
  ((@failed_upgrade_reported_iff {} (upgradeFails "E: dpkg was interrupted") []
    [kernelUpgrade "pve2"] (kernelUpgrade "pve1") rfl rfl (by simp) (by decide)
    rfl _ rfl (by decide)).mpr (.inl (by decide))).2

end RolloutWitness

end Proxxx
