/-
The audit rows of a rolling upgrade.  The upgrade of a node leaves behind a row
that is committed first and before a row with its outcome; the order to reboot
leaves without either.
-/
import Proxxx.PatchRollout
import Proxxx.ApiGateway

namespace Proxxx

open List

/-- What the orchestrator writes its rows with, and what the audit directory
shows while the rows of the node at a position are written. -/
structure PatchAuditor where
  mac : Mac
  keyName : String
  texts : AuditTexts
  user : String
  profileLabel : String
  faultText : AuditFault → String
  sentView : Nat → AuditView
  outcomeView : Nat → AuditView

/-- What is done about one node, with the rows that are attempted. -/
inductive AuditedAct where
  | plain (act : Act)
  | sent (entry : LogEntry) (result : Except AuditFault RawAuditRow)
  | outcome (entry : LogEntry) (result : Except AuditFault RawAuditRow)

structure AuditedLog (α : Type) where
  acts : List AuditedAct
  cache : Option CachedLogger
  result : α

def AuditedLog.after {α : Type} (acts : List AuditedAct) (run : AuditedLog α) : AuditedLog α where
  acts := acts ++ run.acts
  cache := run.cache
  result := run.result

/-- A stretch of work without rows. -/
def NodeLog.unaudited {α : Type} (run : NodeLog α)
    (cache : Option CachedLogger) : AuditedLog α where
  acts := run.acts.map .plain
  cache := cache
  result := run.result

structure AuditedEvent where
  position : Nat
  node : String
  act : AuditedAct

structure AuditedApply where
  events : List AuditedEvent
  result : ApplyEnd

def auditedEventsAt (position : Nat) (entry : NodePlan)
    (acts : List AuditedAct) : List AuditedEvent :=
  acts.map fun act => { position := position, node := entry.node, act := act }

def upgradeCommand : String :=
  "DEBIAN_FRONTEND=noninteractive apt-get -y " ++
    "-o Dpkg::Options::=\"--force-confold\" " ++
    "-o Dpkg::Options::=\"--force-confdef\" " ++
    "dist-upgrade"

/-- The outcome of the command as its row has it. -/
def upgradeOutcome (texts : AuditTexts) : Except PatchError ExecResult → String
  | .error e => "error transport: " ++ texts.scrubSecrets e.chain
  | .ok res =>
    if res.ok then "ok 0"
    else "error " ++ (res.exitCode.map toString).getD "signal"

def Phase.isSettled : Phase → Bool
  | .skipped _ => true
  | .failed _ _ => true
  | _ => false

namespace PatchAuditor

variable (auditor : PatchAuditor)

def upgradeCtx (node : String) : MutationAuditCtx where
  action := "SSH patch apply"
  user := auditor.user
  node := some node
  vmid := none
  paramsJson := redactParamsJson auditor.texts [("command", upgradeCommand)] auditor.profileLabel

def refusal (action : String) (fault : AuditFault) : PatchError :=
  { PatchError.msg ("audit log refused mutation \x60" ++ action ++ "\x60: " ++
      auditor.faultText fault) with
    auditRefusal := true }

/-- The row before the command, and the cache behind it. -/
def writeSent (position : Nat) (node : String) (cache : Option CachedLogger) :
    Except AuditFault RawAuditRow × Option CachedLogger :=
  logMutationSent auditor.mac auditor.keyName (auditor.sentView position) cache
    ((auditor.upgradeCtx node).entry "sent")

/-- The row behind the command, and the cache behind it. -/
def writeOutcome (position : Nat) (node : String) (answers : NodeAnswers)
    (cache : Option CachedLogger) : Except AuditFault RawAuditRow × Option CachedLogger :=
  logMutationOutcome auditor.mac auditor.keyName (auditor.outcomeView position)
    cache ((auditor.upgradeCtx node).entry (upgradeOutcome auditor.texts answers.upgrade))

def runUpgrade (position : Nat) (node : String) (answers : NodeAnswers)
    (cache : Option CachedLogger) : AuditedLog (Except UpgradeHalt Unit) :=
  let ctx := auditor.upgradeCtx node
  let written := auditor.writeSent position node cache
  match written.1 with
  | .error fault =>
    { acts := [.sent (ctx.entry "sent") (.error fault)], cache := written.2,
      result := .error (.failed (auditor.refusal ctx.action fault)) }
  | .ok row =>
    let recorded := auditor.writeOutcome position node answers written.2
    { acts := [.sent (ctx.entry "sent") (.ok row), .plain .upgrade,
        .outcome (ctx.entry (upgradeOutcome auditor.texts answers.upgrade)) recorded.1],
      cache := recorded.2, result := (Orchestrator.runUpgrade node
        { answers with writeAhead := .ok () }).result }

def upgradePhase (strategy : PatchStrategy) (position : Nat) (entry : NodePlan)
    (answers : NodeAnswers) (cache : Option CachedLogger) : AuditedLog NodeEnd :=
  if strategy.dryRun then (rebootPhase strategy entry answers).unaudited cache
  else
    let upgraded := auditor.runUpgrade position entry.node answers cache
    .after upgraded.acts <|
      match upgraded.result with
      | .ok () => (rebootPhase strategy entry answers).unaudited upgraded.cache
      | .error (.failed e) =>
        if e.auditRefusal then
          { acts := [], cache := upgraded.cache, result := .refused e }
        else (entry.fail "upgrade" e).unaudited upgraded.cache
      | .error .panicked =>
        { acts := [], cache := upgraded.cache, result := .panicked }

def patchNode (strategy : PatchStrategy) (position : Nat) (entry : NodePlan)
    (answers : NodeAnswers) (cache : Option CachedLogger) : AuditedLog NodeEnd :=
  if entry.status.isSettled then
    { acts := [.plain (.progress entry.status)], cache := cache, result := .next entry }
  else
    .after [.plain .status, .plain (.progress .upgrade)] <|
      auditor.upgradePhase strategy position
        { entry with
          kernelBefore := answers.before.toOption.map (·.kversion) }
        answers cache

def applyFrom (strategy : PatchStrategy) (answers : Nat → NodeAnswers) :
    Nat → Option CachedLogger → List NodePlan → AuditedApply
  | _, _, [] => { events := [], result := .ok [] }
  | position, cache, entry :: rest =>
    let run := auditor.patchNode strategy position entry (answers position)
      cache
    let events := auditedEventsAt position entry run.acts
    match run.result with
    | .next patched =>
      let later := applyFrom strategy answers (position + 1) run.cache rest
      { events := events ++ later.events, result := later.result.cons patched }
    | .stop patched => { events := events, result := .ok (patched :: rest) }
    | .refused e => { events := events, result := .error e }
    | .panicked => { events := events, result := .panicked }

/-- A plan is applied with a process whose audit logger may be open already. -/
def apply (strategy : PatchStrategy) (answers : Nat → NodeAnswers)
    (cache : Option CachedLogger) (nodes : List NodePlan) : AuditedApply :=
  if strategy.maxConcurrent != 1 then
    { events := [], result := (Orchestrator.apply strategy answers nodes).result }
  else auditor.applyFrom strategy answers 0 cache nodes

end PatchAuditor

def AuditedAct.isCommand : AuditedAct → Bool
  | .plain act => act.isCommand
  | _ => false

def AuditedAct.isOutcome : AuditedAct → Bool
  | .outcome _ _ => true
  | _ => false

def AuditedEvent.isCommand (event : AuditedEvent) : Bool :=
  event.act.isCommand

/-- The outcome rows ahead of the next command. -/
def outcomesAhead (events : List AuditedEvent) : List AuditedEvent :=
  (events.takeWhile (!·.isCommand)).filter (·.act.isOutcome)

/-- Every command has a row of its own that was committed before it and names its
node, one outcome row is attempted before the next command, and behind a row
that could not be written there is no command. -/
structure CommandsRecorded (auditor : PatchAuditor) (events : List AuditedEvent) : Prop where
  announced : ∀ before event after, events = before ++ event :: after →
    event.isCommand = true →
    ∃ early entry row late,
      before = early ++ { event with act := .sent entry (.ok row) } :: late ∧
      Committed auditor.mac (auditor.sentView event.position) entry row ∧
      entry.result = "sent" ∧ entry.node = some event.node ∧
      ∀ other ∈ late, other.isCommand = false
  settled : ∀ before event after, events = before ++ event :: after →
    event.isCommand = true →
    ∃ entry result,
      outcomesAhead after = [{ event with act := .outcome entry result }] ∧
      entry.node = some event.node
  refused : ∀ before event after entry fault,
    events = before ++ event :: after →
    event.act = .sent entry (.error fault) →
    ∀ other ∈ after, other.isCommand = false

/-- The row could be written and the command ended well. -/
def PatchAuditor.Upgrades (auditor : PatchAuditor) (position : Nat)
    (node : String) (answers : NodeAnswers) (cache : Option CachedLogger) : Prop :=
  (∃ row, (auditor.writeSent position node cache).1 = .ok row) ∧
    ∃ res, answers.upgrade = .ok res ∧ res.ok = true

/-- No node that is reached and upgraded is due for a reboot. -/
def PatchAuditor.RebootFree (auditor : PatchAuditor) (strategy : PatchStrategy)
    (answers : Nat → NodeAnswers) : Nat → Option CachedLogger → List NodePlan → Prop
  | _, _, [] => True
  | position, cache, entry :: rest =>
    if entry.status.isSettled then
      auditor.RebootFree strategy answers (position + 1) cache rest
    else
      auditor.Upgrades position entry.node (answers position) cache →
        strategy.rebootPolicy.shouldReboot entry.rebootRequired = false ∧
        auditor.RebootFree strategy answers (position + 1)
          (auditor.writeOutcome position entry.node (answers position)
            (auditor.writeSent position entry.node cache).2).2 rest

section Erasure

variable {auditor : PatchAuditor} {strategy : PatchStrategy} {position : Nat}
  {cache : Option CachedLogger}

def AuditedAct.plain? : AuditedAct → Option Act
  | .plain act => some act
  | _ => none

def AuditedEvent.erase (event : AuditedEvent) : Option PatchEvent :=
  event.act.plain?.map fun act =>
    { position := event.position, node := event.node, act := act }

/-- What the audit log answers to the row of a node. -/
def PatchAuditor.answered (auditor : PatchAuditor) (position : Nat)
    (node : String) (answers : NodeAnswers) (cache : Option CachedLogger) : NodeAnswers :=
  { answers with
    writeAhead :=
      match (auditor.writeSent position node cache).1 with
      | .ok _ => .ok ()
      | .error fault =>
        .error (auditor.refusal (auditor.upgradeCtx node).action fault) }

/-- The work without its rows. -/
def AuditedLog.erase {α : Type} (run : AuditedLog α) : NodeLog α where
  acts := run.acts.filterMap AuditedAct.plain?
  result := run.result

theorem AuditedLog.erase_after {α : Type} (acts : List AuditedAct) (run : AuditedLog α) :
    (AuditedLog.after acts run).erase = .after (acts.filterMap AuditedAct.plain?) run.erase :=
  congrArg (NodeLog.mk · run.result) filterMap_append

theorem NodeLog.erase_unaudited {α : Type} (run : NodeLog α) : (run.unaudited cache).erase = run := by
  refine congrArg (NodeLog.mk · run.result) ?_
  rw [NodeLog.unaudited, filterMap_map]
  exact filterMap_some

theorem runUpgrade_erases (node : String) (answers : NodeAnswers) :
    (auditor.runUpgrade position node answers cache).erase =
      Orchestrator.runUpgrade node (auditor.answered position node answers cache) := by
  unfold PatchAuditor.runUpgrade PatchAuditor.answered Orchestrator.runUpgrade
  dsimp only
  cases (auditor.writeSent position node cache).1 with
  | error fault => rfl
  | ok row =>
    refine congrArg (NodeLog.mk · _) ?_
    dsimp only [NodeLog.acts_after]
    split
    · rfl
    · split
      · rfl
      · split <;> rfl

theorem upgradePhase_erases (entry : NodePlan) (answers : NodeAnswers) :
    (auditor.upgradePhase strategy position entry answers cache).erase =
      upgradePhase strategy entry (auditor.answered position entry.node answers cache) := by
  have hupgrade := @runUpgrade_erases auditor position cache entry.node answers
  unfold PatchAuditor.upgradePhase upgradePhase
  cases strategy.dryRun with
  | true => exact NodeLog.erase_unaudited _
  | false =>
    simp only [Bool.false_eq_true, if_false, AuditedLog.erase_after, ← hupgrade]
    refine congrArg (NodeLog.after _) ?_
    dsimp only [AuditedLog.erase]
    cases (auditor.runUpgrade position entry.node answers cache).result with
    | ok => exact NodeLog.erase_unaudited _
    | error halt =>
      cases halt with
      | panicked => rfl
      | failed e =>
        dsimp only
        cases e.auditRefusal with
        | true => rfl
        | false => exact NodeLog.erase_unaudited _

theorem patchNode_eq (entry : NodePlan) (answers : NodeAnswers) :
    patchNode strategy entry answers = if entry.status.isSettled then
        { acts := [.progress entry.status], result := .next entry }
      else .after [.status, .progress .upgrade] <|
          upgradePhase strategy { entry with
              kernelBefore := answers.before.toOption.map (·.kversion) }
            answers := by
  unfold patchNode
  cases entry.status <;> simp [Phase.isSettled]

/-- Without the rows, the audited work on a node is the work on the node. -/
theorem patchNode_erases (entry : NodePlan) (answers : NodeAnswers) :
    (auditor.patchNode strategy position entry answers cache).erase =
      patchNode strategy entry (auditor.answered position entry.node answers cache) := by
  rw [PatchAuditor.patchNode, patchNode_eq]
  cases entry.status.isSettled with
  | true => rfl
  | false => exact (AuditedLog.erase_after _ _).trans (congrArg _ (upgradePhase_erases _ answers))

theorem applyFrom_congr {answers other : Nat → NodeAnswers}
    {nodes : List NodePlan} (hsame : ∀ k ≥ position, answers k = other k) :
    Orchestrator.applyFrom strategy answers position nodes =
      Orchestrator.applyFrom strategy other position nodes := by
  induction nodes generalizing position with
  | nil => rfl
  | cons entry rest ih =>
    have hrest := ih fun k hk => hsame k (Nat.le_of_succ_le hk)
    rw [Orchestrator.applyFrom, Orchestrator.applyFrom, hrest,
      hsame position (Nat.le_refl position)]

theorem filterMap_erase {α : Type} (position : Nat) (entry : NodePlan) (run : AuditedLog α) :
    (auditedEventsAt position entry run.acts).filterMap AuditedEvent.erase =
      eventsAt position entry run.erase.acts := by
  rw [auditedEventsAt, eventsAt, filterMap_map, AuditedLog.erase, map_filterMap]
  rfl

/-- Without its rows, a run is a plain one in which the write-ahead of a node is
answered as the audit log answers it. -/
def ErasesTo (answers : Nat → NodeAnswers) (run : AuditedApply)
    (plain : (Nat → NodeAnswers) → Applied) : Prop :=
  ∃ answered : Nat → NodeAnswers,
    (∀ k, ∃ writeAhead, answered k = { answers k with writeAhead := writeAhead }) ∧
      run.events.filterMap AuditedEvent.erase = (plain answered).events ∧
      run.result = (plain answered).result

theorem applyFrom_erases (answers : Nat → NodeAnswers) (nodes : List NodePlan) :
    ErasesTo answers (auditor.applyFrom strategy answers position cache nodes)
      (Orchestrator.applyFrom strategy · position nodes) := by
  induction nodes generalizing position cache with
  | nil => exact ⟨answers, fun k => ⟨_, rfl⟩, rfl, rfl⟩
  | cons entry rest ih =>
    obtain ⟨later, hlater, hevents, hresult⟩ := @ih (position + 1)
      (auditor.patchNode strategy position entry (answers position) cache).cache
    have hnode := @patchNode_erases auditor strategy position cache entry (answers position)
    let here := auditor.answered position entry.node (answers position) cache
    refine ⟨fun k => if k = position then here else later k, ?_, ?_⟩
    · intro k
      dsimp only
      split
      · rename_i hk
        subst hk
        exact ⟨_, rfl⟩
      · exact hlater k
    · have hrest : Orchestrator.applyFrom strategy
          (fun k => if k = position then here else later k) (position + 1)
            rest = Orchestrator.applyFrom strategy later (position + 1) rest :=
        applyFrom_congr fun k hk => if_neg (Nat.ne_of_gt hk)
      beta_reduce
      rw [PatchAuditor.applyFrom, Orchestrator.applyFrom, hrest]
      have hend : _ = (patchNode strategy entry here).result := congrArg NodeLog.result hnode
      simp only [AuditedLog.erase] at hend
      simp only [if_true, hend]
      cases (patchNode strategy entry here).result with
      | next patched =>
        dsimp only
        rw [filterMap_append, filterMap_erase, hnode, hevents, hresult]
        exact ⟨rfl, rfl⟩
      | stop | refused | panicked => exact ⟨by rw [filterMap_erase, hnode], rfl⟩

/-- An audited rollout does to the nodes what the plain one does. -/
theorem apply_erases (answers : Nat → NodeAnswers) (nodes : List NodePlan) :
    ErasesTo answers (auditor.apply strategy answers cache nodes)
      (Orchestrator.apply strategy · nodes) := by
  unfold PatchAuditor.apply Orchestrator.apply
  cases strategy.maxConcurrent != 1 with
  | true => exact ⟨answers, fun k => ⟨_, rfl⟩, rfl, rfl⟩
  | false => exact applyFrom_erases answers nodes

end Erasure

section Trace

variable {auditor : PatchAuditor} {events later : List AuditedEvent}

theorem outcomesAhead_append (hlater : outcomesAhead later = []) :
    outcomesAhead (events ++ later) = outcomesAhead events := by
  unfold outcomesAhead at hlater ⊢
  rw [takeWhile_append]
  split
  · rename_i hall
    rw [filter_append, hlater, append_nil, takeWhile_eq_self_iff.mpr]
    exact takeWhile_eq_self_iff.mp ((List.takeWhile_prefix _).eq_of_length hall)
  · rfl

theorem CommandsRecorded.of_quiet (hquiet : ∀ event ∈ events, event.isCommand = false) :
    CommandsRecorded auditor events where
  announced := by
    rintro before event after rfl hcommand
    rw [hquiet event (by simp)] at hcommand
    cases hcommand
  settled := by
    rintro before event after rfl hcommand
    rw [hquiet event (by simp)] at hcommand
    cases hcommand
  refused := by
    rintro before event after entry fault rfl - other hother
    exact hquiet other (by simp [hother])

/-- CommandsRecorded stretches follow one another, unless the first ends with a row that
could not be written. -/
theorem CommandsRecorded.append (hevents : CommandsRecorded auditor events)
    (hlater : CommandsRecorded auditor later) (hahead : outcomesAhead later = [])
    (hwritten : ∀ event ∈ events, ∀ entry fault, event.act ≠ .sent entry (.error fault)) :
    CommandsRecorded auditor (events ++ later) where
  announced := by
    intro before event after hsplit hcommand
    rcases StepSystem.place_of_append hsplit with
      ⟨front, rfl, hrest⟩ | ⟨back, hfirst, -⟩
    · obtain ⟨early, entry, row, late, rfl, hrow⟩ :=
        hlater.announced front event after hrest hcommand
      exact ⟨events ++ early, entry, row, late, by simp, hrow⟩
    · exact hevents.announced before event back hfirst hcommand
  settled := by
    intro before event after hsplit hcommand
    rcases StepSystem.place_of_append hsplit with
      ⟨front, -, hrest⟩ | ⟨back, hfirst, rfl⟩
    · exact hlater.settled front event after hrest hcommand
    · rw [outcomesAhead_append hahead]
      exact hevents.settled before event back hfirst hcommand
  refused := by
    intro before event after entry fault hsplit hact
    rcases StepSystem.place_of_append hsplit with
      ⟨front, -, hrest⟩ | ⟨back, hfirst, -⟩
    · exact hlater.refused front event after entry fault hrest hact
    · exact absurd hact (hwritten event (by simp [hfirst]) entry fault)

/-- A command without a row since the command before it. -/
theorem not_recorded {front gap after : List AuditedEvent}
    {command event : AuditedEvent} (hcommand : command.isCommand = true)
    (hevent : event.isCommand = true)
    (hgap : ∀ other ∈ gap, ∀ entry result, other.act ≠ .sent entry result) :
    ¬ CommandsRecorded auditor (front ++ command :: gap ++ event :: after) := by
  intro hrecorded
  obtain ⟨early, entry, row, late, hbefore, -, -, -, hlate⟩ :=
    hrecorded.announced _ event after rfl hevent
  rcases StepSystem.place_of_append hbefore with
    ⟨middle, -, hrest⟩ | ⟨back, -, rfl⟩
  · cases middle with
    | nil =>
      have hsent := (List.cons.inj hrest).1
      rw [hsent] at hcommand
      cases hcommand
    | cons head tail =>
      have hmem : { event with act := .sent entry (.ok row) } ∈ gap := by
        rw [(List.cons.inj hrest).2]
        exact mem_append_right _ mem_cons_self
      exact hgap _ hmem entry (.ok row) rfl
  · rw [hlate command (by simp)] at hcommand
    cases hcommand

end Trace

section Node

variable {auditor : PatchAuditor} {strategy : PatchStrategy} {position : Nat}
  {entry : NodePlan} {answers : NodeAnswers} {cache : Option CachedLogger}

/-- The row of a node, its command and its outcome row. -/
def exchangeActs (auditor : PatchAuditor) (position : Nat) (node : String)
    (answers : NodeAnswers) (cache : Option CachedLogger) (row : RawAuditRow) : List AuditedAct :=
  [.sent ((auditor.upgradeCtx node).entry "sent") (.ok row), .plain .upgrade,
    .outcome ((auditor.upgradeCtx node).entry (upgradeOutcome auditor.texts answers.upgrade))
      (auditor.writeOutcome position node answers (auditor.writeSent position node cache).2).1]

/-- What is done up to the outcome row of a node whose first row is written. -/
def upgradeActs (auditor : PatchAuditor) (position : Nat) (node : String)
    (answers : NodeAnswers) (cache : Option CachedLogger) (row : RawAuditRow) : List AuditedAct :=
  [Act.status, .progress .upgrade].map .plain ++
    exchangeActs auditor position node answers cache row

/-- All that the audited work on a node can come to. -/
inductive AuditedCourse (auditor : PatchAuditor) (strategy : PatchStrategy)
    (position : Nat) (entry : NodePlan) (answers : NodeAnswers)
    (cache : Option CachedLogger) : AuditedLog NodeEnd → Prop where
  | settled (hsettled : entry.status.isSettled = true) :
      AuditedCourse auditor strategy position entry answers cache
        { acts := [.plain (.progress entry.status)], cache := cache, result := .next entry }
  | unwritten (hopen : entry.status.isSettled = false) (fault : AuditFault)
      (hfault : (auditor.writeSent position entry.node cache).1 = .error fault)
      (run : AuditedLog NodeEnd)
      (hacts : run.acts = [.plain .status, .plain (.progress .upgrade),
        .sent ((auditor.upgradeCtx entry.node).entry "sent") (.error fault)])
      (hend : ∀ patched, run.result ≠ .next patched) :
      AuditedCourse auditor strategy position entry answers cache run
  | failed (hopen : entry.status.isSettled = false) (row : RawAuditRow)
      (hrow : (auditor.writeSent position entry.node cache).1 = .ok row)
      (hfails : ¬ auditor.Upgrades position entry.node answers cache)
      (tail : List Act) (hquiet : ∀ act ∈ tail, act.isCommand = false)
      (run : AuditedLog NodeEnd)
      (hacts : run.acts = upgradeActs auditor position entry.node answers cache
        row ++ tail.map .plain)
      (hend : ∀ patched, run.result ≠ .next patched) :
      AuditedCourse auditor strategy position entry answers cache run
  | upgraded (hopen : entry.status.isSettled = false) (row : RawAuditRow)
      (hrow : (auditor.writeSent position entry.node cache).1 = .ok row)
      (hupgrades : auditor.Upgrades position entry.node answers cache)
      (started : NodePlan)
      (hrequired : started.rebootRequired = entry.rebootRequired) :
      AuditedCourse auditor strategy position entry answers cache
        (.after (upgradeActs auditor position entry.node answers cache row)
          ((rebootPhase strategy started answers).unaudited
            (auditor.writeOutcome position entry.node answers
              (auditor.writeSent position entry.node cache).2).2))

theorem runUpgrade_result_ok_iff {node : String} : (Orchestrator.runUpgrade node
        { answers with writeAhead := .ok () }).result = .ok () ↔
      ∃ res, answers.upgrade = .ok res ∧ res.ok = true := by
  unfold Orchestrator.runUpgrade
  dsimp only [NodeLog.result_after]
  cases hupgrade : answers.upgrade with
  | error e => simp
  | ok res =>
    cases hok : res.ok with
    | true => simp [hok]
    | false =>
      simp only [hok, Bool.false_eq_true, if_false, Except.ok.injEq, exists_eq_left', iff_false]
      split <;> simp

theorem auditedCourse (hreal : strategy.dryRun = false) :
    AuditedCourse auditor strategy position entry answers cache
      (auditor.patchNode strategy position entry answers cache) := by
  unfold PatchAuditor.patchNode
  cases hsettled : entry.status.isSettled with
  | true => exact .settled hsettled
  | false =>
    simp only [Bool.false_eq_true, if_false, PatchAuditor.upgradePhase, hreal,
      PatchAuditor.runUpgrade]
    cases hwritten : (auditor.writeSent position entry.node cache).1 with
    | error fault =>
      refine .unwritten hsettled fault hwritten _ ?_ ?_
      · simp [AuditedLog.after, PatchAuditor.refusal]
      · simp [AuditedLog.after, PatchAuditor.refusal]
    | ok row =>
      dsimp only
      cases hresult : (Orchestrator.runUpgrade entry.node
          { answers with writeAhead := .ok () }).result with
      | ok =>
        have hdone := runUpgrade_result_ok_iff.mp hresult
        exact .upgraded hsettled row hwritten ⟨⟨row, hwritten⟩, hdone⟩ { entry with
            kernelBefore := answers.before.toOption.map (·.kversion) } rfl
      | error halt =>
        have hfails : ¬ auditor.Upgrades position entry.node answers
            cache := by
          intro hupgrades
          rw [runUpgrade_result_ok_iff.mpr hupgrades.2] at hresult
          cases hresult
        cases halt with
        | panicked =>
          exact .failed hsettled row hwritten hfails [] (by simp) _ rfl (by simp [AuditedLog.after])
        | failed e =>
          dsimp only
          cases e.auditRefusal with
          | true =>
            exact .failed hsettled row hwritten hfails [] (by simp) _
              rfl (by simp [AuditedLog.after])
          | false =>
            exact .failed hsettled row hwritten hfails [.progress (.failed "upgrade" e.chain)]
              (by simp [Act.isCommand]) _ rfl
              (by simp [AuditedLog.after, NodeLog.unaudited, NodePlan.fail])

theorem rebootPhase_acts (hreal : strategy.dryRun = false) :
    (strategy.rebootPolicy.shouldReboot entry.rebootRequired = true →
      ∃ tail, (rebootPhase strategy entry answers).acts = .progress .reboot :: .reboot :: tail ∧
        ∀ act ∈ tail, act.isCommand = false) ∧
    (strategy.rebootPolicy.shouldReboot entry.rebootRequired = false →
      (∀ act ∈ (rebootPhase strategy entry answers).acts, act.isCommand = false) ∧
      ∃ patched, (rebootPhase strategy entry answers).result = .next patched) := by
  unfold rebootPhase
  rw [hreal]
  constructor
  · intro hshould
    simp only [hshould, if_true, Bool.false_eq_true, if_false, NodeLog.acts_after, singleton_append]
    refine ⟨_, rfl, ?_⟩
    split
    · simp [NodePlan.fail, Act.isCommand]
    · intro act hact
      rw [NodeLog.acts_after, cons_append] at hact
      rcases mem_cons.mp hact with rfl | hact
      · rfl
      · rcases mem_append.mp hact with hwaited | hlast
        · exact isCommand_waitForReboot act hwaited
        · split at hlast
          · obtain rfl := mem_singleton.mp hlast
            rfl
          · obtain rfl := mem_singleton.mp hlast
            rfl
  · intro hshould
    simp only [hshould, Bool.false_eq_true, if_false]
    exact ⟨by simp [NodePlan.finish, Act.isCommand], _, rfl⟩

end Node

section Plan

variable {auditor : PatchAuditor} {strategy : PatchStrategy}
  {answers : Nat → NodeAnswers}

variable {position : Nat} {cache : Option CachedLogger} {entry : NodePlan}

theorem isCommand_auditedEventsAt {acts : List Act} (hquiet : ∀ act ∈ acts, act.isCommand = false) :
    ∀ event ∈ auditedEventsAt position entry (acts.map .plain), event.isCommand = false := by
  intro event hevent
  simp only [auditedEventsAt, map_map, mem_map] at hevent
  obtain ⟨act, hact, rfl⟩ := hevent
  exact hquiet act hact

theorem outcomesAhead_plain {acts : List Act} :
    outcomesAhead (auditedEventsAt position entry (acts.map .plain)) = [] := by
  rw [outcomesAhead, filter_eq_nil_iff]
  intro event hevent
  have hmem := takeWhile_subset _ hevent
  simp only [auditedEventsAt, map_map, mem_map] at hmem
  obtain ⟨act, -, rfl⟩ := hmem
  exact Bool.false_ne_true

theorem command_of_exchange {sent command outcome event : AuditedEvent}
    {before after : List AuditedEvent} (hsent : sent.isCommand = false)
    (houtcome : outcome.isCommand = false)
    (hsplit : [sent, command, outcome] = before ++ event :: after)
    (hcommand : event.isCommand = true) :
    before = [sent] ∧ event = command ∧ after = [outcome] := by
  rcases before with _ | ⟨first, _ | ⟨second, _ | ⟨third, later⟩⟩⟩
  · obtain ⟨rfl, -⟩ := List.cons.inj hsplit
    rw [hsent] at hcommand
    cases hcommand
  · simp only [cons_append, nil_append, List.cons.injEq] at hsplit
    obtain ⟨rfl, rfl, rfl⟩ := hsplit
    exact ⟨rfl, rfl, rfl⟩
  · simp only [cons_append, nil_append, List.cons.injEq] at hsplit
    obtain ⟨-, -, rfl, -⟩ := hsplit
    rw [houtcome] at hcommand
    cases hcommand
  · simp at hsplit

variable {row : RawAuditRow}

/-- A row, its command and its outcome. -/
theorem CommandsRecorded.exchange {node : String} {act : Act} {entry outcome : LogEntry} {result : Except AuditFault RawAuditRow}
    (hcommitted : Committed auditor.mac (auditor.sentView position) entry row)
    (hsent : entry.result = "sent") (hnode : entry.node = some node)
    (houtcome : outcome.node = some node) :
    CommandsRecorded auditor [{ position := position, node := node, act := .sent entry (.ok row) },
        { position := position, node := node, act := .plain act },
        { position := position, node := node, act := .outcome outcome result }] where
  announced := by
    intro before event after hsplit hcommand
    obtain ⟨rfl, rfl, -⟩ := command_of_exchange rfl rfl hsplit hcommand
    exact ⟨[], entry, row, [], rfl, hcommitted, hsent, hnode, by simp⟩
  settled := by
    intro before event after hsplit hcommand
    obtain ⟨-, rfl, rfl⟩ := command_of_exchange rfl rfl hsplit hcommand
    exact ⟨outcome, result, rfl, houtcome⟩
  refused := by
    intro before event after other fault hsplit hfault
    have hmem : event ∈ before ++ event :: after := by simp
    rw [← hsplit] at hmem
    simp only [mem_cons, not_mem_nil, or_false] at hmem
    rcases hmem with rfl | rfl | rfl
    · cases hfault
    · cases hfault
    · cases hfault

theorem auditedEventsAt_append (first last : List AuditedAct) :
    auditedEventsAt position entry (first ++ last) =
      auditedEventsAt position entry first ++ auditedEventsAt position entry last :=
  map_append

variable {here : NodeAnswers}

theorem recorded_upgradeActs (hrow : (auditor.writeSent position entry.node cache).1 = .ok row) :
    CommandsRecorded auditor (auditedEventsAt position entry
      (upgradeActs auditor position entry.node here cache row)) := by
  have hcommitted := logMutationSent_eq_ok hrow
  have hfirst : ∀ act ∈ [Act.status, .progress .upgrade],
      act.isCommand = false := by simp [Act.isCommand]
  rw [upgradeActs, auditedEventsAt_append]
  refine .append (.of_quiet (isCommand_auditedEventsAt hfirst))
    (.exchange hcommitted rfl rfl rfl) rfl ?_
  simp [auditedEventsAt]

theorem sent_upgradeActs (row : RawAuditRow) : ∀ event ∈ auditedEventsAt position entry
      (upgradeActs auditor position entry.node here cache row),
    ∀ sent fault, event.act ≠ .sent sent (.error fault) := by
  simp [auditedEventsAt, upgradeActs, exchangeActs]

theorem applyFrom_rest {run : AuditedLog NodeEnd} {rest : List NodePlan}
    (hrun : auditor.patchNode strategy position entry (answers position) cache = run) :
    (∃ patched, run.result = .next patched ∧
      (auditor.applyFrom strategy answers position cache (entry :: rest)).events =
        auditedEventsAt position entry run.acts ++
          (auditor.applyFrom strategy answers (position + 1) run.cache rest).events) ∨
      (∀ patched, run.result ≠ .next patched) ∧ (auditor.applyFrom strategy answers position cache
          (entry :: rest)).events = auditedEventsAt position entry run.acts := by
  rw [PatchAuditor.applyFrom, hrun]
  dsimp only
  cases hresult : run.result with
  | next patched => exact .inl ⟨patched, rfl, rfl⟩
  | stop | refused | panicked => exact .inr ⟨by simp, rfl⟩

theorem recorded_patchNode (hreal : strategy.dryRun = false)
    {rest : List NodePlan} {run : AuditedLog NodeEnd}
    (hrun : auditor.patchNode strategy position entry (answers position) cache = run)
    (hfree : auditor.RebootFree strategy answers position cache (entry :: rest)) :
    outcomesAhead (auditedEventsAt position entry run.acts) = [] ∧
      CommandsRecorded auditor (auditedEventsAt position entry run.acts) ∧
      ∀ patched, run.result = .next patched →
        (∀ event ∈ auditedEventsAt position entry run.acts, ∀ row fault,
          event.act ≠ .sent row (.error fault)) ∧
        auditor.RebootFree strategy answers (position + 1) run.cache rest := by
  have hcourse : AuditedCourse auditor strategy position entry
    (answers position) cache run := hrun ▸ auditedCourse hreal
  rw [PatchAuditor.RebootFree] at hfree
  cases hcourse with
  | settled hsettled =>
    rw [if_pos hsettled] at hfree
    refine ⟨rfl, .of_quiet ?_, fun _ _ => ⟨?_, hfree⟩⟩
    · simp [auditedEventsAt, AuditedEvent.isCommand, AuditedAct.isCommand, Act.isCommand]
    · simp [auditedEventsAt]
  | unwritten hopen fault hfault run hacts hend =>
    rw [hacts]
    refine ⟨rfl, .of_quiet ?_, fun patched hnext => absurd hnext (hend patched)⟩
    simp [auditedEventsAt, AuditedEvent.isCommand, AuditedAct.isCommand, Act.isCommand]
  | failed hopen row hrow hfails tail hquiet run hacts hend =>
    rw [hacts, auditedEventsAt_append, outcomesAhead_append outcomesAhead_plain]
    refine ⟨rfl, ?_, fun patched hnext => absurd hnext (hend patched)⟩
    exact (recorded_upgradeActs hrow).append
      (.of_quiet (isCommand_auditedEventsAt hquiet)) outcomesAhead_plain
      (sent_upgradeActs row)
  | upgraded hopen row hrow hupgrades started hrequired =>
    rw [if_neg (by simp [hopen])] at hfree
    obtain ⟨hshould, hlater⟩ := hfree hupgrades
    rw [← hrequired] at hshould
    obtain ⟨hquiet, -⟩ := (rebootPhase_acts hreal).2 hshould
    simp only [AuditedLog.after, NodeLog.unaudited, auditedEventsAt_append]
    rw [outcomesAhead_append outcomesAhead_plain]
    refine ⟨rfl, ?_, fun _ _ => ⟨?_, hlater⟩⟩
    · exact (recorded_upgradeActs hrow).append
        (.of_quiet (isCommand_auditedEventsAt hquiet)) outcomesAhead_plain
        (sent_upgradeActs row)
    · intro event hevent
      rcases mem_append.mp hevent with hfirst | hlast
      · exact sent_upgradeActs row event hfirst
      · simp only [auditedEventsAt, map_map, mem_map] at hlast
        obtain ⟨act, -, rfl⟩ := hlast
        simp

/-- A plan without a due reboot has its rows. -/
theorem recorded_of_rebootFree (hreal : strategy.dryRun = false) {nodes : List NodePlan}
    (hfree : auditor.RebootFree strategy answers position cache nodes) :
    outcomesAhead (auditor.applyFrom strategy answers position cache nodes).events = [] ∧
      CommandsRecorded auditor (auditor.applyFrom strategy answers position cache
        nodes).events := by
  induction nodes generalizing position cache with
  | nil => exact ⟨rfl, .of_quiet (by simp [PatchAuditor.applyFrom])⟩
  | cons entry rest ih =>
    obtain ⟨hahead, hrecorded, hnext⟩ := recorded_patchNode hreal rfl hfree
    rcases applyFrom_rest rfl with ⟨patched, hpatched, hevents⟩ | ⟨-, hevents⟩
    · obtain ⟨hwritten, hlater⟩ := hnext patched hpatched
      obtain ⟨hlaterAhead, hlaterRecorded⟩ := ih hlater
      rw [hevents, outcomesAhead_append hlaterAhead]
      exact ⟨hahead, hrecorded.append hlaterRecorded hlaterAhead hwritten⟩
    · rw [hevents]
      exact ⟨hahead, hrecorded⟩

/-- A due reboot leaves without a row since the upgrade before it. -/
def Unannounced (events : List AuditedEvent) : Prop :=
  ∃ front command gap event after, events = front ++ command :: gap ++ event :: after ∧
    command.isCommand = true ∧ event.isCommand = true ∧
    ∀ other ∈ gap, ∀ entry result, other.act ≠ .sent entry result

theorem Unannounced.behind {later : List AuditedEvent}
    (hlater : Unannounced later) (first : List AuditedEvent) :
    Unannounced (first ++ later) := by
  obtain ⟨front, command, gap, event, after, rfl, hrest⟩ := hlater
  exact ⟨first ++ front, command, gap, event, after, by simp, hrest⟩

/-- An upgraded node that is due for a reboot. -/
theorem unannounced_rebootPhase (hreal : strategy.dryRun = false) {started : NodePlan}
    (hshould : strategy.rebootPolicy.shouldReboot started.rebootRequired = true)
    (last : List AuditedEvent) :
    Unannounced (auditedEventsAt position entry
      (upgradeActs auditor position entry.node here cache row ++
        (rebootPhase strategy started here).acts.map .plain) ++ last) := by
  obtain ⟨tail, hacts, -⟩ := (rebootPhase_acts hreal).1 hshould
  rw [hacts]
  refine ⟨_ :: _ :: [_], _, _ :: [_], _, _, rfl, rfl, rfl, ?_⟩
  simp

theorem unannounced_of_reboot (hreal : strategy.dryRun = false) {nodes : List NodePlan}
    (hdue : ¬ auditor.RebootFree strategy answers position cache nodes) :
    Unannounced (auditor.applyFrom strategy answers position cache nodes).events := by
  induction nodes generalizing position cache with
  | nil => exact absurd trivial hdue
  | cons entry rest ih =>
    have hcourse : AuditedCourse auditor strategy position entry
      (answers position) cache _ := auditedCourse hreal
    have hrest := @applyFrom_rest auditor strategy answers position cache entry
      _ rest rfl
    generalize auditor.patchNode strategy position entry (answers position)
      cache = run at hcourse hrest
    rw [PatchAuditor.RebootFree] at hdue
    cases hcourse with
    | settled hsettled =>
      rw [if_pos hsettled] at hdue
      rcases hrest with ⟨patched, -, hevents⟩ | ⟨hend, -⟩
      · rw [hevents]
        exact (ih hdue).behind _
      · exact absurd rfl (hend entry)
    | unwritten hopen fault hfault run hacts hend =>
      rw [if_neg (by simp [hopen])] at hdue
      refine absurd (fun hupgrades => ?_) hdue
      obtain ⟨row, hrow⟩ := hupgrades.1
      rw [hfault] at hrow
      cases hrow
    | failed hopen row hrow hfails tail hquiet run hacts hend =>
      rw [if_neg (by simp [hopen])] at hdue
      exact absurd (fun hupgrades => absurd hupgrades hfails) hdue
    | upgraded hopen row hrow hupgrades started hrequired =>
      rw [if_neg (by simp [hopen]), ← hrequired] at hdue
      cases hshould : strategy.rebootPolicy.shouldReboot started.rebootRequired with
      | true =>
        rcases hrest with ⟨patched, -, hevents⟩ | ⟨-, hevents⟩
        · rw [hevents]
          exact unannounced_rebootPhase hreal hshould _
        · rw [hevents, ← append_nil (auditedEventsAt _ _ _)]
          exact unannounced_rebootPhase hreal hshould _
      | false =>
        obtain ⟨patched, hpatched⟩ : ∃ patched,
            (rebootPhase strategy started (answers position)).result =
              .next patched := ((rebootPhase_acts hreal).2 hshould).2
        have hlater := fun hfree => hdue fun _ => ⟨hshould, hfree⟩
        rcases hrest with ⟨_, -, hevents⟩ | ⟨hend, -⟩
        · rw [hevents]
          exact (ih hlater).behind _
        · exact absurd hpatched (hend patched)

end Plan

/-- Every command has its rows exactly where no reboot is reached. -/
theorem patch_commands_recorded_iff (auditor : PatchAuditor)
    (strategy : PatchStrategy) (answers : Nat → NodeAnswers)
    (cache : Option CachedLogger) (nodes : List NodePlan)
    (hreal : strategy.dryRun = false) :
    CommandsRecorded auditor (auditor.apply strategy answers cache nodes).events ↔
      strategy.maxConcurrent ≠ 1 ∨ auditor.RebootFree strategy answers 0 cache nodes := by
  unfold PatchAuditor.apply
  by_cases hserial : strategy.maxConcurrent = 1
  · simp only [hserial, bne_self_eq_false, Bool.false_eq_true, if_false, ne_eq,
      not_true_eq_false, false_or]
    constructor
    · intro hrecorded
      by_contra hdue
      obtain ⟨front, command, gap, event, after, hevents, hcommand, hevent, hgap⟩ :=
        unannounced_of_reboot hreal hdue
      rw [hevents] at hrecorded
      exact not_recorded hcommand hevent hgap hrecorded
    · exact fun hfree => (recorded_of_rebootFree hreal hfree).2
  · refine iff_of_true ?_ (.inl hserial)
    rw [if_pos (by simpa using hserial)]
    exact .of_quiet (by simp)

/-- Under the policy that never reboots, every command has its rows. -/
theorem rebootFree_never {auditor : PatchAuditor} {strategy : PatchStrategy}
    (hnever : strategy.rebootPolicy = .never) {answers : Nat → NodeAnswers}
    {position : Nat} {cache : Option CachedLogger} {nodes : List NodePlan} :
    auditor.RebootFree strategy answers position cache nodes := by
  induction nodes generalizing position cache with
  | nil => trivial
  | cons entry rest ih =>
    rw [PatchAuditor.RebootFree, hnever]
    split
    · exact ih
    · exact fun _ => ⟨rfl, ih⟩

namespace PatchAuditWitness

open RolloutWitness GatewayWitness

def auditor : PatchAuditor where
  mac := transcriptMac
  keyName := "audit.key"
  texts := { scrubSecrets := id, renderObject := fun _ => "\x7b\x7d" }
  user := "ops@bastion"
  profileLabel := "prod"
  faultText := fun _ => "unreadable"
  sentView := fun _ => auditView
  outcomeView := fun _ => auditView

/-- The rows and commands of a trace, with their nodes. -/
def labels (events : List AuditedEvent) : List (String × String) :=
  events.filterMap fun event =>
    match event.act with
    | .sent _ _ => some (event.node, "sent")
    | .outcome _ _ => some (event.node, "outcome")
    | .plain .upgrade => some (event.node, "upgrade")
    | .plain .reboot => some (event.node, "reboot")
    | .plain _ => none

theorem patch_commands_recorded_never :
    labels (auditor.apply { rebootPolicy := .never } seenDown none nodes).events =
        [("pve1", "sent"), ("pve1", "upgrade"), ("pve1", "outcome"),
          ("pve2", "sent"), ("pve2", "upgrade"), ("pve2", "outcome")] ∧
      CommandsRecorded auditor
        (auditor.apply { rebootPolicy := .never } seenDown none nodes).events :=
  ⟨by decide +kernel, (patch_commands_recorded_iff auditor { rebootPolicy := .never } seenDown none
      nodes rfl).mpr (.inr (rebootFree_never rfl))⟩

/-- The reboot of each node leaves without a row before or behind it. -/
theorem patch_reboots_unrecorded : labels (auditor.apply {} seenDown none nodes).events =
      [("pve1", "sent"), ("pve1", "upgrade"), ("pve1", "outcome"),
        ("pve1", "reboot"), ("pve2", "sent"), ("pve2", "upgrade"),
        ("pve2", "outcome"), ("pve2", "reboot")] ∧
    ¬ CommandsRecorded auditor (auditor.apply {} seenDown none nodes).events := by
  refine ⟨by decide +kernel, fun hrecorded => ?_⟩
  obtain ⟨entry, result, hahead, -⟩ := hrecorded.settled
    ((auditor.apply {} seenDown none nodes).events.take 6) _ _ rfl rfl
  have hone : (outcomesAhead _).length = 1 := congrArg List.length hahead
  exact absurd hone (by decide +kernel)

end PatchAuditWitness

end Proxxx
