/-
Whole histories of the operation queue: every step keeps the invariant, so every
operation is sent at most once and only behind a committed record of it as
running; and one that is restored from such a record is not sent, unless a task of
the last session in the same process still has it.
-/
import Proxxx.QueueOnce

namespace Proxxx

open StepSystem List

section Keys

theorem map_id_setStatus (id : String) (status : OpStatus) (queue : List QueuedOp) :
    (setStatus id status queue).map (·.id) = queue.map (·.id) := by
  induction queue with
  | nil => rfl
  | cons head tail ih =>
    rw [setStatus]
    split
    · rfl
    · simp [ih]

theorem startPending_id (op : QueuedOp) : (startPending op).id = op.id := by
  unfold startPending
  split <;> rfl

theorem startPending_not_pending (op : QueuedOp) : (startPending op).status ≠ .pending := by
  unfold startPending isPending
  split
  · simp
  next hnot => simpa using hnot

/-- A started operation is in the snapshot of its queue, running. -/
theorem running_of_startPending {queue : List QueuedOp} {op : QueuedOp}
    (hop : op ∈ queue) (hpending : isPending op = true)
    (hpersistable : op.Persistable) :
    op.id ∈ runningIds (persistedEntries (queue.map startPending)) := by
  obtain ⟨entry, hentry⟩ := Option.isSome_iff_exists.mp hpersistable
  obtain ⟨persisted, hwritten, rfl⟩ := Option.map_eq_some_iff.mp hentry
  have hstarted : (startPending op).toPersisted = some
      { id := op.id, description := op.description, diff := op.diff, status := .running
        op := persisted, createdAtSecs := op.createdAtSecs } := by
    simp [startPending, hpending, QueuedOp.toPersisted, hwritten, OpStatus.toPersisted]
  have hmem := mem_filterMap.mpr ⟨startPending op, mem_map_of_mem hop, hstarted⟩
  exact mem_runningIds.mpr ⟨_, hmem, rfl, rfl⟩

end Keys

section Steps

namespace Journal

variable {journal : Journal}

/-- Operations may leave the queue. -/
theorem Kept.shrink (hkept : journal.Kept) {queue : List QueuedOp}
    (hsub : queue.Sublist journal.queue) (dirty : Bool) :
    Kept { journal with queue, dirty, issued := journal.issued ++ [] } := by
  refine hkept.requeue dirty (hkept.queueIds.sublist (hsub.map _)) ?_ ?_ ?_ hkept.reports
  · exact fun op hop => hkept.clear.queue op (hsub.subset hop)
  · intro op hop
    rw [append_nil]
    exact hkept.known.queue op (hsub.subset hop)
  · exact fun id hid => mem_append_left [] hid

theorem Kept.enqueue (hkept : journal.Kept) {ops : List NewOp} (hnew : (ops.map (·.id)).Nodup)
    (hfresh : ∀ id ∈ ops.map (·.id), id ∉ journal.issued) (dirty : Bool) :
    Kept { journal with
      queue := journal.queue ++ ops.map QueuedOp.new
      dirty
      issued := journal.issued ++ ops.map (·.id) } := by
  have hids : (ops.map QueuedOp.new).map (·.id) = ops.map (·.id) := by
    rw [map_map]
    rfl
  have hnewId : ∀ op ∈ ops.map QueuedOp.new, op.id ∈ ops.map (·.id) := by
    intro op hop
    exact hids ▸ mem_map_of_mem hop
  refine hkept.requeue dirty ?_ ?_ ?_ ?_ hkept.reports
  · rw [map_append, hids]
    refine hkept.queueIds.append hnew ?_
    intro id hold hid
    obtain ⟨op, hop, rfl⟩ := mem_map.mp hold
    exact hfresh op.id hid (hkept.known.queue op hop)
  · intro op hop hpending
    rcases mem_append.mp hop with hold | hadded
    · exact hkept.clear.queue op hold hpending
    · exact fun htaken => hfresh op.id (hnewId op hadded) (hkept.known.taken op.id htaken)
  · intro op hop
    rcases mem_append.mp hop with hold | hadded
    · exact mem_append_left _ (hkept.known.queue op hold)
    · exact mem_append_right _ (hnewId op hadded)
  · exact fun id hid => mem_append_left _ hid

/-- Executing the queue leaves nothing pending, and its write-ahead has the
batch as running. -/
theorem Kept.execute (hkept : journal.Kept) (hidle : journal.ahead = none) :
    (journal.press .executeQueue).Kept := by
  have hnone : ∀ op ∈ journal.queue.map startPending, op.status ≠ .pending := by
    intro op hop
    obtain ⟨old, -, rfl⟩ := mem_map.mp hop
    exact startPending_not_pending old
  have hids : (journal.queue.map startPending).map (·.id) = journal.queue.map (·.id) := by
    rw [map_map]
    exact map_congr_left fun op _ => startPending_id op
  have hreduced : Kept { journal with
        queue := journal.queue.map startPending, dirty := journal.dirty || true
        issued := journal.issued ++ [] } := by
    refine hkept.requeue _ (hids ▸ hkept.queueIds)
      (fun op hop hpending => absurd hpending (hnone op hop)) ?_
      (fun id hid => mem_append_left [] hid) hkept.reports
    intro op hop
    obtain ⟨old, hold, rfl⟩ := mem_map.mp hop
    rw [startPending_id, append_nil]
    exact hkept.known.queue old hold
  have hbatch : ∀ op ∈ journal.queue.filter isPending,
      op ∈ journal.queue ∧ op.status = .pending := by
    intro op hop
    simpa [isPending] using mem_filter.mp hop
  have hnew : ((journal.queue.filter isPending).map fun op =>
      ({ op, stage := .batched, heard := true } : QueueJob)).map (·.op.id) =
        (journal.queue.filter isPending).map (·.id) := by
    rw [map_map]
    rfl
  refine hreduced.beginDispatch ?_ ?_ ?_ ?_ ?_
  · rw [map_append, hnew, ← append_assoc]
    refine hkept.staffed.once.append (hkept.queueIds.sublist (filter_sublist.map _)) ?_
    intro id htaken hid
    obtain ⟨op, hop, rfl⟩ := mem_map.mp hid
    obtain ⟨hqueue, hpending⟩ := hbatch op hop
    refine hkept.clear.queue op hqueue hpending ?_
    exact (mem_append.mp htaken).imp_left .inl
  · exact fun op hop hpending => absurd hpending (hnone op hop)
  · intro job hjob hdone
    rcases mem_append.mp hjob with hold | hadded
    · exact ⟨job, hold, rfl, hdone⟩
    · obtain ⟨op, -, rfl⟩ := mem_map.mp hadded
      exact absurd rfl hdone
  · intro job hjob hstage hpersistable
    rcases mem_append.mp hjob with hold | hadded
    · exact absurd hstage (released_of_not_inBatch (hkept.staffed.idle hidle job hold))
    · obtain ⟨op, hop, rfl⟩ := mem_map.mp hadded
      exact running_of_startPending (hbatch op hop).1 (mem_filter.mp hop).2 hpersistable
  · intro job hjob
    rw [append_nil]
    rcases mem_append.mp hjob with hold | hadded
    · exact hkept.known.taken _ (.inr (mem_map_of_mem hold))
    · obtain ⟨op, hop, rfl⟩ := mem_map.mp hadded
      exact hkept.known.queue op (hbatch op hop).1

theorem Kept.press (hkept : journal.Kept) (hidle : journal.ahead = none)
    {key : QueueKey} (hnew : key.newIds.Nodup)
    (hfresh : ∀ id ∈ key.newIds, id ∉ journal.issued) :
    (journal.press key).Kept := by
  cases key with
  | enqueue ops => exact hkept.enqueue hnew hfresh _
  | dequeue index => exact hkept.shrink (eraseIdx_sublist _ _) _
  | executeQueue => exact hkept.execute hidle
  | tick nowSecs =>
    simp only [Journal.press, Journal.reduce, QueueKey.action, updateQueue]
    exact hkept.shrink (garbageCollect_sublist journal.queue nowSecs) _

variable {place : Nat}

theorem Kept.receive (hkept : journal.Kept) {id : String}
    {status : OpStatus} (hplace : journal.reports[place]? = some (id, status)) :
    Kept { journal.reduce (.statusChanged id status) with
      reports := journal.reports.eraseIdx place } := by
  have hstatus := hkept.reports _ (mem_of_getElem? hplace)
  refine hkept.requeue _ ?_ ?_ ?_ (fun id hid => hid) ?_
  · change ((setStatus id status journal.queue).map (·.id)).Nodup
    rw [map_id_setStatus]
    exact hkept.queueIds
  · intro op hop hpending
    rcases mem_setStatus hop with hold | ⟨old, -, rfl, -⟩
    · exact hkept.clear.queue op hold hpending
    · exact absurd hpending hstatus
  · intro op hop
    rcases mem_setStatus hop with hold | ⟨old, hold, rfl, -⟩
    · exact hkept.known.queue op hold
    · exact hkept.known.queue old hold
  · exact fun report hreport => hkept.reports report (mem_of_mem_eraseIdx hreport)

theorem Kept.report (hkept : journal.Kept) (job : QueueJob) {status : OpStatus}
    (hstatus : status ≠ .pending) : (journal.report job status).Kept := by
  unfold Journal.report
  split
  · refine hkept.requeue _ hkept.queueIds hkept.clear.queue hkept.known.queue (fun id hid => hid) ?_
    intro report hreport
    rcases mem_append.mp hreport with hold | hnew
    · exact hkept.reports report hold
    · obtain rfl := mem_singleton.mp hnew
      exact hstatus
  · exact hkept

theorem Kept.drop (hkept : journal.Kept) (place : Nat) : (journal.drop place).Kept := by
  have hsub := eraseIdx_sublist journal.jobs place
  have hkept' : Kept { journal with
      jobs := journal.jobs.eraseIdx place, history := journal.history ++ []
      reports := journal.reports } := by
    refine hkept.rejob ?_ (nofun) ?_ ?_ hkept.reports
    · rw [append_nil]
      exact hkept.staffed.once.sublist ((hsub.map _).append_left _)
    · exact fun job hjob => ⟨job, hsub.subset hjob, rfl, Iff.rfl, id⟩
    · rw [append_nil]
      exact hkept.order
  rwa [append_nil] at hkept'

variable {job : QueueJob}

/-- An operation is sent by its task: it was released, so its running record is
committed, and no other job has its id. -/
theorem Kept.send (hkept : journal.Kept)
    (hplace : journal.jobs[place]? = some job) (hstage : job.stage = .working) :
    (journal.send place job.op).Kept := by
  obtain ⟨hlt, hget⟩ := List.getElem?_eq_some_iff.mp hplace
  have hjob := mem_of_getElem? hplace
  have hdone : job.Released := by simp [QueueJob.Released, hstage]
  have hperm : (job.op.id :: (journal.jobs.eraseIdx place).map (·.op.id)).Perm
      journal.jobIds := by
    have hjobs := (getElem_cons_eraseIdx_perm hlt).map (·.op.id)
    rwa [hget] at hjobs
  have hnot : job.op.id ∉ sentIds journal.history := fun hsent =>
    (nodup_append.mp hkept.staffed.once).2.2 _ hsent _ (mem_map_of_mem hjob) rfl
  refine hkept.rejob ?_ ?_ ?_ ?_ hkept.reports
  · rw [sentIds_append, append_assoc]
    exact ((hperm.append_left _).nodup_iff).mpr hkept.staffed.once
  · intro id hid
    obtain rfl : id = job.op.id := by simpa [sentIds, sentId, retiredIds, retires] using hid
    exact .inr ⟨job, hjob, hdone, rfl⟩
  · exact fun other hother => ⟨other, mem_of_mem_eraseIdx hother, rfl, Iff.rfl, id⟩
  · exact hkept.order.concat ⟨hnot, hkept.staffed.recorded job hjob hdone⟩

theorem jobIds_set
    (hplace : journal.jobs[place]? = some job) (stage : JobStage) :
    (journal.jobs.set place { job with stage }).map (·.op.id) = journal.jobIds := by
  obtain ⟨hlt, rfl⟩ := List.getElem?_eq_some_iff.mp hplace
  rw [map_set, jobIds]
  exact ext_getElem (by simp) fun index hone htwo => by
    by_cases hsame : place = index
    · subst hsame
      simp
    · simp [getElem_set_ne hsame]

theorem Kept.approve (hkept : journal.Kept)
    (hplace : journal.jobs[place]? = some job) (hstage : job.stage = .held) :
    Kept { journal with jobs := journal.jobs.set place { job with stage := .approved } } := by
  have hjob := mem_of_getElem? hplace
  have hkept' : Kept { journal with
      jobs := journal.jobs.set place { job with stage := .approved }
      history := journal.history ++ [], reports := journal.reports } := by
    refine hkept.rejob ?_ (nofun) ?_ ?_ hkept.reports
    · rw [append_nil, jobIds_set hplace]
      exact hkept.staffed.once
    · intro other hother
      rcases mem_or_eq_of_mem_set hother with hold | rfl
      · exact ⟨other, hold, rfl, Iff.rfl, id⟩
      · exact ⟨job, hjob, rfl, by simp [hstage], by simp [QueueJob.inBatch]⟩
    · rw [append_nil]
      exact hkept.order
  rwa [append_nil] at hkept'

theorem Kept.redispatch (hkept : journal.Kept) (hidle : journal.ahead = none) (hplace : journal.jobs[place]? = some job)
    (hstage : job.stage = .approved) :
    (journal.beginDispatch (journal.jobs.set place { job with stage := .rebatched })).Kept := by
  have hjob := mem_of_getElem? hplace
  have hids := jobIds_set hplace .rebatched
  refine hkept.beginDispatch (hids ▸ hkept.staffed.once) ?_ ?_ ?_ ?_
  · intro op hop hpending hid
    rw [hids] at hid
    exact hkept.clear.queue op hop hpending (.inr hid)
  · intro other hother hdone
    rcases mem_or_eq_of_mem_set hother with hold | rfl
    · exact ⟨other, hold, rfl, hdone⟩
    · exact ⟨job, hjob, rfl, by simp [QueueJob.Released, hstage]⟩
  · intro other hother hbatched
    rcases mem_or_eq_of_mem_set hother with hold | rfl
    · exact absurd hbatched (released_of_not_inBatch (hkept.staffed.idle hidle other hold))
    · cases hbatched
  · intro other hother
    have hid := mem_map_of_mem (f := (·.op.id)) hother
    rw [hids] at hid
    exact hkept.known.taken _ (.inr hid)

theorem orphan_eq_some {left : QueueJob} (hleft : job.orphan = some left) :
    left.op = job.op ∧ left.stage = .working ∧ job.stage = .working := by
  unfold QueueJob.orphan at hleft
  split at hleft
  next hstage =>
    cases hleft
    exact ⟨rfl, hstage, hstage⟩
  next => cases hleft

theorem orphan_ids (jobs : List QueueJob) : ((jobs.filterMap QueueJob.orphan).map (·.op.id)).Sublist
    (jobs.map (·.op.id)) := by
  induction jobs with
  | nil => exact List.Sublist.refl _
  | cons job rest ih =>
    cases hleft : job.orphan with
    | none =>
      rw [filterMap_cons_none hleft]
      exact ih.cons _
    | some left =>
      rw [filterMap_cons_some hleft, map_cons, map_cons, (orphan_eq_some hleft).1]
      exact ih.cons_cons _

/-- Every step keeps the invariant. -/
theorem step_kept {policies : List Policy} {event : JournalEvent}
    {next : Journal} (hfresh : FreshIds journal event)
    (hstep : journal.step policies event = some next) (hkept : journal.Kept) :
    next.Kept := by
  revert hstep
  fun_cases Journal.step policies journal event <;> intro hstep <;> cases hstep
  next key hidle =>
    exact hkept.press (Option.isNone_iff_eq_none.mp hidle) hfresh.1 hfresh.2
  next place id status hplace _ => exact hkept.receive hplace
  next place job hplace hidle hstage => exact hkept.redispatch hidle hplace hstage
  next hidle => exact hkept.handOver (Option.isNone_iff_eq_none.mp hidle.1)
  next works view snapshot hahead saved answer hsaved =>
    have hwritten := hkept.writeAhead hahead works policies view
    rwa [hsaved] at hwritten
  next place works save hplace => exact hkept.saveEnds hplace works
  next place job hplace hstage => exact hkept.approve hplace hstage
  next place _ job _ _ _ => exact (hkept.drop place).report job (by simp)
  next place _ _ job _ _ _ _ => exact (hkept.drop place).report job (by simp)
  next place lookup answer job hplace hstage _ _ =>
    refine (hkept.send hplace hstage).report job ?_
    cases answer <;> simp [answerStatus]
  next loads =>
    refine hkept.openSession loads le_rfl rfl (nil_sublist _) ?_
    nofun
  next loads seq written hends =>
    obtain ⟨-, -, hsaves, -, -, hwritten⟩ := hends
    refine hkept.openSession loads hwritten hsaves (orphan_ids journal.jobs) ?_
    intro left hleft
    obtain ⟨job, hjob, horphan⟩ := mem_filterMap.mp hleft
    obtain ⟨hop, hstage, hworking⟩ := orphan_eq_some horphan
    exact ⟨hstage, job, hjob, hop.symm, hworking⟩

end Journal

end Steps

section Moves

namespace Journal

variable {journal next : Journal} {policies : List Policy}
  {event : JournalEvent}

/-- What a step does to the history and the jobs. -/
inductive Move (journal : Journal) : JournalEvent → Journal → Prop where
  /-- Only snapshots are committed, and new jobs come from the queue. -/
  | quiet {event : JournalEvent} {next : Journal} (facts : List QueueFact)
      (hfacts : ∀ fact ∈ facts, ∃ entries, fact = .committed entries)
      (hhistory : next.history = journal.history ++ facts)
      (hjobs : ∀ id ∈ next.jobIds, id ∈ journal.jobIds ∨
        ∃ op ∈ journal.queue, op.status = .pending ∧ op.id = id) :
      Move journal event next
  /-- A job is sent. -/
  | sends {event : JournalEvent} {next : Journal} (job : QueueJob)
      (hjob : job ∈ journal.jobs)
      (hhistory : next.history = journal.history ++ [.sent job.op])
      (hjobs : ∀ id ∈ next.jobIds, id ∈ journal.jobIds) :
      Move journal event next
  /-- A session opens; a job is left only in the same process. -/
  | opens {event : JournalEvent} {next : Journal}
      (entries : List PersistedQueueEntry)
      (hhistory : next.history = journal.history ++ [.restored entries])
      (hjobs : Drained journal event → next.jobs = []) :
      Move journal event next

@[simp] theorem report_history (journal : Journal) (job : QueueJob) (status : OpStatus) :
    (journal.report job status).history = journal.history := by
  unfold report
  split <;> rfl

@[simp] theorem report_jobIds (journal : Journal) (job : QueueJob) (status : OpStatus) :
    (journal.report job status).jobIds = journal.jobIds := by
  unfold report
  split <;> rfl

theorem drop_jobIds (journal : Journal) (place : Nat) :
    ∀ id ∈ (journal.drop place).jobIds, id ∈ journal.jobIds :=
  fun _ hid => ((eraseIdx_sublist _ _).map _).subset hid

/-- A step that leaves the history, and adds no job. -/
theorem Move.still (hhistory : next.history = journal.history)
    (hjobs : ∀ id ∈ next.jobIds, id ∈ journal.jobIds) :
    Move journal event next :=
  .quiet [] (by simp) (by simpa using hhistory) fun id hid => .inl (hjobs id hid)

/-- A job ends without a call. -/
theorem Move.drops {job : QueueJob} {status : OpStatus} (place : Nat) :
    Move journal event ((journal.drop place).report job status) :=
  .still (by simp [Journal.drop]) fun id hid => drop_jobIds journal place id (by simpa using hid)

theorem updateQueue_eq_some {queue ops : List QueuedOp} {action : QueueAction}
    (hops : (updateQueue queue action).2 = some ops) :
    ops = queue.filter isPending := by
  cases action with
  | executeQueue => exact (Option.some.inj hops).symm
  | _ => cases hops

theorem press_move (journal : Journal) (key : QueueKey) :
    Move journal (.press key) (journal.press key) := by
  unfold Journal.press
  dsimp only
  split
  next ops hops =>
    refine .quiet [] (by simp) (append_nil _).symm ?_
    intro id hid
    obtain ⟨job, hjob, rfl⟩ := mem_map.mp hid
    rcases mem_append.mp hjob with hold | hadded
    · exact .inl (mem_map_of_mem hold)
    · obtain ⟨op, hop, rfl⟩ := mem_map.mp hadded
      rw [updateQueue_eq_some hops] at hop
      obtain ⟨hqueue, hpending⟩ := mem_filter.mp hop
      exact .inr ⟨op, hqueue, by simpa [isPending] using hpending, rfl⟩
  next => exact .still rfl fun _ hid => hid

theorem saveQueueSnapshot_move (journal : Journal) (snapshot : QueueSnapshot) (works : Bool) :
    ∃ facts : List QueueFact, (∀ fact ∈ facts, ∃ entries, fact = .committed entries) ∧
      (journal.saveQueueSnapshot snapshot works).1.history = journal.history ++ facts ∧
      (journal.saveQueueSnapshot snapshot works).1.jobs = journal.jobs := by
  rcases saveQueueSnapshot_cases journal snapshot works with
    ⟨-, hresult⟩ | ⟨-, hresult⟩ | ⟨-, -, hresult⟩
  · exact ⟨[], by simp, by simp [hresult], by rw [hresult]⟩
  · exact ⟨[], by simp, by simp [hresult], by rw [hresult]⟩
  · refine ⟨[.committed snapshot.entries], ?_, by rw [hresult], by rw [hresult]⟩
    intro fact hfact
    exact ⟨snapshot.entries, mem_singleton.mp hfact⟩

theorem finishDispatch_move (journal : Journal) (policies : List Policy)
    (view : TuiView) (answer : Option Bool) :
    (journal.finishDispatch policies view answer).history = journal.history ∧
      ∀ id ∈ (journal.finishDispatch policies view answer).jobIds, id ∈ journal.jobIds := by
  refine ⟨by cases answer <;> rfl, ?_⟩
  intro id hid
  obtain ⟨job, hjob, rfl⟩ := mem_map.mp hid
  cases answer with
  | none => exact mem_map_of_mem (mem_of_mem_filter hjob)
  | some wrote =>
    obtain ⟨old, hold, rfl⟩ := mem_map.mp hjob
    rw [released_op]
    exact mem_map_of_mem hold

theorem step_move (hstep : journal.step policies event = some next) : Move journal event next := by
  revert hstep
  fun_cases Journal.step policies journal event <;> intro hstep <;> cases hstep
  next key _ => exact press_move journal key
  next => exact .still rfl fun _ => id
  next place job hplace _ _ =>
    refine .still rfl fun id hid => ?_
    rwa [jobIds, Journal.beginDispatch, jobIds_set hplace] at hid
  next => exact .still rfl fun _ => id
  next works view snapshot _ saved answer hsaved =>
    obtain ⟨facts, hfacts, hhistory, hjobs⟩ := saveQueueSnapshot_move journal snapshot works
    rw [hsaved] at hhistory hjobs
    obtain ⟨hsame, hids⟩ := finishDispatch_move saved policies view answer
    refine .quiet facts hfacts (hsame.trans hhistory) fun id hid => .inl ?_
    have hold := hids id hid
    rwa [jobIds, hjobs] at hold
  next place works save _ =>
    obtain ⟨facts, hfacts, hhistory, hjobs⟩ := saveQueueSnapshot_move journal save works
    refine .quiet facts hfacts hhistory fun id hid => .inl ?_
    rwa [jobIds, hjobs] at hid
  next place job hplace _ =>
    refine .still rfl fun id hid => ?_
    rwa [jobIds, jobIds_set hplace] at hid
  next place _ _ _ _ _ => exact .drops place
  next place _ _ _ _ _ _ _ => exact .drops place
  next place _ _ job hplace _ _ _ =>
    refine .sends job (mem_of_getElem? hplace) (by simp [Journal.send]) fun id hid => ?_
    rw [report_jobIds] at hid
    exact drop_jobIds journal place id hid
  next => exact .opens _ rfl fun _ => rfl
  next =>
    refine .opens _ rfl fun hdrained => ?_
    refine filterMap_eq_nil_iff.mpr fun job hjob => ?_
    simp [QueueJob.orphan, hdrained job hjob]

/-- Nobody has an operation that was restored as running. -/
structure Settled (journal : Journal) : Prop where
  idle : ∀ id ∈ retiredIds journal.history, id ∉ journal.jobIds
  order : AtEach SentUnretired journal.history

theorem step_settled (hdrained : Drained journal event)
    (hstep : journal.step policies event = some next) (hkept : journal.Kept)
    (hsettled : journal.Settled) : next.Settled := by
  cases step_move hstep with
  | quiet facts hfacts hhistory hjobs =>
    have hretired : retiredIds next.history = retiredIds journal.history := by
      have hnone : retiredIds facts = [] := by
        refine flatMap_eq_nil_iff.mpr fun fact hfact => ?_
        obtain ⟨entries, rfl⟩ := hfacts fact hfact
        rfl
      rw [hhistory, retiredIds_append, hnone, append_nil]
    constructor
    · intro id hid hjob
      rw [hretired] at hid
      rcases hjobs id hjob with hold | ⟨op, hop, hpending, rfl⟩
      · exact hsettled.idle id hid hold
      · exact hkept.clear.queue op hop hpending (.inl (.inr hid))
    · rw [hhistory]
      refine hsettled.order.append fun before fact hfact => ?_
      obtain ⟨entries, rfl⟩ := hfacts fact hfact
      trivial
  | sends job hjob hhistory hjobs =>
    have hid : job.op.id ∈ journal.jobIds := mem_map_of_mem hjob
    constructor
    · intro id hretired hleft
      rw [hhistory, retiredIds_append] at hretired
      refine hsettled.idle id ?_ (hjobs id hleft)
      simpa [retiredIds, retires] using hretired
    · rw [hhistory]
      exact hsettled.order.concat fun hretired => hsettled.idle job.op.id hretired hid
  | opens entries hhistory hjobs =>
    constructor
    · intro id _ hjob
      rw [jobIds, hjobs hdrained] at hjob
      cases hjob
    · rw [hhistory]
      exact hsettled.order.concat trivial

end Journal

end Moves

section Histories

variable {policies : List Policy}

theorem Journal.start_kept : Journal.start.Kept where
  clear := by constructor <;> nofun
  numbered := ⟨nofun, le_rfl, nofun⟩
  known := ⟨nofun, (by rintro id ((hid | hid) | hid) <;> cases hid), nofun, nofun, nofun⟩
  staffed := ⟨nodup_nil, nofun, nofun, nofun⟩
  queueIds := nodup_nil
  diskIds := nodup_nil
  reports := nofun
  order := atEach_nil

@[simp] theorem Journal.report_issued (journal : Journal) (job : QueueJob) (status : OpStatus) :
    (journal.report job status).issued = journal.issued := by
  unfold Journal.report
  split <;> rfl

theorem Journal.saveQueueSnapshot_issued (journal : Journal)
    (snapshot : QueueSnapshot) (works : Bool) :
    (journal.saveQueueSnapshot snapshot works).1.issued = journal.issued := by
  unfold Journal.saveQueueSnapshot
  split
  · rfl
  · split <;> rfl

theorem Journal.finishDispatch_issued (journal : Journal) (view : TuiView) (answer : Option Bool) :
    (journal.finishDispatch policies view answer).issued = journal.issued := by cases answer <;> rfl

theorem Journal.step_issued {journal next : Journal} {event : JournalEvent}
    (hstep : journal.step policies event = some next) :
    next.issued = journal.issued ++ event.newIds := by
  revert hstep
  fun_cases Journal.step policies journal event <;> intro hstep <;> cases hstep
  case case1.refl =>
    unfold Journal.press
    dsimp only
    split <;> rfl
  case case10.refl works view snapshot _ saved answer hsaved =>
    have hissued := journal.saveQueueSnapshot_issued snapshot works
    rw [hsaved] at hissued
    exact ((saved.finishDispatch_issued view answer).trans hissued).trans (append_nil _).symm
  all_goals simp [JournalEvent.newIds, Journal.saveQueueSnapshot_issued, Journal.reduce,
    Journal.beginDispatch, Journal.openSession, Journal.drop, Journal.send]

/-- With distinct ids over the whole history every step issues new ones. -/
theorem stepsMeet_freshIds {journal : Journal} {events : List JournalEvent}
    (hdistinct : (journal.issued ++ events.flatMap JournalEvent.newIds).Nodup) :
    StepsMeet (Journal.step policies) FreshIds journal events := by
  induction events generalizing journal with
  | nil => trivial
  | cons event rest ih =>
    rw [flatMap_cons, ← append_assoc] at hdistinct
    have hfirst := (nodup_append.mp hdistinct).1
    refine ⟨⟨(nodup_append.mp hfirst).2.1, ?_⟩, ?_⟩
    · intro id hnew hold
      exact (nodup_append.mp hfirst).2.2 id hold id hnew rfl
    · intro next hstep
      exact ih (by rwa [Journal.step_issued hstep])

/-- Over any number of sessions, whatever the saves, the approvals and the cluster
do and wherever a process dies, an operation is sent at most once and only behind
a committed record of it as running.  One that is restored from such a record is
not sent, as long as a profile is not opened again in the same process while a
task of its last session is still sending. -/
theorem queue_ops_sent_once (policies : List Policy)
    (events : List JournalEvent) (last : Journal)
    (hrun : runFrom (Journal.step policies) Journal.start events = some last)
    (hdistinct : (events.flatMap JournalEvent.newIds).Nodup) :
    AtEach SentOnce last.history ∧
      (StepsMeet (Journal.step policies) Drained Journal.start events →
        AtEach SentUnretired last.history) := by
  have hfresh : StepsMeet (Journal.step policies) FreshIds Journal.start
      events := stepsMeet_freshIds hdistinct
  constructor
  · exact (invariant_of_stepsMeet Journal.step_kept hfresh Journal.start_kept hrun).order
  · intro hdrained
    have hstart : Journal.start.Settled := ⟨(nofun), atEach_nil⟩
    have hstep : ∀ {journal event next}, FreshIds journal event ∧ Drained journal event →
        Journal.step policies journal event = some next →
        journal.Kept ∧ journal.Settled → next.Kept ∧ next.Settled :=
      fun hok hstep hinv => ⟨Journal.step_kept hok.1 hstep hinv.1,
        Journal.step_settled hok.2 hstep hinv.1 hinv.2⟩
    have hboth := invariant_of_stepsMeet hstep (hfresh.and hdrained)
      ⟨Journal.start_kept, hstart⟩ hrun
    exact hboth.2.order

end Histories

namespace QueueWitness

def migration : NewOp where
  id := "1-0"
  action := .migrateGuest 101 "pve2"
  description := "Migrate Guest 101 (db)"
  diff := "101 node: pve1 -> pve2"
  createdAtSecs := 0
  force := false

def guest : Guest where
  vmid := 101
  status := .stopped
  guestType := .qemu
  node := "pve1"
  uptime := 0
  tags := ""
  lock := ""
  hastate := ""
  netin := 0
  netout := 0

def view : TuiView := { guests := [guest], secureMode := false }

/-- The operation is queued, executed and written ahead. -/
def dispatched : List JournalEvent :=
  [.press (.enqueue [migration]), .press .executeQueue, .writeAhead true view]

def sentAndLost : List JournalEvent :=
  dispatched ++ [.work 0 (.ok guest) (.ok ()), .crash true,
    .press .executeQueue, .writeAhead true view]

/-- The process dies behind the call; the next one restores the operation as
interrupted, and executing the queue again sends nothing. -/
theorem queue_ops_sent_once_over_crash :
    ∃ last, runFrom (Journal.step []) Journal.start sentAndLost = some last ∧
      sentIds last.history = ["1-0"] ∧
      last.queue.map (·.status) = [.error interrupted] ∧
      AtEach SentOnce last.history ∧ AtEach SentUnretired last.history := by
  have hdrained : StepsMeet (Journal.step []) Drained Journal.start
      sentAndLost := by
    refine ⟨trivial, fun _ _ => ⟨trivial, fun _ _ => ⟨trivial, fun _ _ =>
      ⟨trivial, fun _ _ => ⟨trivial, fun _ _ => ⟨trivial, fun _ _ =>
        ⟨trivial, fun _ _ => trivial⟩⟩⟩⟩⟩⟩⟩
  have hsome : (runFrom (Journal.step []) Journal.start sentAndLost).isSome := by decide +kernel
  obtain ⟨last, hrun⟩ := Option.isSome_iff_exists.mp hsome
  have hresult : (runFrom (Journal.step []) Journal.start sentAndLost).map
      (fun last => (sentIds last.history, last.queue.map (·.status))) =
        some (["1-0"], [.error interrupted]) := by decide +kernel
  rw [hrun, Option.map_some, Option.some.injEq, Prod.mk.injEq] at hresult
  obtain ⟨honce, hnever⟩ := queue_ops_sent_once [] sentAndLost last hrun (by decide +kernel)
  exact ⟨last, hrun, hresult.1, hresult.2, honce, hnever hdrained⟩

def record : PersistedQueueEntry where
  id := "1-0"
  description := "Migrate Guest 101 (db)"
  diff := "101 node: pve1 -> pve2"
  status := .running
  op := .migrateGuest 101 "pve2"
  createdAtSecs := 0

def reopened : List JournalEvent :=
  dispatched ++ [.handOver, .saveEnds 0 true, .reopen true 2 2, .work 0 (.ok guest) (.ok ())]

/-- The profile is opened again in the same process before the task has sent the
operation: it is restored as interrupted, and then sent. -/
theorem queue_op_sent_after_restore :
    ∃ last before, runFrom (Journal.step []) Journal.start reopened = some last ∧
      last.queue.map (·.status) = [.error interrupted] ∧
      last.history = before ++ [.sent (QueuedOp.new migration)] ∧
      .restored [record] ∈ before ∧ "1-0" ∈ retiredIds before := by
  have hresult : (runFrom (Journal.step []) Journal.start reopened).map
      (fun last => (last.queue.map (·.status), last.history)) = some ([.error interrupted],
          [.committed [record], .committed [record], .restored [record]] ++
            [.sent (QueuedOp.new migration)]) := by decide +kernel
  obtain ⟨last, hrun, hlast⟩ := Option.map_eq_some_iff.mp hresult
  obtain ⟨hqueue, hhistory⟩ := Prod.mk.inj hlast
  exact ⟨last, _, hrun, hqueue, hhistory, by simp, by decide +kernel⟩

end QueueWitness

end Proxxx
