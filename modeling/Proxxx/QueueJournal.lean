/-
The life of the operation queue over sessions: the reducer's queue, the numbered
snapshots that writers bring to disk in any order, the write-ahead in front of a
dispatch, the tasks that send operations, crashes, and sessions that are opened
again in the same process.
-/
import Mathlib.Data.List.Sort
import Proxxx.SeparatedFields
import Proxxx.StepSystem
import Proxxx.TuiDispatch

namespace Proxxx

open StepSystem List

section States

/-- A copy of the queue on its way to disk, with its number. -/
structure QueueSnapshot where
  seq : Nat
  entries : List PersistedQueueEntry
deriving Repr, DecidableEq

/-- Where an executed operation is: in the batch behind a write-ahead, waiting for
an approval, approved, in the batch behind the write-ahead after its approval, or
with the task that sends it. -/
inductive JobStage where
  | batched
  | held
  | approved
  | rebatched
  | working
deriving Repr, DecidableEq

/-- `heard`: the session that started the job still reads its reports. -/
structure QueueJob where
  op : QueuedOp
  stage : JobStage
  heard : Bool
deriving Repr, DecidableEq

/-- What happens for good: a snapshot reaches the disk, an operation is sent to
PVE, a session reads the queue back. -/
inductive QueueFact where
  | committed (entries : List PersistedQueueEntry)
  | sent (op : QueuedOp)
  | restored (entries : List PersistedQueueEntry)
deriving Repr, DecidableEq

/-- `seq` and `written` belong to the process, `queue` to `reports` to the session.
The history, and the ids that were ever issued, are kept for the statements. -/
structure Journal where
  disk : List PersistedQueueEntry
  seq : Nat
  written : Nat
  saves : List QueueSnapshot
  queue : List QueuedOp
  dirty : Bool
  ahead : Option QueueSnapshot
  reports : List (String × OpStatus)
  jobs : List QueueJob
  history : List QueueFact
  issued : List String
deriving Repr, DecidableEq

def Journal.start : Journal where
  disk := []
  seq := 0
  written := 0
  saves := []
  queue := []
  dirty := false
  ahead := none
  reports := []
  jobs := []
  history := []
  issued := []

end States

section Saving

namespace Journal

/-- The id is the primary key of the table. -/
def storable (entries : List PersistedQueueEntry) : Prop :=
  (entries.map (·.id)).Nodup

instance (entries : List PersistedQueueEntry) : Decidable (storable entries) :=
  inferInstanceAs (Decidable (List.Nodup _))

/-- Write a snapshot unless a newer one has been written; `works` is the database.
The answer is `none` for an error. -/
def saveQueueSnapshot (journal : Journal) (snapshot : QueueSnapshot)
    (works : Bool) : Journal × Option Bool :=
  if snapshot.seq ≤ journal.written then (journal, some false)
  else if works = true ∧ storable snapshot.entries then
    ({ journal with
        disk := snapshot.entries, written := snapshot.seq
        history := journal.history ++ [.committed snapshot.entries] },
      some true)
  else (journal, none)

/-- A snapshot of the queue as it is, with the next number. -/
def snapshot (journal : Journal) : QueueSnapshot where
  seq := journal.seq + 1
  entries := persistedEntries journal.queue

/-- The order in which the table is read. -/
def loadQueue (journal : Journal) : List PersistedQueueEntry :=
  journal.disk.insertionSort fun first second => first.id ≤ second.id

end Journal

end Saving

section Steps

/-- Whether an action marks the queue as changed. -/
def marksDirty (queue : List QueuedOp) : QueueAction → Bool
  | .enqueue ops => !ops.isEmpty
  | .dequeue index => decide (index < queue.length)
  | .executeQueue => true
  | .statusChanged id _ => queue.any (·.id == id)
  | .tick nowSecs => decide ((garbageCollect queue nowSecs).length < queue.length)

/-- The keys and the clock of the interface. -/
inductive QueueKey where
  | enqueue (ops : List NewOp)
  | dequeue (index : Nat)
  | executeQueue
  | tick (nowSecs : Nat)
deriving Repr, DecidableEq

def QueueKey.action : QueueKey → QueueAction
  | .enqueue ops => .enqueue ops
  | .dequeue index => .dequeue index
  | .executeQueue => .executeQueue
  | .tick nowSecs => .tick nowSecs

def QueueKey.newIds : QueueKey → List String
  | .enqueue ops => ops.map (·.id)
  | _ => []

/-- The next stage of a job when its write-ahead is done. -/
def QueueJob.released (policies : List Policy) (view : TuiView) (job : QueueJob) : QueueJob :=
  match job.stage with
  | .batched =>
    if (queueNeed policies view false job.op).isSome then
      { job with stage := .held }
    else { job with stage := .working }
  | .rebatched => { job with stage := .working }
  | _ => job

def QueueJob.inBatch (job : QueueJob) : Bool :=
  job.stage == .batched || job.stage == .rebatched

/-- What is left of a job when its session ends: approvals are lost, but a task
goes on sending. -/
def QueueJob.orphan (job : QueueJob) : Option QueueJob :=
  if job.stage = .working then some { job with heard := false } else none

/-- One step.  The loop presses a key, takes a report of a task or the approval of
a job, hands a snapshot to the writer, or goes on behind the write-ahead; a save
ends; a held job is decided; a task works on one of its operations; the process
dies and another one starts; or the session ends and the process opens it again,
with the numbers that other sessions have used up. -/
inductive JournalEvent where
  | press (key : QueueKey)
  | receive (report : Nat)
  | redispatch (job : Nat)
  | handOver
  | writeAhead (works : Bool) (view : TuiView)
  | saveEnds (save : Nat) (works : Bool)
  | decide (job : Nat) (approved : Bool)
  | work (job : Nat) (lookup : Except String Guest) (answer : Except String Unit)
  | crash (loads : Bool)
  | reopen (loads : Bool) (seq written : Nat)

def JournalEvent.newIds : JournalEvent → List String
  | .press key => key.newIds
  | _ => []

namespace Journal

/-- The queue after an action of the reducer. -/
def reduce (journal : Journal) (action : QueueAction) : Journal :=
  { journal with
    queue := (updateQueue journal.queue action).1
    dirty := journal.dirty || marksDirty journal.queue action }

/-- The dispatch of a batch starts with its write-ahead. -/
def beginDispatch (journal : Journal) (jobs : List QueueJob) : Journal :=
  { journal with
    seq := journal.seq + 1, ahead := some journal.snapshot
    jobs }

def press (journal : Journal) (key : QueueKey) : Journal :=
  let reduced :=
    { journal.reduce key.action with issued := journal.issued ++ key.newIds }
  match (updateQueue journal.queue key.action).2 with
  | some ops =>
    reduced.beginDispatch (journal.jobs ++ ops.map fun op =>
      { op, stage := .batched, heard := true })
  | none => reduced

/-- Without its write-ahead a batch is not dispatched. -/
def finishDispatch (journal : Journal) (policies : List Policy)
    (view : TuiView) : Option Bool → Journal
  | some _ =>
    { journal with
      ahead := none, jobs := journal.jobs.map (QueueJob.released policies view) }
  | none =>
    { journal with
      ahead := none, jobs := journal.jobs.filter fun job => !job.inBatch }

def report (journal : Journal) (job : QueueJob) (status : OpStatus) : Journal :=
  if job.heard then
    { journal with reports := journal.reports ++ [(job.op.id, status)] }
  else journal

def drop (journal : Journal) (place : Nat) : Journal :=
  { journal with jobs := journal.jobs.eraseIdx place }

/-- An operation goes to PVE. -/
def send (journal : Journal) (place : Nat) (op : QueuedOp) : Journal :=
  { journal.drop place with history := journal.history ++ [.sent op] }

def answerStatus : Except String Unit → OpStatus
  | .ok _ => .success
  | .error text => .error text

/-- A session reads the queue, or starts with an empty one if that fails. -/
def openSession (journal : Journal) (loads : Bool) : Journal :=
  let entries := if loads then journal.loadQueue else []
  { journal with
    queue := restoreQueue entries, dirty := false, ahead := none, reports := []
    history := journal.history ++ [.restored entries] }

def step (policies : List Policy) (journal : Journal) : JournalEvent → Option Journal
  | .press key => if journal.ahead.isNone then some (journal.press key) else none
  | .receive place =>
    match journal.ahead, journal.reports[place]? with
    | none, some (id, status) =>
      some { journal.reduce (.statusChanged id status) with
        reports := journal.reports.eraseIdx place }
    | _, _ => none
  | .redispatch place =>
    match journal.ahead, journal.jobs[place]? with
    | none, some job =>
      if job.stage = .approved then
        some (journal.beginDispatch
          (journal.jobs.set place { job with stage := .rebatched }))
      else none
    | _, _ => none
  | .handOver =>
    if journal.ahead.isNone ∧ journal.dirty then
      some { journal with
        seq := journal.seq + 1, saves := journal.saves ++ [journal.snapshot], dirty := false }
    else none
  | .writeAhead works view =>
    match journal.ahead with
    | some snapshot =>
      let (saved, answer) := journal.saveQueueSnapshot snapshot works
      some (saved.finishDispatch policies view answer)
    | none => none
  | .saveEnds place works =>
    match journal.saves[place]? with
    | some save =>
      some { (journal.saveQueueSnapshot save works).1 with
        saves := journal.saves.eraseIdx place }
    | none => none
  | .decide place approved =>
    match journal.jobs[place]? with
    | some job =>
      if job.stage = .held then
        if approved then
          some { journal with
            jobs := journal.jobs.set place { job with stage := .approved } }
        else
          some ((journal.drop place).report job (.error "HITL approval denied or timed out"))
      else none
    | none => none
  | .work place lookup answer =>
    match journal.jobs[place]? with
    | some job =>
      if job.stage = .working then
        match workOp job.op lookup with
        | .error text => some ((journal.drop place).report job (.error text))
        | .ok _ =>
          some ((journal.send place job.op).report job (answerStatus answer))
      else none
    | none => none
  | .crash loads =>
    some (openSession
      { journal with seq := 0, written := 0, saves := [], jobs := [] } loads)
  | .reopen loads seq written =>
    -- The interface hands over its last snapshot and waits for the writer.
    if journal.ahead.isNone ∧ journal.dirty = false ∧ journal.saves = [] ∧
        journal.seq ≤ seq ∧ journal.written ≤ written ∧ written ≤ seq then
      some (openSession
        { journal with
          seq
          written
          jobs := journal.jobs.filterMap QueueJob.orphan } loads)
    else none

end Journal

end Steps

section Order

/-- A call of the constructor: the clock, the number that the process hands out,
and the operation. -/
structure OpCall where
  micros : Nat
  seq : Nat
  op : NewOp

def OpCall.id (call : OpCall) : String :=
  toString call.micros ++ "-" ++ toString call.seq

def OpCall.queued (call : OpCall) : QueuedOp :=
  .new { call.op with id := call.id }

theorem OpCall.seq_of_id {call call' : OpCall} (hid : call.id = call'.id) :
    call.seq = call'.seq := by
  have hfree : ∀ value : Nat, '-' ∉ (toString value).toList := by
    intro value hdash
    exact absurd (RustStr.isDigit_of_mem_toString hdash) (by decide)
  have hlist := congrArg String.toList hid
  simp only [OpCall.id, String.toList_append, append_assoc] at hlist
  have hmicros := SeparatedFields.first_field_inj (hfree _) (hfree _) hlist
  rw [hmicros] at hlist
  exact Nat.repr_injective (String.toList_inj.mp (append_cancel_left (append_cancel_left hlist)))

variable {calls : List OpCall}
  (hpersistable : ∀ call ∈ calls, (call.op.action.toPersisted).isSome)
include hpersistable

theorem ids_persistedEntries : (persistedEntries (calls.map OpCall.queued)).map (·.id) =
    calls.map OpCall.id := by
  induction calls with
  | nil => rfl
  | cons call rest ih =>
    obtain ⟨hcall, hrest⟩ := forall_mem_cons.mp hpersistable
    obtain ⟨persisted, hpersisted⟩ := Option.isSome_iff_exists.mp hcall
    have hentry : call.queued.toPersisted.map (·.id) = some call.id := by
      simp [OpCall.queued, QueuedOp.new, QueuedOp.toPersisted, hpersisted]
    obtain ⟨entry, hwritten, hid⟩ := Option.map_eq_some_iff.mp hentry
    simp only [persistedEntries, map_cons, filterMap_cons, hwritten, hid]
    exact congrArg _ (ih hrest)

/-- A queue comes back in its order exactly if its ids ascend as texts. -/
theorem loadQueue_saved_iff (hseqs : calls.Pairwise (·.seq < ·.seq))
    {journal : Journal} {number : Nat} (hnewer : journal.written < number) :
    (journal.saveQueueSnapshot
        ⟨number, persistedEntries (calls.map OpCall.queued)⟩ true).1.loadQueue =
      persistedEntries (calls.map OpCall.queued) ↔
      calls.Pairwise fun first second => first.id ≤ second.id := by
  have hids := ids_persistedEntries hpersistable
  have hstorable : Journal.storable (persistedEntries (calls.map OpCall.queued)) := by
    rw [Journal.storable, hids]
    refine pairwise_map.mpr (hseqs.imp fun hlt hid => ?_)
    exact absurd (OpCall.seq_of_id hid) (Nat.ne_of_lt hlt)
  have hsorted : (persistedEntries (calls.map OpCall.queued)).Pairwise
      (fun first second => first.id ≤ second.id) ↔
      calls.Pairwise fun first second => first.id ≤ second.id := by
    rw [← pairwise_map, hids, pairwise_map]
  rw [Journal.saveQueueSnapshot, if_neg (Nat.not_le_of_lt hnewer),
    if_pos ⟨rfl, hstorable⟩, Journal.loadQueue, ← hsorted]
  constructor
  · intro hsame
    rw [← hsame]
    have htotal : Std.Total fun first second : PersistedQueueEntry =>
        first.id ≤ second.id := ⟨fun _ _ => String.le_total _ _⟩
    have htrans : IsTrans _ fun first second : PersistedQueueEntry =>
        first.id ≤ second.id := ⟨fun _ _ _ => String.le_trans⟩
    exact pairwise_insertionSort _ _
  · exact List.Pairwise.insertionSort_eq

omit hpersistable

/-- A guest is stopped and then started, in one microsecond. -/
def stopThenStart (first second : Nat) : List OpCall :=
  [⟨7, first, ⟨"", .stopGuest 100 false, "", "", 0, false⟩⟩,
    ⟨7, second, ⟨"", .startGuest 100, "", "", 0, false⟩⟩]

/-- The tenth and the eleventh operation come back in the wrong order. -/
theorem eleventh_before_tenth : (Journal.start.saveQueueSnapshot
      ⟨1, persistedEntries ((stopThenStart 9 10).map OpCall.queued)⟩ true).1.loadQueue.map (·.op) =
    [.startGuest 100, .stopGuest 100 false] := by decide +kernel

theorem first_before_second : (Journal.start.saveQueueSnapshot
      ⟨1, persistedEntries ((stopThenStart 0 1).map OpCall.queued)⟩ true).1.loadQueue =
    persistedEntries ((stopThenStart 0 1).map OpCall.queued) :=
  (loadQueue_saved_iff (by decide) (by simp [stopThenStart]) Nat.one_pos).mpr (by decide +kernel)

end Order

end Proxxx
