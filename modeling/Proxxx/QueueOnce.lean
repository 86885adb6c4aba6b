/-
Every queued operation is sent at most once, over all sessions, and only behind a
committed snapshot that has it as running.  The invariant says who may not be
pending where: an operation that was sent, restored as running or released by its
write-ahead is pending neither in the queue, nor on disk, nor in a snapshot that
can still reach the disk.
-/
import Mathlib.Data.List.Perm.Basic
import Proxxx.QueueJournal

namespace Proxxx

open StepSystem List

section Statements

def sentId : QueueFact → Option String
  | .sent op => some op.id
  | _ => none

def sentIds (history : List QueueFact) : List String :=
  history.filterMap sentId

def runningIds (entries : List PersistedQueueEntry) : List String :=
  (entries.filter (·.status == .running)).map (·.id)

/-- The operations that a fact restores from a running record. -/
def retires : QueueFact → List String
  | .restored entries => runningIds entries
  | _ => []

def retiredIds (history : List QueueFact) : List String :=
  history.flatMap retires

def RunningCommitted (history : List QueueFact) (id : String) : Prop :=
  ∃ entries, .committed entries ∈ history ∧ id ∈ runningIds entries

def QueuedOp.Persistable (op : QueuedOp) : Prop :=
  op.toPersisted.isSome = true

/-- An operation is sent for the first time, and a committed snapshot has it as
running. -/
def SentOnce (before : List QueueFact) : QueueFact → Prop
  | .sent op => op.id ∉ sentIds before ∧ (op.Persistable → RunningCommitted before op.id)
  | _ => True

/-- An operation that was restored from a running record is not sent. -/
def SentUnretired (before : List QueueFact) : QueueFact → Prop
  | .sent op => op.id ∉ retiredIds before
  | _ => True

/-- The profile is opened again in the same process only when the tasks of its
last session are through with their operations. -/
def Drained (journal : Journal) : JournalEvent → Prop
  | .reopen .. => ∀ job ∈ journal.jobs, job.stage ≠ .working
  | _ => True

/-- The ids of new operations are new. -/
def FreshIds (journal : Journal) (event : JournalEvent) : Prop :=
  event.newIds.Nodup ∧ ∀ id ∈ event.newIds, id ∉ journal.issued

end Statements

section Histories

variable {history more : List QueueFact} {id : String}

theorem sentIds_append : sentIds (history ++ more) = sentIds history ++ sentIds more :=
  filterMap_append

theorem retiredIds_append : retiredIds (history ++ more) = retiredIds history ++ retiredIds more :=
  flatMap_append

theorem sentIds_concat {fact : QueueFact} (hfact : sentId fact = none) :
    sentIds (history ++ [fact]) = sentIds history := by
  simp [sentIds, hfact]

theorem RunningCommitted.append (hrunning : RunningCommitted history id)
    (more : List QueueFact) : RunningCommitted (history ++ more) id := by
  obtain ⟨entries, hcommitted, hentry⟩ := hrunning
  exact ⟨entries, mem_append_left more hcommitted, hentry⟩

theorem mem_runningIds {entries : List PersistedQueueEntry} : id ∈ runningIds entries ↔
      ∃ entry ∈ entries, entry.status = .running ∧ entry.id = id := by simp [runningIds, and_assoc]

end Histories

section Invariant

/-- An operation in the batch of a first dispatch is not released yet. -/
def QueueJob.Released (job : QueueJob) : Prop :=
  job.stage ≠ .batched

namespace Journal

def jobIds (journal : Journal) : List String :=
  journal.jobs.map (·.op.id)

/-- Sent, or restored as running. -/
def Spent (journal : Journal) (id : String) : Prop :=
  id ∈ sentIds journal.history ∨ id ∈ retiredIds journal.history

/-- The operations that may not be pending in the queue. -/
def Taken (journal : Journal) (id : String) : Prop :=
  journal.Spent id ∨ id ∈ journal.jobIds

/-- The operations that may not be pending on disk. -/
def Barred (journal : Journal) (id : String) : Prop :=
  journal.Spent id ∨ ∃ job ∈ journal.jobs, job.Released ∧ job.op.id = id

/-- No pending record of an operation with the property. -/
def PendingFree (entries : List PersistedQueueEntry) (bad : String → Prop) : Prop :=
  ∀ entry ∈ entries, entry.status = .pending → ¬ bad entry.id

/-- Where operations are not pending. -/
structure Clear (journal : Journal) (taken barred : String → Prop) : Prop where
  queue : ∀ op ∈ journal.queue, op.status = .pending → ¬ taken op.id
  disk : PendingFree journal.disk barred
  saves : ∀ save ∈ journal.saves, journal.written < save.seq → PendingFree save.entries barred
  ahead : ∀ snapshot, journal.ahead = some snapshot → PendingFree snapshot.entries taken

/-- A write-ahead is newer than all that was written or is being written. -/
structure Numbered (journal : Journal) : Prop where
  saves : ∀ save ∈ journal.saves, save.seq ≤ journal.seq
  written : journal.written ≤ journal.seq
  ahead : ∀ snapshot, journal.ahead = some snapshot →
    journal.written < snapshot.seq ∧ snapshot.seq ≤ journal.seq ∧
      ∀ save ∈ journal.saves, save.seq < snapshot.seq

/-- Every id in use has been issued. -/
structure Known (journal : Journal) : Prop where
  queue : ∀ op ∈ journal.queue, op.id ∈ journal.issued
  taken : ∀ id, journal.Taken id → id ∈ journal.issued
  disk : ∀ entry ∈ journal.disk, entry.id ∈ journal.issued
  saves : ∀ save ∈ journal.saves, ∀ entry ∈ save.entries, entry.id ∈ journal.issued
  ahead : ∀ snapshot, journal.ahead = some snapshot →
    ∀ entry ∈ snapshot.entries, entry.id ∈ journal.issued

/-- The jobs and what is recorded about them. -/
structure Staffed (journal : Journal) : Prop where
  once : (sentIds journal.history ++ journal.jobIds).Nodup
  idle : journal.ahead = none → ∀ job ∈ journal.jobs, job.inBatch = false
  runs : ∀ snapshot, journal.ahead = some snapshot → ∀ job ∈ journal.jobs,
    job.stage = .batched → job.op.Persistable → job.op.id ∈ runningIds snapshot.entries
  recorded : ∀ job ∈ journal.jobs, job.Released → job.op.Persistable →
    RunningCommitted journal.history job.op.id

structure Kept (journal : Journal) : Prop where
  clear : journal.Clear journal.Taken journal.Barred
  numbered : journal.Numbered
  known : journal.Known
  staffed : journal.Staffed
  queueIds : (journal.queue.map (·.id)).Nodup
  diskIds : storable journal.disk
  reports : ∀ report ∈ journal.reports, report.2 ≠ .pending
  order : AtEach SentOnce journal.history

variable {journal : Journal}

theorem PendingFree.mono {entries : List PersistedQueueEntry}
    {bad worse : String → Prop} (hfree : PendingFree entries worse)
    (himp : ∀ id, bad id → worse id) : PendingFree entries bad :=
  fun entry hentry hpending hbad => hfree entry hentry hpending (himp entry.id hbad)

theorem Clear.mono {taken barred taken' barred' : String → Prop}
    (hclear : journal.Clear taken barred)
    (htaken : ∀ id, taken' id → taken id)
    (hbarred : ∀ id, barred' id → barred id) :
    journal.Clear taken' barred' where
  queue op hop hpending hbad := hclear.queue op hop hpending (htaken op.id hbad)
  disk := hclear.disk.mono hbarred
  saves save hsave hnewer := (hclear.saves save hsave hnewer).mono hbarred
  ahead snapshot hahead := (hclear.ahead snapshot hahead).mono htaken

theorem spent_append {after : Journal} {more : List QueueFact} {id : String}
    (hhistory : after.history = journal.history ++ more) :
    after.Spent id ↔ journal.Spent id ∨ id ∈ sentIds more ++ retiredIds more := by
  simp only [Spent, hhistory, sentIds_append, retiredIds_append, mem_append]
  exact or_or_or_comm

theorem Barred.taken {id : String} (hbarred : journal.Barred id) : journal.Taken id := by
  rcases hbarred with hspent | ⟨job, hjob, -, rfl⟩
  · exact .inl hspent
  · exact .inr (mem_map_of_mem hjob)

/-- A snapshot of a queue has a pending record only for a pending operation. -/
theorem pendingFree_persistedEntries {queue : List QueuedOp} {bad : String → Prop}
    (hqueue : ∀ op ∈ queue, op.status = .pending → ¬ bad op.id) :
    PendingFree (persistedEntries queue) bad := by
  intro entry hentry hpending
  obtain ⟨op, hop, hwritten⟩ := mem_persistedEntries hentry
  obtain ⟨hid, hstatus⟩ := toPersisted_fields hwritten
  rw [hid]
  exact hqueue op hop (OpStatus.toPersisted_eq_pending.mp (hstatus ▸ hpending))

theorem id_mem_of_persistedEntries {queue : List QueuedOp} {ids : List String}
    (hqueue : ∀ op ∈ queue, op.id ∈ ids) :
    ∀ entry ∈ persistedEntries queue, entry.id ∈ ids := by
  intro entry hentry
  obtain ⟨op, hop, hwritten⟩ := mem_persistedEntries hentry
  rw [(toPersisted_fields hwritten).1]
  exact hqueue op hop

end Journal

end Invariant

section Steps

namespace Journal

variable {journal : Journal} {reports : List (String × OpStatus)}

/-- The queue may change as long as no taken operation becomes pending. -/
theorem Kept.requeue (hkept : journal.Kept) {queue : List QueuedOp}
    (dirty : Bool) {issued : List String}
    (hids : (queue.map (·.id)).Nodup)
    (hfresh : ∀ op ∈ queue, op.status = .pending → ¬ journal.Taken op.id)
    (hknown : ∀ op ∈ queue, op.id ∈ issued)
    (hissued : ∀ id ∈ journal.issued, id ∈ issued)
    (hreports : ∀ report ∈ reports, report.2 ≠ .pending) :
    Kept { journal with queue, dirty, issued, reports } where
  clear := { hkept.clear with queue := hfresh }
  numbered := { hkept.numbered with }
  known :=
    { queue := hknown, taken := fun id htaken => hissued id (hkept.known.taken id htaken)
      disk := fun entry hentry => hissued _ (hkept.known.disk entry hentry)
      saves := fun save hsave entry hentry => hissued _ (hkept.known.saves save hsave entry hentry)
      ahead := fun snapshot hahead entry hentry =>
        hissued _ (hkept.known.ahead snapshot hahead entry hentry) }
  staffed := { hkept.staffed with }
  queueIds := hids
  diskIds := hkept.diskIds
  reports := hreports
  order := hkept.order

variable {jobs : List QueueJob}

/-- Jobs may end or move on, and what is spent by that was barred before. -/
theorem Kept.rejob (hkept : journal.Kept) {more : List QueueFact}
    (honce : (sentIds (journal.history ++ more) ++ jobs.map (·.op.id)).Nodup)
    (hspent : ∀ id ∈ sentIds more ++ retiredIds more, journal.Barred id)
    (hjobs : ∀ job ∈ jobs, ∃ old ∈ journal.jobs, old.op = job.op ∧
      (job.stage = .batched ↔ old.stage = .batched) ∧
      (job.inBatch = true → old.inBatch = true))
    (horder : AtEach SentOnce (journal.history ++ more))
    (hreports : ∀ report ∈ reports, report.2 ≠ .pending) :
    Kept { journal with jobs, history := journal.history ++ more, reports } := by
  have hspent' : ∀ id, Spent
      { journal with jobs, history := journal.history ++ more, reports } id →
      journal.Barred id := by
    intro id hid
    rcases (spent_append rfl).mp hid with hold | hnew
    · exact .inl hold
    · exact hspent id hnew
  have htaken : ∀ id, Taken
      { journal with jobs, history := journal.history ++ more, reports } id →
      journal.Taken id := by
    rintro id (hid | hid)
    · exact (hspent' id hid).taken
    · obtain ⟨job, hjob, rfl⟩ := mem_map.mp hid
      obtain ⟨old, hold, hop, -⟩ := hjobs job hjob
      exact .inr (hop ▸ mem_map_of_mem hold)
  have hbarred : ∀ id, Barred
      { journal with jobs, history := journal.history ++ more, reports } id →
      journal.Barred id := by
    rintro id (hid | ⟨job, hjob, hreleased, rfl⟩)
    · exact hspent' id hid
    · obtain ⟨old, hold, hop, hstage, -⟩ := hjobs job hjob
      exact .inr ⟨old, hold, fun hbatched => hreleased (hstage.mpr hbatched), by rw [hop]⟩
  refine
    { hkept with
      clear := { hkept.clear.mono htaken hbarred with }
      numbered := { hkept.numbered with }
      known := { hkept.known with taken := fun id hid => hkept.known.taken id (htaken id hid) }
      staffed := { once := honce, idle := ?_, runs := ?_, recorded := ?_ }
      reports := hreports
      order := horder }
  · intro hahead job hjob
    obtain ⟨old, hold, -, -, hbatch⟩ := hjobs job hjob
    have hidle := hkept.staffed.idle hahead old hold
    rw [Bool.eq_false_iff] at hidle ⊢
    exact fun hin => hidle (hbatch hin)
  · intro snapshot hahead job hjob hstage hpersistable
    obtain ⟨old, hold, hop, hbatched, -⟩ := hjobs job hjob
    rw [← hop] at hpersistable ⊢
    exact hkept.staffed.runs snapshot hahead old hold (hbatched.mp hstage) hpersistable
  · intro job hjob hreleased hpersistable
    obtain ⟨old, hold, hop, hbatched, -⟩ := hjobs job hjob
    rw [← hop] at hpersistable ⊢
    exact (hkept.staffed.recorded old hold
      (fun hstage => hreleased (hbatched.mpr hstage)) hpersistable).append more

/-- A dispatch begins: its jobs are new, or approved ones. -/
theorem Kept.beginDispatch (hkept : journal.Kept)
    (honce : (sentIds journal.history ++ jobs.map (·.op.id)).Nodup)
    (hfresh : ∀ op ∈ journal.queue, op.status = .pending → op.id ∉ jobs.map (·.op.id))
    (hreleased : ∀ job ∈ jobs, job.Released → ∃ old ∈ journal.jobs, old.op = job.op ∧ old.Released)
    (hruns : ∀ job ∈ jobs, job.stage = .batched → job.op.Persistable →
      job.op.id ∈ runningIds (persistedEntries journal.queue))
    (hknown : ∀ job ∈ jobs, job.op.id ∈ journal.issued) :
    (journal.beginDispatch jobs).Kept := by
  have htaken : ∀ op ∈ journal.queue, op.status = .pending →
      ¬ (journal.beginDispatch jobs).Taken op.id := by
    rintro op hop hpending (hspent | hjob)
    · exact hkept.clear.queue op hop hpending (.inl hspent)
    · exact hfresh op hop hpending hjob
  have hbarred : ∀ id, (journal.beginDispatch jobs).Barred id → journal.Barred id := by
    rintro id (hspent | ⟨job, hjob, hdone, rfl⟩)
    · exact .inl hspent
    · obtain ⟨old, hold, hop, hdone⟩ := hreleased job hjob hdone
      exact .inr ⟨old, hold, hdone, by rw [hop]⟩
  refine
    { hkept with
      clear :=
        { queue := htaken, disk := hkept.clear.disk.mono hbarred
          saves := fun save hsave hnewer => (hkept.clear.saves save hsave hnewer).mono hbarred
          ahead := ?_ }
      numbered := ?_
      known := { hkept.known with taken := ?_, ahead := ?_ }
      staffed :=
        { once := honce, idle := nofun
          runs := ?_, recorded := ?_ } }
  · rintro snapshot ⟨⟩
    exact pendingFree_persistedEntries htaken
  · constructor
    · intro save hsave
      exact (hkept.numbered.saves save hsave).trans (Nat.le_succ _)
    · exact hkept.numbered.written.trans (Nat.le_succ _)
    · rintro snapshot ⟨⟩
      refine ⟨Nat.lt_succ_of_le hkept.numbered.written, le_rfl, ?_⟩
      exact fun save hsave => Nat.lt_succ_of_le (hkept.numbered.saves save hsave)
  · rintro id (hspent | hid)
    · exact hkept.known.taken id (.inl hspent)
    · obtain ⟨job, hjob, rfl⟩ := mem_map.mp hid
      exact hknown job hjob
  · rintro snapshot ⟨⟩
    exact id_mem_of_persistedEntries hkept.known.queue
  · rintro snapshot ⟨⟩ job hjob hstage hpersistable
    exact hruns job hjob hstage hpersistable
  · intro job hjob hdone hpersistable
    obtain ⟨old, hold, hop, hdone⟩ := hreleased job hjob hdone
    rw [← hop] at hpersistable ⊢
    exact hkept.staffed.recorded old hold hdone hpersistable

/-- A snapshot goes to the writer. -/
theorem Kept.handOver (hkept : journal.Kept) (hidle : journal.ahead = none) : Kept { journal with
      seq := journal.seq + 1, saves := journal.saves ++ [journal.snapshot], dirty := false } where
  clear :=
    { hkept.clear with
      saves := by
        intro save hsave hnewer
        rcases mem_append.mp hsave with hold | hnew
        · exact hkept.clear.saves save hold hnewer
        · obtain rfl := mem_singleton.mp hnew
          have hqueue := pendingFree_persistedEntries hkept.clear.queue
          exact hqueue.mono fun id hbarred => hbarred.taken }
  numbered :=
    { saves := by
        intro save hsave
        rcases mem_append.mp hsave with hold | hnew
        · exact (hkept.numbered.saves save hold).trans (Nat.le_succ _)
        · obtain rfl := mem_singleton.mp hnew
          exact le_rfl
      written := hkept.numbered.written.trans (Nat.le_succ _), ahead := by
        intro snapshot hahead
        cases hidle.symm.trans hahead }
  known :=
    { hkept.known with
      saves := by
        intro save hsave
        rcases mem_append.mp hsave with hold | hnew
        · exact hkept.known.saves save hold
        · obtain rfl := mem_singleton.mp hnew
          exact id_mem_of_persistedEntries hkept.known.queue }
  staffed := { hkept.staffed with }
  queueIds := hkept.queueIds
  diskIds := hkept.diskIds
  reports := hkept.reports
  order := hkept.order

/-- What a save does: nothing when a newer snapshot is on disk, nothing when it
fails, or it brings its entries to disk. -/
theorem saveQueueSnapshot_cases (journal : Journal) (snapshot : QueueSnapshot) (works : Bool) :
    (snapshot.seq ≤ journal.written ∧
      journal.saveQueueSnapshot snapshot works = (journal, some false)) ∨
    (journal.written < snapshot.seq ∧ journal.saveQueueSnapshot snapshot works = (journal, none)) ∨
    (journal.written < snapshot.seq ∧ storable snapshot.entries ∧
      journal.saveQueueSnapshot snapshot works = ({ journal with
            disk := snapshot.entries, written := snapshot.seq
            history := journal.history ++ [.committed snapshot.entries] },
          some true)) := by
  unfold saveQueueSnapshot
  split
  next hold => exact .inl ⟨hold, rfl⟩
  next hnewer =>
    have hlt := Nat.lt_of_not_le hnewer
    split
    next hworks => exact .inr (.inr ⟨hlt, hworks.2, rfl⟩)
    next => exact .inr (.inl ⟨hlt, rfl⟩)

/-- A background save is over and nothing was written. -/
theorem Kept.dropSave (hkept : journal.Kept) (place : Nat) :
    Kept { journal with saves := journal.saves.eraseIdx place } := by
  have hleft : ∀ other ∈ journal.saves.eraseIdx place, other ∈ journal.saves :=
    fun other hother => mem_of_mem_eraseIdx hother
  exact
    { hkept with
      clear :=
        { hkept.clear with
          saves := fun other hother => hkept.clear.saves other (hleft other hother) }
      numbered :=
        { saves := fun other hother => hkept.numbered.saves other (hleft other hother)
          written := hkept.numbered.written, ahead := fun snapshot hahead =>
            let ⟨hwritten, hseq, hsaves⟩ := hkept.numbered.ahead snapshot hahead
            ⟨hwritten, hseq, fun other hother => hsaves other (hleft other hother)⟩ }
      known :=
        { hkept.known with
          saves := fun other hother => hkept.known.saves other (hleft other hother) }
      staffed := { hkept.staffed with } }

/-- A background save ends.  Only a snapshot newer than the disk gets there, and
it is older than a write-ahead under way. -/
theorem Kept.saveEnds (hkept : journal.Kept) {place : Nat}
    {save : QueueSnapshot} (hplace : journal.saves[place]? = some save)
    (works : Bool) :
    Kept { (journal.saveQueueSnapshot save works).1 with
      saves := journal.saves.eraseIdx place } := by
  have hsave := mem_of_getElem? hplace
  have hunchanged := hkept.dropSave place
  rcases saveQueueSnapshot_cases journal save works with
    ⟨-, hresult⟩ | ⟨-, hresult⟩ | ⟨hnewer, hstorable, hresult⟩
  · rw [hresult]
    exact hunchanged
  · rw [hresult]
    exact hunchanged
  · rw [hresult]
    have hspent : ∀ id, Spent { journal with
          history := journal.history ++ [.committed save.entries] } id →
        journal.Spent id := by
      intro id hid
      simpa [sentIds, sentId, retiredIds, retires] using (spent_append rfl).mp hid
    have htaken : ∀ id, Taken { journal with
          history := journal.history ++ [.committed save.entries] } id →
        journal.Taken id := fun id => Or.imp_left (hspent id)
    have hbarred : ∀ id, Barred { journal with
          history := journal.history ++ [.committed save.entries] } id →
        journal.Barred id := fun id => Or.imp_left (hspent id)
    have hclear := hunchanged.clear.mono htaken hbarred
    exact
      { hkept with
        clear :=
          { hclear with
            disk := (hkept.clear.saves save hsave hnewer).mono hbarred
            saves := fun other hother hother_newer =>
              hclear.saves other hother (hnewer.trans hother_newer) }
        numbered :=
          { saves := hunchanged.numbered.saves, written := hkept.numbered.saves save hsave
            ahead := fun snapshot hahead =>
              let ⟨_, hseq, hsaves⟩ := hunchanged.numbered.ahead snapshot hahead
              ⟨(hkept.numbered.ahead snapshot hahead).2.2 save hsave, hseq, hsaves⟩ }
        known :=
          { hunchanged.known with
            taken := fun id hid => hkept.known.taken id (htaken id hid)
            disk := hkept.known.saves save hsave }
        staffed :=
          { hkept.staffed with
            once := by
              rw [sentIds_concat rfl]
              exact hkept.staffed.once
            recorded := fun job hjob hdone hpersistable =>
              (hkept.staffed.recorded job hjob hdone hpersistable).append _ }
        diskIds := hstorable
        order := hkept.order.concat trivial }

theorem released_op (policies : List Policy) (view : TuiView)
    (job : QueueJob) : (job.released policies view).op = job.op := by
  unfold QueueJob.released
  split
  · split <;> rfl
  · rfl
  · rfl

theorem inBatch_released (policies : List Policy) (view : TuiView)
    (job : QueueJob) : (job.released policies view).inBatch = false := by
  unfold QueueJob.released
  split
  · split <;> rfl
  · rfl
  next hbatched hrebatched => simpa [QueueJob.inBatch] using ⟨hbatched, hrebatched⟩

theorem released_of_not_inBatch {job : QueueJob} (hout : job.inBatch = false) : job.Released := by
  intro hbatched
  simp [QueueJob.inBatch, hbatched] at hout

/-- The write-ahead failed and its batch is not dispatched. -/
theorem Kept.dropBatch (hkept : journal.Kept) : Kept { journal with
    ahead := none, jobs := journal.jobs.filter fun job => !job.inBatch } := by
  have hjobs : ∀ job ∈ journal.jobs.filter fun job => !job.inBatch,
      job ∈ journal.jobs ∧ job.inBatch = false := by
    intro job hjob
    simpa using mem_filter.mp hjob
  have hids : (journal.jobs.filter fun job => !job.inBatch).map
      (·.op.id) |>.Sublist journal.jobIds := filter_sublist.map _
  have htaken : ∀ id, Taken { journal with
        ahead := none, jobs := journal.jobs.filter fun job => !job.inBatch } id →
      journal.Taken id := fun id => Or.imp_right fun hid => hids.subset hid
  have hbarred : ∀ id, Barred { journal with
        ahead := none, jobs := journal.jobs.filter fun job => !job.inBatch } id →
      journal.Barred id := by
    rintro id (hspent | ⟨job, hjob, hdone⟩)
    · exact .inl hspent
    · exact .inr ⟨job, (hjobs job hjob).1, hdone⟩
  exact
    { hkept with
      clear := { hkept.clear.mono htaken hbarred with ahead := nofun }
      numbered := { hkept.numbered with ahead := nofun }
      known :=
        { hkept.known with
          taken := fun id hid => hkept.known.taken id (htaken id hid)
          ahead := nofun }
      staffed :=
        { once := hkept.staffed.once.sublist (hids.append_left _)
          idle := fun _ job hjob => (hjobs job hjob).2
          runs := nofun
          recorded := fun job hjob => hkept.staffed.recorded job (hjobs job hjob).1 } }

/-- The write-ahead is on disk and its batch is dispatched: no snapshot under way
is newer, and the one on disk has nothing of the batch as pending. -/
theorem Kept.release (hkept : journal.Kept) {snapshot : QueueSnapshot}
    (hahead : journal.ahead = some snapshot)
    (hstorable : storable snapshot.entries) (policies : List Policy)
    (view : TuiView) :
    Kept { journal with
      disk := snapshot.entries, written := snapshot.seq
      history := journal.history ++ [.committed snapshot.entries], ahead := none
      jobs := journal.jobs.map (QueueJob.released policies view) } := by
  obtain ⟨hnewer, hseq, hsaves⟩ := hkept.numbered.ahead snapshot hahead
  have hids : (journal.jobs.map (QueueJob.released policies view)).map
      (·.op.id) = journal.jobIds := by
    rw [map_map, jobIds]
    exact map_congr_left fun job _ => congrArg QueuedOp.id (released_op policies view job)
  have htaken : ∀ id, Taken { journal with
        history := journal.history ++ [.committed snapshot.entries]
        jobs := journal.jobs.map (QueueJob.released policies view) } id →
      journal.Taken id := by
    intro id hid
    rw [Taken, spent_append rfl, jobIds, hids] at hid
    simpa [Taken, sentIds, sentId, retiredIds, retires] using hid
  have hbarred : ∀ id, Barred { journal with
        history := journal.history ++ [.committed snapshot.entries]
        jobs := journal.jobs.map (QueueJob.released policies view) } id →
      journal.Taken id := fun id hid => htaken id hid.taken
  refine
    { hkept with
      clear :=
        { queue := fun op hop hpending hid => hkept.clear.queue op hop hpending (htaken op.id hid)
          disk := (hkept.clear.ahead snapshot hahead).mono hbarred, saves := ?_
          ahead := nofun }
      numbered :=
        { hkept.numbered with written := hseq, ahead := nofun }
      known :=
        { hkept.known with
          taken := fun id hid => hkept.known.taken id (htaken id hid)
          disk := hkept.known.ahead snapshot hahead
          ahead := nofun }
      staffed :=
        { once := ?_, idle := ?_, runs := nofun
          recorded := ?_ }
      diskIds := hstorable
      order := hkept.order.concat trivial }
  · intro save hsave hlater
    exact absurd hlater (Nat.lt_asymm (hsaves save hsave))
  · rw [jobIds, hids, sentIds_concat rfl]
    exact hkept.staffed.once
  · intro _ job hjob
    obtain ⟨old, -, rfl⟩ := mem_map.mp hjob
    exact inBatch_released policies view old
  · intro job hjob _ hpersistable
    obtain ⟨old, hold, rfl⟩ := mem_map.mp hjob
    rw [released_op] at hpersistable ⊢
    by_cases hbatched : old.stage = .batched
    · exact ⟨snapshot.entries, mem_append_right _ (by simp),
        hkept.staffed.runs snapshot hahead old hold hbatched hpersistable⟩
    · exact (hkept.staffed.recorded old hold hbatched hpersistable).append _

theorem Kept.writeAhead (hkept : journal.Kept) {snapshot : QueueSnapshot}
    (hahead : journal.ahead = some snapshot) (works : Bool)
    (policies : List Policy) (view : TuiView) :
    ((journal.saveQueueSnapshot snapshot works).1.finishDispatch policies view
      (journal.saveQueueSnapshot snapshot works).2).Kept := by
  have hnewer := (hkept.numbered.ahead snapshot hahead).1
  rcases saveQueueSnapshot_cases journal snapshot works with
    ⟨hold, -⟩ | ⟨-, hresult⟩ | ⟨-, hstorable, hresult⟩
  · exact absurd hnewer (Nat.not_lt.mpr hold)
  · rw [hresult]
    exact hkept.dropBatch
  · rw [hresult]
    exact hkept.release hahead hstorable policies view

/-- A record is not pending and running at once. -/
theorem not_running_of_pending {stored entries : List PersistedQueueEntry}
    (hstored : storable stored) (hentries : ∀ entry ∈ entries, entry ∈ stored)
    {entry : PersistedQueueEntry} (hentry : entry ∈ stored)
    (hpending : entry.status = .pending) : entry.id ∉ runningIds entries := by
  intro hrunning
  obtain ⟨other, hother, hstatus, hid⟩ := mem_runningIds.mp hrunning
  obtain rfl := inj_on_of_nodup_map hstored (hentries other hother) hentry hid
  cases hpending.symm.trans hstatus

/-- A session opens on what the disk has; of the jobs, those with a task may be
left over. -/
theorem Kept.openSession (hkept : journal.Kept) (loads : Bool)
    {seq written : Nat} (hwritten : written ≤ seq) {saves : List QueueSnapshot}
    (hsaves : saves = [])
    (hids : (jobs.map (·.op.id)).Sublist journal.jobIds)
    (hjobs : ∀ job ∈ jobs, job.stage = .working ∧
      ∃ old ∈ journal.jobs, old.op = job.op ∧ old.stage = .working) :
    (openSession { journal with seq, written, saves, jobs } loads).Kept := by
  subst hsaves
  generalize hread : (if loads then journal.loadQueue else []) = entries
  have hentries : ∀ entry ∈ entries, entry ∈ journal.disk := by
    intro entry hentry
    rw [← hread] at hentry
    split at hentry
    · exact (mem_insertionSort _).mp hentry
    · cases hentry
  have hnodup : (entries.map (·.id)).Nodup := by
    rw [← hread]
    split
    · exact ((perm_insertionSort _ _).map _).nodup_iff.mpr hkept.diskIds
    · exact nodup_nil
  have hopen : Journal.openSession
        { journal with seq, written, saves := [], jobs } loads =
      { journal with
        seq, written, saves := [], jobs
        queue := restoreQueue entries, dirty := false, ahead := none, reports := []
        history := journal.history ++ [.restored entries] } := by
    rw [← hread]
    rfl
  rw [hopen]
  have hnew : sentIds [.restored entries] ++ retiredIds [.restored entries] =
      runningIds entries := by simp [sentIds, sentId, retiredIds, retires]
  -- A pending record on disk belongs to nobody who is left.
  have hfree : ∀ entry ∈ journal.disk, entry.status = .pending → ¬ Taken { journal with
        jobs, history := journal.history ++ [.restored entries] } entry.id := by
    intro entry hentry hpending htaken
    have hbarred := hkept.clear.disk entry hentry hpending
    rw [Taken, spent_append rfl, hnew] at htaken
    rcases htaken with (hspent | hrunning) | hjob
    · exact hbarred (.inl hspent)
    · exact not_running_of_pending hkept.diskIds hentries hentry hpending hrunning
    · obtain ⟨job, hjob, hid⟩ := mem_map.mp hjob
      obtain ⟨-, old, hold, hop, hstage⟩ := hjobs job hjob
      exact hbarred (.inr ⟨old, hold, by simp [QueueJob.Released, hstage], by rw [hop, hid]⟩)
  refine
    { hkept with
      clear :=
        { queue := ?_
          disk := fun entry hentry hpending hbarred => hfree entry hentry hpending hbarred.taken
          saves := nofun
          ahead := nofun }
      numbered :=
        { saves := nofun
          written := hwritten, ahead := nofun }
      known :=
        { queue := ?_, taken := ?_, disk := hkept.known.disk, saves := nofun
          ahead := nofun }
      staffed :=
        { once := ?_, idle := ?_, runs := nofun
          recorded := ?_ }
      queueIds := ?_
      reports := nofun
      order := hkept.order.concat trivial }
  · intro op hop hpending
    obtain ⟨entry, hentry, rfl⟩ := mem_map.mp hop
    exact hfree entry (hentries entry hentry) (PersistedOpStatus.restore_eq_pending.mp hpending)
  · intro op hop
    obtain ⟨entry, hentry, rfl⟩ := mem_map.mp hop
    exact hkept.known.disk entry (hentries entry hentry)
  · intro id htaken
    rw [Taken, spent_append rfl, hnew] at htaken
    rcases htaken with (hspent | hrunning) | hjob
    · exact hkept.known.taken id (.inl hspent)
    · obtain ⟨entry, hentry, -, rfl⟩ := mem_runningIds.mp hrunning
      exact hkept.known.disk entry (hentries entry hentry)
    · exact hkept.known.taken id (.inr (hids.subset hjob))
  · rw [sentIds_concat rfl]
    exact hkept.staffed.once.sublist (hids.append_left _)
  · intro _ job hjob
    simp [QueueJob.inBatch, (hjobs job hjob).1]
  · intro job hjob _ hpersistable
    obtain ⟨-, old, hold, hop, hstage⟩ := hjobs job hjob
    rw [← hop] at hpersistable ⊢
    exact (hkept.staffed.recorded old hold (by simp [QueueJob.Released, hstage])
      hpersistable).append _
  · rw [restoreQueue, map_map]
    exact hnodup

end Journal

end Steps

end Proxxx
