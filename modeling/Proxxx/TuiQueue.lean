/-
The operation queue of the terminal interface: its operations, the part of them
that is written to disk, the queue's garbage collection and the reducer's actions
on the queue.
-/
import Mathlib.Data.List.Basic

namespace Proxxx

open List

section Operations

/-- The actions of the reducer as far as a queue tells them apart. -/
inductive TuiAction where
  | startGuest (vmid : Nat)
  | stopGuest (vmid : Nat) (force : Bool)
  | restartGuest (vmid : Nat)
  | deleteGuest (vmid : Nat)
  | migrateGuest (vmid : Nat) (targetNode : String)
  | executeGuestCommand (vmid : Nat) (command : String)
  | moveDisk (vmid : Nat) (disk targetStorage : String) (deleteSource : Bool)
  | resizeDisk (vmid : Nat) (disk size : String)
  | other
deriving Repr, DecidableEq

inductive OpStatus where
  | pending
  | running
  | success
  | error (text : String)
deriving Repr, DecidableEq

def OpStatus.isError : OpStatus → Bool
  | .error _ => true
  | _ => false

structure QueuedOp where
  id : String
  action : TuiAction
  description : String
  diff : String
  status : OpStatus
  createdAtSecs : Nat
  bypassPreflight : Bool
deriving Repr, DecidableEq

/-- What a new operation is made of; `force` is the break-glass constructor. -/
structure NewOp where
  id : String
  action : TuiAction
  description : String
  diff : String
  createdAtSecs : Nat
  force : Bool
deriving Repr, DecidableEq

def QueuedOp.new (op : NewOp) : QueuedOp where
  id := op.id
  action := op.action
  description := op.description
  diff := op.diff
  status := .pending
  createdAtSecs := op.createdAtSecs
  bypassPreflight := op.force

end Operations

section Persistence

inductive PersistedOp where
  | startGuest (vmid : Nat)
  | stopGuest (vmid : Nat) (force : Bool)
  | restartGuest (vmid : Nat)
  | deleteGuest (vmid : Nat)
  | migrateGuest (vmid : Nat) (targetNode : String)
  | moveDisk (vmid : Nat) (disk targetStorage : String) (deleteSource : Bool)
  | resizeDisk (vmid : Nat) (disk size : String)
deriving Repr, DecidableEq

inductive PersistedOpStatus where
  | pending
  | running
  | success
  | error (text : String)
deriving Repr, DecidableEq

structure PersistedQueueEntry where
  id : String
  description : String
  diff : String
  status : PersistedOpStatus
  op : PersistedOp
  createdAtSecs : Nat
deriving Repr, DecidableEq

def TuiAction.toPersisted : TuiAction → Option PersistedOp
  | .startGuest vmid => some (.startGuest vmid)
  | .stopGuest vmid force => some (.stopGuest vmid force)
  | .restartGuest vmid => some (.restartGuest vmid)
  | .deleteGuest vmid => some (.deleteGuest vmid)
  | .migrateGuest vmid targetNode => some (.migrateGuest vmid targetNode)
  | .moveDisk vmid disk targetStorage deleteSource =>
    some (.moveDisk vmid disk targetStorage deleteSource)
  | .resizeDisk vmid disk size => some (.resizeDisk vmid disk size)
  | .executeGuestCommand .. | .other => none

def OpStatus.toPersisted : OpStatus → PersistedOpStatus
  | .pending => .pending
  | .running => .running
  | .success => .success
  | .error text => .error text

def QueuedOp.toPersisted (op : QueuedOp) : Option PersistedQueueEntry :=
  op.action.toPersisted.map fun persisted =>
    { id := op.id, description := op.description, diff := op.diff, status := op.status.toPersisted
      op := persisted, createdAtSecs := op.createdAtSecs }

/-- The status of an operation that was running when the last session ended. -/
def interrupted : String :=
  "interrupted: proxxx exited while this op was running, " ++
    "so its outcome is unknown; check the PVE task log (`proxxx tasks`)"

def PersistedOp.toAction : PersistedOp → TuiAction
  | .startGuest vmid => .startGuest vmid
  | .stopGuest vmid force => .stopGuest vmid force
  | .restartGuest vmid => .restartGuest vmid
  | .deleteGuest vmid => .deleteGuest vmid
  | .migrateGuest vmid targetNode => .migrateGuest vmid targetNode
  | .moveDisk vmid disk targetStorage deleteSource =>
    .moveDisk vmid disk targetStorage deleteSource
  | .resizeDisk vmid disk size => .resizeDisk vmid disk size

def PersistedOpStatus.restore : PersistedOpStatus → OpStatus
  | .pending => .pending
  | .running => .error interrupted
  | .success => .success
  | .error text => .error text

def QueuedOp.fromPersisted (entry : PersistedQueueEntry) : QueuedOp where
  id := entry.id
  action := entry.op.toAction
  description := entry.description
  diff := entry.diff
  status := entry.status.restore
  createdAtSecs := entry.createdAtSecs
  bypassPreflight := false

/-- The snapshot of a queue. -/
def persistedEntries (queue : List QueuedOp) : List PersistedQueueEntry :=
  queue.filterMap QueuedOp.toPersisted

def restoreQueue (entries : List PersistedQueueEntry) : List QueuedOp :=
  entries.map QueuedOp.fromPersisted

theorem OpStatus.toPersisted_eq_pending {status : OpStatus} :
    status.toPersisted = .pending ↔ status = .pending := by
  cases status <;> simp [OpStatus.toPersisted]

theorem PersistedOpStatus.restore_eq_pending {status : PersistedOpStatus} :
    status.restore = .pending ↔ status = .pending := by
  cases status <;> simp [PersistedOpStatus.restore]

/-- A written operation comes back as the same action. -/
theorem TuiAction.toAction_of_toPersisted {action : TuiAction}
    {persisted : PersistedOp} (hwritten : action.toPersisted = some persisted) :
    persisted.toAction = action := by
  cases action <;> simp [TuiAction.toPersisted] at hwritten <;> subst hwritten <;> rfl

theorem mem_persistedEntries {queue : List QueuedOp}
    {entry : PersistedQueueEntry} (hentry : entry ∈ persistedEntries queue) :
    ∃ op ∈ queue, op.toPersisted = some entry := by
  simpa [persistedEntries] using hentry

theorem toPersisted_fields {op : QueuedOp} {entry : PersistedQueueEntry}
    (hwritten : op.toPersisted = some entry) :
    entry.id = op.id ∧ entry.status = op.status.toPersisted := by
  obtain ⟨persisted, -, rfl⟩ := Option.map_eq_some_iff.mp hwritten
  exact ⟨rfl, rfl⟩

end Persistence

section Collection

def successTtlSecs : Nat := 300

def errorKeep : Nat := 50

def hardCap : Nat := 200

/-- Drop the first `count` operations that pass the test. -/
def dropFirst (test : QueuedOp → Bool) : Nat → List QueuedOp → List QueuedOp
  | 0, queue => queue
  | _ + 1, [] => []
  | count + 1, op :: rest =>
    if test op then dropFirst test count rest
    else op :: dropFirst test (count + 1) rest

/-- Old successes go first, then the oldest errors above their limit, then the
oldest operations that are not pending and at last the oldest of all. -/
def garbageCollect (queue : List QueuedOp) (nowSecs : Nat) : List QueuedOp :=
  let fresh := queue.filter fun op =>
    op.status != .success || decide (nowSecs - op.createdAtSecs < successTtlSecs)
  let capped := dropFirst (·.status.isError)
    (fresh.countP (·.status.isError) - errorKeep) fresh
  let active := dropFirst (fun op => op.status != .pending)
    (capped.length - hardCap) capped
  active.drop (active.length - hardCap)

theorem dropFirst_sublist (test : QueuedOp → Bool) (count : Nat)
    (queue : List QueuedOp) : (dropFirst test count queue).Sublist queue := by
  induction queue generalizing count with
  | nil => cases count <;> exact List.Sublist.refl _
  | cons op rest ih =>
    cases count with
    | zero => exact List.Sublist.refl _
    | succ count =>
      rw [dropFirst]
      split
      · exact (ih count).cons op
      · exact (ih (count + 1)).cons_cons op

/-- Collecting only drops operations. -/
theorem garbageCollect_sublist (queue : List QueuedOp) (nowSecs : Nat) :
    (garbageCollect queue nowSecs).Sublist queue :=
  (drop_sublist _ _).trans ((dropFirst_sublist _ _ _).trans
      ((dropFirst_sublist _ _ _).trans filter_sublist))

end Collection

section Reducer

/-- The actions of the reducer that touch the queue. -/
inductive QueueAction where
  | enqueue (ops : List NewOp)
  | dequeue (index : Nat)
  | executeQueue
  | statusChanged (id : String) (status : OpStatus)
  | tick (nowSecs : Nat)
deriving Repr, DecidableEq

def isPending (op : QueuedOp) : Bool :=
  op.status == .pending

def startPending (op : QueuedOp) : QueuedOp :=
  if isPending op then { op with status := .running } else op

/-- The first operation with the id takes the status. -/
def setStatus (id : String) (status : OpStatus) : List QueuedOp → List QueuedOp
  | [] => []
  | op :: rest =>
    if op.id == id then { op with status } :: rest
    else op :: setStatus id status rest

/-- The queue after an action, and the operations to be executed. -/
def updateQueue (queue : List QueuedOp) : QueueAction → List QueuedOp × Option (List QueuedOp)
  | .enqueue ops => (queue ++ ops.map QueuedOp.new, none)
  | .dequeue index => (queue.eraseIdx index, none)
  | .executeQueue => (queue.map startPending, some (queue.filter isPending))
  | .statusChanged id status => (setStatus id status queue, none)
  | .tick nowSecs => (garbageCollect queue nowSecs, none)

theorem mem_setStatus {id : String} {status : OpStatus} {op : QueuedOp}
    {queue : List QueuedOp} (hop : op ∈ setStatus id status queue) :
    op ∈ queue ∨ ∃ old ∈ queue, op = { old with status } ∧ old.id = id := by
  induction queue with
  | nil => cases hop
  | cons head tail ih =>
    rw [setStatus] at hop
    split at hop
    next hid =>
      rcases mem_cons.mp hop with rfl | htail
      · exact .inr ⟨head, mem_cons_self, rfl, beq_iff_eq.mp hid⟩
      · exact .inl (mem_cons_of_mem head htail)
    next =>
      rcases mem_cons.mp hop with rfl | htail
      · exact .inl mem_cons_self
      · rcases ih htail with hmem | ⟨old, hold, heq⟩
        · exact .inl (mem_cons_of_mem head hmem)
        · exact .inr ⟨old, mem_cons_of_mem head hold, heq⟩

end Reducer

section Eviction

variable {test : QueuedOp → Bool} {keep : Nat → QueuedOp → Bool} {count cut : Nat}
  {queue : List QueuedOp}

/-- The operations that pass a test on themselves and the number of operations behind. -/
def keepWhere (keep : Nat → QueuedOp → Bool) : List QueuedOp → List QueuedOp
  | [] => []
  | op :: rest => if keep rest.length op then op :: keepWhere keep rest else keepWhere keep rest

/-- Of the operations that pass the test, those with `cut` or more behind them go. -/
def cutOff (test : QueuedOp → Bool) (cut : Nat) (keep : Nat → QueuedOp → Bool) (behind : Nat)
    (op : QueuedOp) : Bool :=
  keep behind op && !(test op && decide (cut ≤ behind))

theorem keepWhere_cutOff_of_le (hcut : queue.length ≤ cut) :
    keepWhere (cutOff test cut keep) queue = keepWhere keep queue := by
  induction queue with
  | nil => rfl
  | cons op rest ih =>
    have hbehind : ¬cut ≤ rest.length := Nat.not_le.mpr hcut
    simp [keepWhere, cutOff, hbehind, ih (Nat.le_of_lt hcut)]

theorem dropFirst_keepWhere (test : QueuedOp → Bool) (count : Nat)
    (keep : Nat → QueuedOp → Bool) (queue : List QueuedOp) :
    ∃ cut ≤ queue.length, dropFirst test count (keepWhere keep queue) =
      keepWhere (cutOff test cut keep) queue := by
  induction queue generalizing count with
  | nil => exact ⟨0, Nat.le_refl 0, by cases count <;> rfl⟩
  | cons op rest ih =>
    cases count with
    | zero =>
      rw [dropFirst]
      exact ⟨_, Nat.le_refl _, (keepWhere_cutOff_of_le (Nat.le_refl _)).symm⟩
    | succ count =>
      by_cases hdrop : keep rest.length op = true ∧ test op = true
      · obtain ⟨cut, hcut, hrest⟩ := ih count
        refine ⟨cut, Nat.le_succ_of_le hcut, ?_⟩
        simpa [keepWhere, cutOff, dropFirst, hdrop, hcut] using hrest
      · obtain ⟨cut, hcut, hrest⟩ := ih (count + 1)
        refine ⟨cut, Nat.le_succ_of_le hcut, ?_⟩
        cases hkeep : keep rest.length op <;>
          simp_all [keepWhere, cutOff, dropFirst]

theorem filter_eq_keepWhere : queue.filter test = keepWhere (fun _ => test) queue := by
  induction queue with
  | nil => rfl
  | cons op rest ih => simp [keepWhere, filter_cons, ih]

theorem drop_eq_dropFirst : queue.drop count = dropFirst (fun _ => true) count queue := by
  fun_induction dropFirst (fun _ => true) count queue <;> simp_all

theorem countP_dropFirst : (dropFirst test count queue).countP test = queue.countP test - count := by
  fun_induction dropFirst test count queue <;> simp_all

theorem length_dropFirst :
    (dropFirst test count queue).length = queue.length - min count (queue.countP test) := by
  fun_induction dropFirst test count queue with
  | case1 | case2 => simp
  | case3 count op rest htest ih =>
    rw [ih, length_cons, countP_cons_of_pos htest]
    omega
  | case4 count op rest htest ih =>
    have hcount : rest.countP test ≤ rest.length := countP_le_length
    rw [length_cons, ih, length_cons, countP_cons_of_neg htest]
    omega

theorem filter_dropFirst {other : QueuedOp → Bool} (hother : ∀ op, other op = true → test op = false) :
    (dropFirst test count queue).filter other = queue.filter other := by
  fun_induction dropFirst test count queue <;> grind

variable {nowSecs : Nat}

theorem errors_garbageCollect :
    (garbageCollect queue nowSecs).countP (·.status.isError) ≤ errorKeep := by
  refine Nat.le_trans ((drop_sublist _ _).trans (dropFirst_sublist _ _ _)).countP_le ?_
  rw [countP_dropFirst]
  omega

theorem fresh_garbageCollect {op : QueuedOp} (hop : op ∈ garbageCollect queue nowSecs)
    (hsuccess : op.status = .success) : nowSecs - op.createdAtSecs < successTtlSecs := by
  have hfresh := ((drop_sublist _ _).trans ((dropFirst_sublist _ _ _).trans
    (dropFirst_sublist _ _ _))).subset hop
  simpa [hsuccess] using (mem_filter.mp hfresh).2

theorem pending_garbageCollect (hpending : queue.countP isPending ≤ hardCap) :
    (garbageCollect queue nowSecs).filter isPending = queue.filter isPending := by
  unfold garbageCollect
  extract_lets fresh capped active
  have hcapped : capped.filter isPending = queue.filter isPending := by
    rw [filter_dropFirst (by grind [isPending, OpStatus.isError]), filter_filter]
    exact filter_congr (by simp +contextual [isPending])
  have hothers : capped.countP (fun op => op.status != .pending) + queue.countP isPending =
      capped.length := by
    have hsame := congrArg length hcapped
    rw [← countP_eq_length_filter, ← countP_eq_length_filter] at hsame
    rw [← hsame, length_eq_countP_add_countP isPending, Nat.add_comm]
    congr 2
    funext op
    grind [isPending]
  have hactive : active.length ≤ hardCap := by
    rw [length_dropFirst]
    omega
  rw [Nat.sub_eq_zero_of_le hactive, drop_zero, filter_dropFirst (by simp [isPending]), hcapped]

/-- A queue within its limits is left as it is. -/
theorem garbageCollect_of_settled (hfresh : ∀ op ∈ queue, op.status = .success →
      nowSecs - op.createdAtSecs < successTtlSecs)
    (herrors : queue.countP (·.status.isError) ≤ errorKeep) (hlength : queue.length ≤ hardCap) :
    garbageCollect queue nowSecs = queue := by
  have hkept : queue.filter (fun op => op.status != .success ||
      decide (nowSecs - op.createdAtSecs < successTtlSecs)) = queue :=
    filter_eq_self.mpr fun op hop => by
      by_cases hsuccess : op.status = .success <;> simp [hsuccess, hfresh op hop]
  unfold garbageCollect
  simp only [hkept, Nat.sub_eq_zero_of_le herrors, dropFirst, Nat.sub_eq_zero_of_le hlength,
    drop_zero]

/-- What a collection leaves: a part of the queue within its limits, with every pending
operation unless these alone are too many.  What goes by a rule goes up to a cut, and a
second collection finds nothing to drop. -/
theorem garbage_collection_limits (queue : List QueuedOp) (nowSecs : Nat) :
    (garbageCollect queue nowSecs).Sublist queue ∧
    (garbageCollect queue nowSecs).length ≤ hardCap ∧
    (garbageCollect queue nowSecs).countP (·.status.isError) ≤ errorKeep ∧
    (∀ op ∈ garbageCollect queue nowSecs, op.status = .success →
      nowSecs - op.createdAtSecs < successTtlSecs) ∧
    (queue.countP isPending ≤ hardCap →
      (garbageCollect queue nowSecs).filter isPending = queue.filter isPending) ∧
    (∃ errors others all, garbageCollect queue nowSecs = keepWhere
      (cutOff (fun _ => true) all (cutOff (·.status != .pending) others
        (cutOff (·.status.isError) errors fun _ op => op.status != .success ||
          decide (nowSecs - op.createdAtSecs < successTtlSecs)))) queue) ∧
    garbageCollect (garbageCollect queue nowSecs) nowSecs = garbageCollect queue nowSecs := by
  have hlength : (garbageCollect queue nowSecs).length ≤ hardCap := by
    rw [garbageCollect, length_drop]
    omega
  refine ⟨garbageCollect_sublist queue nowSecs, hlength, errors_garbageCollect,
    fun _ => fresh_garbageCollect, pending_garbageCollect, ?_,
    garbageCollect_of_settled (fun _ => fresh_garbageCollect) errors_garbageCollect hlength⟩
  unfold garbageCollect
  extract_lets fresh capped active
  obtain ⟨errors, -, herrors⟩ := dropFirst_keepWhere (·.status.isError)
    (fresh.countP (·.status.isError) - errorKeep) (fun _ op => op.status != .success ||
      decide (nowSecs - op.createdAtSecs < successTtlSecs)) queue
  obtain ⟨others, -, hothers⟩ := dropFirst_keepWhere (·.status != .pending)
    (capped.length - hardCap) _ queue
  obtain ⟨all, -, hall⟩ := dropFirst_keepWhere (fun _ => true) (active.length - hardCap) _ queue
  refine ⟨errors, others, all, ?_⟩
  rw [← hall, ← hothers, ← herrors, ← filter_eq_keepWhere, ← drop_eq_dropFirst]

end Eviction

end Proxxx
