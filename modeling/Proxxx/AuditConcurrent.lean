/-
Appends and key rotations of any number of processes on one audit log.  A
logger reads its key from disk before the transaction that signs a row with it,
and a rotation reads the key it archives before its own transaction; between
the two reads and the two transactions other processes may rotate.
-/
import Proxxx.AuditRotation

namespace Proxxx

open TagChain StepSystem List

/-- Where the append of one process stands.  The process mutex admits one at a
time. -/
inductive AppendPoint where
  | idle
  | checkingCached (cached : Key)
  | opening
  | countingRows
  | creatingKey
  | lookingAgain
  | readingKey
  | ready (key : Key)
deriving Repr, DecidableEq

/-- Where one call of `rotate_key_at` stands, with the key it read as the old
primary and the second it chose its id in. -/
inductive RotationPoint where
  | idle
  | readOld (oldKey : Key)
  | chosen (oldKey : Key) (secs : Nat)
  | locked (oldKey : Key) (secs : Nat)
  | archived (oldKey : Key) (secs : Nat)
  | replaced (oldKey : Key) (secs : Nat)
  | committed
deriving Repr, DecidableEq

/-- What all processes share, and how far the rotations are. -/
structure SharedLog where
  dir : KeyDir
  rows : List RawAuditRow
  /-- The rotation whose `IMMEDIATE` transaction is open. -/
  writer : Option Nat
  rotations : Nat → RotationPoint

structure ProcessState where
  shared : SharedLog
  /-- The key of the logger a process has cached. -/
  caches : Nat → Option Key
  appends : Nat → AppendPoint

inductive AuditStep where
  | startAppend (process : Nat)
  | checkCached (process : Nat)
  | openLog (process : Nat)
  | countRows (process : Nat)
  | linkKey (process : Nat) (key : Key)
  | lookAgain (process : Nat)
  | readKey (process : Nat)
  | append (process : Nat) (secs : Nat) (entry : LogEntry)
  | restart (process : Nat)
  | readOld (call : Nat)
  | chooseId (call : Nat) (secs : Nat)
  | begin (call : Nat)
  | archive (call : Nat)
  | replace (call : Nat) (newKey : Key)
  | commit (call : Nat)
  | evict (call : Nat) (process : Nat)

def SharedLog.setRotation (log : SharedLog) (call : Nat) (point : RotationPoint) : SharedLog :=
  { log with rotations := Function.update log.rotations call point }

def ProcessState.setAppend (state : ProcessState) (process : Nat)
    (point : AppendPoint) : ProcessState :=
  { state with appends := Function.update state.appends process point }

/-- Leave `with_cached_logger_at`'s lookup with an open logger. -/
def ProcessState.hold (state : ProcessState) (process : Nat) (key : Key) : ProcessState :=
  { state with
    caches := Function.update state.caches process (some key)
    appends := Function.update state.appends process (.ready key) }

def ProcessState.forget (state : ProcessState) (process : Nat) : ProcessState :=
  { state with caches := Function.update state.caches process none }

/-- The steps of an append: the cached logger is checked against the key on
disk, or a logger is opened, and then one transaction appends the row. -/
def appendStep (mac : Mac) (primary : String) (state : ProcessState) :
    AuditStep → Option ProcessState
  | .startAppend process =>
    match state.appends process, state.caches process with
    | .idle, some cached => some (state.setAppend process (.checkingCached cached))
    | .idle, none => some (state.setAppend process .opening)
    | _, _ => none
  | .checkCached process =>
    match state.appends process, loadExistingKey state.shared.dir primary with
    | .checkingCached cached, .ok disk =>
      if disk = cached then some (state.setAppend process (.ready cached))
      else some ((state.forget process).setAppend process .opening)
    | _, _ => none
  | .openLog process =>
    match state.appends process with
    | .opening =>
      if (state.shared.dir primary).isSome then
        some (state.setAppend process .readingKey)
      else some (state.setAppend process .countingRows)
    | _ => none
  | .countRows process =>
    match state.appends process with
    | .countingRows =>
      if state.shared.rows.all (·.keyId ≠ primaryKeyId) then
        some (state.setAppend process .creatingKey)
      else some (state.setAppend process .lookingAgain)
    | _ => none
  | .linkKey process key =>
    match state.appends process, state.shared.dir primary with
    | .creatingKey, none =>
      if key.length = 32 then
        some (ProcessState.hold
          { state with
            shared := { state.shared with
              dir := state.shared.dir.set primary (some (newKeyFile key)) } }
          process key)
      else none
    -- Another process published its key first; that one is read.
    | .creatingKey, some _ => some (state.setAppend process .readingKey)
    | _, _ => none
  | .lookAgain process =>
    match state.appends process, state.shared.dir primary with
    | .lookingAgain, some _ => some (state.setAppend process .readingKey)
    | _, _ => none
  | .readKey process =>
    match state.appends process, loadExistingKey state.shared.dir primary with
    | .readingKey, .ok key => some (state.hold process key)
    | _, _ => none
  | .append process secs entry =>
    match state.appends process, state.shared.writer with
    | .ready key, none =>
      some (ProcessState.setAppend
        { state with
          shared := { state.shared with
            rows := log mac key secs entry state.shared.rows } }
        process .idle)
    | _, _ => none
  | .restart process =>
    match state.appends process with
    | .idle => some (state.forget process)
    | _ => none
  | _ => none

/-- The steps of a rotation.  The retired copy and the new primary are written
while its transaction is open, so no other rotation uses the same temporary
file. -/
def rotationStep (primary : String) (log : SharedLog) : AuditStep → Option SharedLog
  | .readOld call =>
    match log.rotations call, loadExistingKey log.dir primary with
    | .idle, .ok oldKey => some (log.setRotation call (.readOld oldKey))
    | _, _ => none
  | .chooseId call secs =>
    match log.rotations call, log.dir (retiredKeyPathFor primary (retiredKeyId secs)) with
    | .readOld oldKey, none => some (log.setRotation call (.chosen oldKey secs))
    | _, _ => none
  | .begin call =>
    match log.rotations call, log.writer with
    | .chosen oldKey secs, none =>
      some { log.setRotation call (.locked oldKey secs) with
        writer := some call }
    | _, _ => none
  | .archive call =>
    match log.rotations call with
    | .locked oldKey secs =>
      if (log.dir (retiredKeyPathFor primary (retiredKeyId secs))).isNone then
        some { log.setRotation call (.archived oldKey secs) with
          dir := log.dir.set (retiredKeyPathFor primary (retiredKeyId secs))
            (some (newKeyFile oldKey)) }
      else none
    | _ => none
  | .replace call newKey =>
    match log.rotations call with
    | .archived oldKey secs =>
      if newKey.length = 32 then
        some { log.setRotation call (.replaced oldKey secs) with
          dir := (log.dir.set (rotateTmpPath primary) none).set primary (some (newKeyFile newKey)) }
      else none
    | _ => none
  | .commit call =>
    match log.rotations call with
    | .replaced _ secs =>
      some { log.setRotation call .committed with
        rows := relabel (retiredKeyId secs) log.rows, writer := none }
    | _ => none
  | _ => none

def auditStep (mac : Mac) (primary : String) (state : ProcessState) :
    AuditStep → Option ProcessState
  -- The finished rotation drops the logger its own process has cached.
  | .evict call process =>
    match state.shared.rotations call, state.appends process with
    | .committed, .idle =>
      some { state.forget process with
        shared := state.shared.setRotation call .idle }
    | _, _ => none
  | event =>
    match appendStep mac primary state event with
    | some next => some next
    | none =>
      (rotationStep primary state.shared event).map fun shared =>
        { state with shared }

/-- Everything a step can do to what the processes share. -/
inductive SharedStep (mac : Mac) (primary : String) (state : ProcessState) :
    AuditStep → SharedLog → Prop where
  | quiet (event : AuditStep) : SharedStep mac primary state event state.shared
  | linked (process : Nat) (key : Key)
      (hnone : state.shared.dir primary = none) (hlength : key.length = 32) :
      SharedStep mac primary state (.linkKey process key)
        { state.shared with
          dir := state.shared.dir.set primary (some (newKeyFile key)) }
  | appended (process secs : Nat) (entry : LogEntry) (key : Key)
      (hready : state.appends process = .ready key)
      (hwriter : state.shared.writer = none) :
      SharedStep mac primary state (.append process secs entry)
        { state.shared with rows := log mac key secs entry state.shared.rows }
  | read (call : Nat) (oldKey : Key)
      (hpoint : state.shared.rotations call = .idle)
      (hload : loadExistingKey state.shared.dir primary = .ok oldKey) :
      SharedStep mac primary state (.readOld call)
        (state.shared.setRotation call (.readOld oldKey))
  | chosen (call secs : Nat) (oldKey : Key)
      (hpoint : state.shared.rotations call = .readOld oldKey) :
      SharedStep mac primary state (.chooseId call secs)
        (state.shared.setRotation call (.chosen oldKey secs))
  | begun (call secs : Nat) (oldKey : Key)
      (hpoint : state.shared.rotations call = .chosen oldKey secs)
      (hwriter : state.shared.writer = none) :
      SharedStep mac primary state (.begin call)
        { state.shared.setRotation call (.locked oldKey secs) with
          writer := some call }
  | archived (call secs : Nat) (oldKey : Key)
      (hpoint : state.shared.rotations call = .locked oldKey secs)
      (hunused : state.shared.dir
        (retiredKeyPathFor primary (retiredKeyId secs)) = none) :
      SharedStep mac primary state (.archive call)
        { state.shared.setRotation call (.archived oldKey secs) with
          dir := state.shared.dir.set
            (retiredKeyPathFor primary (retiredKeyId secs))
            (some (newKeyFile oldKey)) }
  | replaced (call secs : Nat) (oldKey newKey : Key)
      (hpoint : state.shared.rotations call = .archived oldKey secs)
      (hlength : newKey.length = 32) :
      SharedStep mac primary state (.replace call newKey)
        { state.shared.setRotation call (.replaced oldKey secs) with
          dir := (state.shared.dir.set (rotateTmpPath primary) none).set primary
            (some (newKeyFile newKey)) }
  | committed (call secs : Nat) (oldKey : Key)
      (hpoint : state.shared.rotations call = .replaced oldKey secs) :
      SharedStep mac primary state (.commit call)
        { state.shared.setRotation call .committed with
          rows := relabel (retiredKeyId secs) state.shared.rows, writer := none }
  | finished (call process : Nat)
      (hpoint : state.shared.rotations call = .committed) :
      SharedStep mac primary state (.evict call process)
        (state.shared.setRotation call .idle)

section Inversion

variable {mac : Mac} {primary : String} {state next : ProcessState}
variable {event : AuditStep}

theorem appendStep_shared (hstep : appendStep mac primary state event =
    some next) : SharedStep mac primary state event next.shared := by
  unfold appendStep at hstep
  split at hstep
  all_goals try split at hstep
  all_goals try split at hstep
  all_goals try cases hstep
  all_goals try exact .quiet _
  · exact .linked _ _ ‹_› ‹_›
  · exact .appended _ _ _ _ ‹_› ‹_›

theorem rotationStep_shared {shared : SharedLog}
    (hstep : rotationStep primary state.shared event = some shared) :
    SharedStep mac primary state event shared := by
  unfold rotationStep at hstep
  split at hstep
  all_goals try split at hstep
  all_goals try split at hstep
  all_goals try cases hstep
  · exact .read _ _ ‹_› ‹_›
  · exact .chosen _ _ _ ‹_›
  · exact .begun _ _ _ ‹_› ‹_›
  · exact .archived _ _ _ ‹_› (Option.isNone_iff_eq_none.mp ‹_›)
  · exact .replaced _ _ _ _ ‹_› ‹_›
  · exact .committed _ _ _ ‹_›

theorem auditStep_shared (hstep : auditStep mac primary state event =
    some next) : SharedStep mac primary state event next.shared := by
  unfold auditStep at hstep
  split at hstep
  · split at hstep
    · cases hstep
      exact .finished _ _ ‹_›
    · cases hstep
  · split at hstep
    next happend =>
      cases hstep
      exact appendStep_shared happend
    · obtain ⟨shared, hrotation, rfl⟩ := Option.map_eq_some_iff.mp hstep
      exact rotationStep_shared hrotation

end Inversion

def RotationPoint.oldKey : RotationPoint → Option Key
  | .idle | .committed => none
  | .readOld key | .chosen key _ | .locked key _ | .archived key _
  | .replaced key _ => some key

/-- The key a logger is about to sign with. -/
def AppendPoint.signingKey : AppendPoint → Option Key
  | .ready key => some key
  | _ => none

/-- The points between the begin and the end of the transaction. -/
def RotationPoint.Holding : RotationPoint → Prop
  | .locked _ _ | .archived _ _ | .replaced _ _ => True
  | _ => False

/-- The rows verify with `key` in the primary's place. -/
def VerifiesWith (mac : Mac) (primary : String) (dir : KeyDir)
    (rows : List RawAuditRow) (key : Key) : Prop :=
  Verifies mac (ringWith primary dir key) rows ∧ ∀ row ∈ rows, UsableLabel row.keyId

/-- Between transactions: a log that has not been used, or one that verifies
with the keys on disk. -/
def FreeSound (mac : Mac) (primary : String) (dir : KeyDir) (rows : List RawAuditRow) : Prop :=
  (rows = [] ∧ dir primary = none) ∨ ∃ key, loadExistingKey dir primary = .ok key ∧
      VerifiesWith mac primary dir rows key

/-- Inside a rotation's transaction the rows verify with the key it has read,
which it archives first and whose place it then gives away. -/
def BusySound (mac : Mac) (primary : String) (dir : KeyDir)
    (rows : List RawAuditRow) : RotationPoint → Prop
  | .locked oldKey _ => VerifiesWith mac primary dir rows oldKey
  | .archived oldKey secs =>
    VerifiesWith mac primary dir rows oldKey ∧ dir (retiredKeyPathFor primary (retiredKeyId secs)) =
        some (newKeyFile oldKey)
  | .replaced oldKey secs =>
    VerifiesWith mac primary dir rows oldKey ∧ dir (retiredKeyPathFor primary (retiredKeyId secs)) =
        some (newKeyFile oldKey) ∧
      ∃ newKey, newKey.length = 32 ∧ dir primary = some (newKeyFile newKey)
  | _ => False

structure SharedLog.Sound (mac : Mac) (primary : String) (log : SharedLog) : Prop where
  keys : ∀ call key, (log.rotations call).oldKey = some key → key.length = 32
  holder : ∀ call, (log.rotations call).Holding → log.writer = some call
  free : log.writer = none → FreeSound mac primary log.dir log.rows
  busy : ∀ call, log.writer = some call →
    BusySound mac primary log.dir log.rows (log.rotations call)

section Soundness

variable {mac : Mac} {primary : String} {dir dir' : KeyDir}
variable {rows : List RawAuditRow} {key : Key} {shared : SharedLog}
variable {call secs : Nat} {point : RotationPoint}

theorem BusySound.holding (hbusy : BusySound mac primary dir rows point) :
    point.Holding := by cases point <;> trivial

/-- The files of the retired labels are all the rows depend on. -/
theorem VerifiesWith.congr_files (hrows : VerifiesWith mac primary dir rows key)
    (hfiles : ∀ keyId, UsableLabel keyId → dir' (retiredKeyPathFor primary keyId) =
        dir (retiredKeyPathFor primary keyId)) :
    VerifiesWith mac primary dir' rows key := by
  refine ⟨hrows.1.congr_keys ?_, hrows.2⟩
  intro row hrow
  have hload := loadExistingKey_congr (hfiles row.keyId (hrows.2 row hrow))
  simp [KeyRing.keyFor, loadRetiredKeyFor, hload]

/-- A new retired file does not touch the labels in use. -/
theorem VerifiesWith.archive (hrows : VerifiesWith mac primary dir rows key)
    (hunused : dir (retiredKeyPathFor primary (retiredKeyId secs)) = none)
    (file : Option KeyFile) :
    VerifiesWith mac primary (dir.set (retiredKeyPathFor primary (retiredKeyId secs)) file) rows
      key := by
  refine ⟨hrows.1.congr_keys ?_, hrows.2⟩
  intro row hrow
  by_cases hlabel : row.keyId = primaryKeyId
  · simp [KeyRing.keyFor, hlabel]
  have hsome := Chained.forall_mem hrows.1
    (fun _ _ hverifies => hverifies.retired_isSome) row hrow hlabel
  have hother : retiredKeyPathFor primary row.keyId ≠
      retiredKeyPathFor primary (retiredKeyId secs) := by
    intro heq
    rw [retiredKeyPathFor_injective heq] at hsome
    simp [loadRetiredKeyFor, loadExistingKey, hunused, Except.toOption] at hsome
  simp [KeyRing.keyFor, hlabel, loadRetiredKeyFor,
    loadExistingKey_congr (dir.set_other file hother)]

theorem VerifiesWith.setPrimary (hrows : VerifiesWith mac primary dir rows key)
    (file : Option KeyFile) :
    VerifiesWith mac primary (dir.set primary file) rows key :=
  hrows.congr_files fun keyId _ => dir.set_other file (retiredKeyPathFor_ne_primary keyId)

theorem VerifiesWith.setTmp (hrows : VerifiesWith mac primary dir rows key)
    (file : Option KeyFile) :
    VerifiesWith mac primary (dir.set (rotateTmpPath primary) file) rows key :=
  hrows.congr_files fun _ husable => dir.set_other file (retiredKeyPathFor_ne_rotateTmpPath husable)

/-- If no row carries the primary label, any key may stand for it. -/
theorem VerifiesWith.of_unlabelled {oldKey : Key} (hrows : VerifiesWith mac primary dir rows key)
    (hcases : key = oldKey ∨ ∀ row ∈ rows, row.keyId ≠ primaryKeyId) :
    VerifiesWith mac primary dir rows oldKey := by
  rcases hcases with rfl | hnone
  · exact hrows
  · refine ⟨hrows.1.congr_keys ?_, hrows.2⟩
    intro row hrow
    simp [KeyRing.keyFor, hnone row hrow]

/-- Committing the relabelled rows: the archived key takes over the old label
and the new primary signs nothing yet. -/
theorem VerifiesWith.commit {newKey : Key}
    (hrows : VerifiesWith mac primary dir rows key) (hlength : key.length = 32)
    (harchived : dir (retiredKeyPathFor primary (retiredKeyId secs)) = some (newKeyFile key)) :
    VerifiesWith mac primary dir (relabel (retiredKeyId secs) rows) newKey := by
  refine ⟨hrows.1.relabel (retiredKeyId_ne_primaryKeyId secs) ?_ (fun _ _ _ => rfl), ?_⟩
  · simp [loadRetiredKeyFor, Except.toOption, loadExistingKey_of_newKeyFile harchived hlength]
  · intro row hrow
    obtain ⟨source, hsource, rfl⟩ := mem_map.mp hrow
    unfold relabelRow
    split
    · exact usableLabel_retiredKeyId secs
    · exact hrows.2 source hsource

theorem VerifiesWith.log (hrows : VerifiesWith mac primary dir rows key)
    (secs : Nat) (entry : LogEntry) :
    VerifiesWith mac primary dir (Proxxx.log mac key secs entry rows) key := by
  refine ⟨hrows.1.log secs entry, ?_⟩
  intro row hrow
  rcases mem_append.mp hrow with hold | hnew
  · exact hrows.2 row hold
  · rw [mem_singleton.mp hnew]
    exact usableLabel_primaryKeyId

theorem SharedLog.Sound.keys_setRotation (hsound : shared.Sound mac primary)
    (hkey : ∀ key, point.oldKey = some key → key.length = 32) (other : Nat) (key : Key)
    (hother : ((shared.setRotation call point).rotations other).oldKey = some key) :
    key.length = 32 := by
  by_cases hcall : other = call
  · subst hcall
    exact hkey key (by simpa [SharedLog.setRotation] using hother)
  · exact hsound.keys other key (by simpa [SharedLog.setRotation, hcall] using hother)

/-- Moving a rotation between points outside its transaction. -/
theorem SharedLog.Sound.setRotation (hsound : shared.Sound mac primary)
    (hbefore : ¬(shared.rotations call).Holding) (hafter : ¬point.Holding)
    (hkey : ∀ key, point.oldKey = some key → key.length = 32) :
    (shared.setRotation call point).Sound mac primary := by
  refine ⟨hsound.keys_setRotation hkey, ?_, hsound.free, ?_⟩
  · intro other hother
    by_cases hcall : other = call
    · subst hcall
      exact absurd (by simpa [SharedLog.setRotation] using hother) hafter
    · exact hsound.holder other (by simpa [SharedLog.setRotation, hcall] using hother)
  · intro other hwriter
    have hbusy := hsound.busy other hwriter
    have hcall : other ≠ call := by
      rintro rfl
      exact hbefore hbusy.holding
    simpa [SharedLog.setRotation, hcall] using hbusy

/-- A rotation that is inside its transaction moves on within it. -/
theorem SharedLog.Sound.advance (hsound : shared.Sound mac primary) (point : RotationPoint)
    (hholding : shared.writer = none ∨ shared.writer = some call)
    (hkey : ∀ key, point.oldKey = some key → key.length = 32)
    (hbusy : BusySound mac primary dir' shared.rows point) :
    SharedLog.Sound mac primary
      { shared.setRotation call point with dir := dir', writer := some call } := by
  refine ⟨hsound.keys_setRotation hkey, ?_, by simp, ?_⟩
  · intro other hother
    by_cases hcall : other = call
    · rw [hcall]
    · have hwriter := hsound.holder other (by simpa [SharedLog.setRotation, hcall] using hother)
      rcases hholding with hnone | hsome
      · rw [hnone] at hwriter
        cases hwriter
      · exact hsome ▸ hwriter
  · intro other hwriter
    obtain rfl : call = other := Option.some.inj hwriter
    simpa [SharedLog.setRotation] using hbusy

end Soundness

/-- The condition under which the log survives: a row is signed while the key
its logger has read is still the primary on disk, and a rotation opens its
transaction while the key it has read still is, unless there is no row it
relabels. -/
def FreshStep (primary : String) (state : ProcessState) : AuditStep → Prop
  | .append process _ _ =>
    ∀ key ∈ (state.appends process).signingKey, loadExistingKey state.shared.dir primary = .ok key
  | .begin call =>
    ∀ key ∈ (state.shared.rotations call).oldKey,
      loadExistingKey state.shared.dir primary = .ok key ∨
        ∀ row ∈ state.shared.rows, row.keyId ≠ primaryKeyId
  | _ => True

instance freshStepDecidable (primary : String) (state : ProcessState) :
    ∀ event, Decidable (FreshStep primary state event)
  | .append process _ _ => inferInstanceAs (Decidable (∀ key ∈ (state.appends process).signingKey,
        loadExistingKey state.shared.dir primary = .ok key))
  | .begin call => inferInstanceAs (Decidable (∀ key ∈ (state.shared.rotations call).oldKey,
        loadExistingKey state.shared.dir primary = .ok key ∨
          ∀ row ∈ state.shared.rows, row.keyId ≠ primaryKeyId))
  | .startAppend _ | .checkCached _ | .openLog _ | .countRows _
  | .linkKey _ _ | .lookAgain _ | .readKey _ | .restart _ | .readOld _
  | .chooseId _ _ | .archive _ | .replace _ _ | .commit _
  | .evict _ _ => isTrue trivial

section Runs

variable {mac : Mac} {primary : String} {state next : ProcessState}
variable {event : AuditStep} {rows : List RawAuditRow}

theorem FreeSound.verifiesWith {dir : KeyDir} {key : Key} (hfree : FreeSound mac primary dir rows)
    (hload : loadExistingKey dir primary = .ok key) :
    VerifiesWith mac primary dir rows key := by
  rcases hfree with ⟨-, hnone⟩ | ⟨disk, hdisk, hrows⟩
  · simp [loadExistingKey, hnone] at hload
  · rw [hdisk] at hload
    obtain rfl := Except.ok.inj hload
    exact hrows

theorem FreeSound.begin {dir : KeyDir} {key : Key} (hfree : FreeSound mac primary dir rows)
    (hfresh : loadExistingKey dir primary = .ok key ∨ ∀ row ∈ rows, row.keyId ≠ primaryKeyId) :
    VerifiesWith mac primary dir rows key := by
  rcases hfree with ⟨rfl, -⟩ | ⟨disk, hdisk, hrows⟩
  · exact ⟨trivial, by simp⟩
  · apply hrows.of_unlabelled
    refine hfresh.imp_left ?_
    intro hload
    rw [hdisk] at hload
    exact Except.ok.inj hload

variable {shared : SharedLog}

theorem SharedLog.Sound.link {key : Key}
    (hsound : shared.Sound mac primary) (hnone : shared.dir primary = none)
    (hlength : key.length = 32) :
    SharedLog.Sound mac primary
      { shared with dir := shared.dir.set primary (some (newKeyFile key)) } := by
  refine ⟨hsound.keys, hsound.holder, ?_, ?_⟩
  · intro hwriter
    rcases hsound.free hwriter with ⟨hrows, -⟩ | ⟨disk, hdisk, -⟩
    · refine Or.inr ⟨key, loadExistingKey_of_newKeyFile (shared.dir.set_same primary _) hlength, ?_⟩
      rw [hrows]
      exact ⟨trivial, by simp⟩
    · simp [loadExistingKey, hnone] at hdisk
  · intro call hwriter
    have hbusy := hsound.busy call hwriter
    have hretired : ∀ secs, (shared.dir.set primary (some (newKeyFile key)))
        (retiredKeyPathFor primary (retiredKeyId secs)) =
          shared.dir (retiredKeyPathFor primary (retiredKeyId secs)) :=
      fun secs => shared.dir.set_other _ (retiredKeyPathFor_ne_primary (retiredKeyId secs))
    cases hpoint : shared.rotations call with
    | locked oldKey secs =>
      simp only [hpoint, BusySound] at hbusy ⊢
      exact hbusy.setPrimary _
    | archived oldKey secs =>
      simp only [hpoint, BusySound] at hbusy ⊢
      exact ⟨hbusy.1.setPrimary _, (hretired secs).trans hbusy.2⟩
    | replaced oldKey secs =>
      simp only [hpoint, BusySound, hnone] at hbusy
      obtain ⟨-, -, newKey, -, hfile⟩ := hbusy
      cases hfile
    | idle | readOld | chosen | committed => simp [hpoint, BusySound] at hbusy

theorem SharedLog.Sound.commit {call secs : Nat} {oldKey : Key} (hsound : shared.Sound mac primary)
    (hpoint : shared.rotations call = .replaced oldKey secs) :
    SharedLog.Sound mac primary { shared.setRotation call .committed with
        rows := relabel (retiredKeyId secs) shared.rows, writer := none } := by
  have hwriter := hsound.holder call (by rw [hpoint]; trivial)
  have hlength := hsound.keys call oldKey (by rw [hpoint]; rfl)
  have hbusy := hsound.busy call hwriter
  simp only [hpoint, BusySound] at hbusy
  obtain ⟨hrows, harchived, newKey, hnewLength, hnew⟩ := hbusy
  refine ⟨hsound.keys_setRotation nofun, ?_, ?_, by simp⟩
  · intro other hother
    by_cases hcall : other = call
    · subst hcall
      simp [SharedLog.setRotation, RotationPoint.Holding] at hother
    · have hother := hsound.holder other (by simpa [SharedLog.setRotation, hcall] using hother)
      exact absurd (Option.some.inj (hother.symm.trans hwriter)) hcall
  · intro _
    exact Or.inr ⟨newKey, loadExistingKey_of_newKeyFile hnew hnewLength,
      hrows.commit hlength harchived⟩

/-- A fresh step keeps the shared log sound. -/
theorem SharedLog.Sound.step (hfresh : FreshStep primary state event)
    (hstep : SharedStep mac primary state event shared)
    (hsound : state.shared.Sound mac primary) :
    shared.Sound mac primary := by
  cases hstep with
  | quiet => exact hsound
  | linked process key hnone hlength => exact hsound.link hnone hlength
  | appended process secs entry key hready hwriter =>
    have hload := hfresh key (by rw [hready]; rfl)
    refine ⟨hsound.keys, hsound.holder, ?_, ?_⟩
    · intro _
      exact Or.inr ⟨key, hload, ((hsound.free hwriter).verifiesWith hload).log secs entry⟩
    · intro call hbusy
      rw [hwriter] at hbusy
      cases hbusy
  | read call oldKey hpoint hload =>
    refine hsound.setRotation (by simp [hpoint, RotationPoint.Holding])
      (by simp [RotationPoint.Holding]) ?_
    intro key hkey
    cases hkey
    exact loadExistingKey_length hload
  | chosen call secs oldKey hpoint =>
    refine hsound.setRotation (by simp [hpoint, RotationPoint.Holding])
      (by simp [RotationPoint.Holding]) ?_
    intro key hkey
    exact hsound.keys call key (by rw [hpoint]; exact hkey)
  | begun call secs oldKey hpoint hwriter =>
    have hcases := hfresh oldKey (by rw [hpoint]; rfl)
    refine hsound.advance (.locked oldKey secs) (Or.inl hwriter) ?_
      ((hsound.free hwriter).begin hcases)
    intro key hkey
    exact hsound.keys call key (by rw [hpoint]; exact hkey)
  | archived call secs oldKey hpoint hunused =>
    have hwriter := hsound.holder call (by rw [hpoint]; trivial)
    have hbusy := hsound.busy call hwriter
    simp only [hpoint, BusySound] at hbusy
    have hadvanced := hsound.advance (.archived oldKey secs) (Or.inr hwriter)
      (fun key hkey => hsound.keys call key (by rw [hpoint]; exact hkey))
      ⟨hbusy.archive hunused (some (newKeyFile oldKey)), state.shared.dir.set_same _ _⟩
    rw [← hwriter] at hadvanced
    exact hadvanced
  | replaced call secs oldKey newKey hpoint hlength =>
    have hwriter := hsound.holder call (by rw [hpoint]; trivial)
    have hbusy := hsound.busy call hwriter
    simp only [hpoint, BusySound] at hbusy
    have hadvanced := hsound.advance (.replaced oldKey secs) (Or.inr hwriter)
      (fun key hkey => hsound.keys call key (by rw [hpoint]; exact hkey))
      ⟨(hbusy.1.setTmp none).setPrimary (some (newKeyFile newKey)), by
        rw [KeyDir.set_other _ _ (retiredKeyPathFor_ne_primary _),
          KeyDir.set_other _ _ (retiredKeyPathFor_ne_rotateTmpPath (usableLabel_retiredKeyId secs)),
          hbusy.2], newKey, hlength, KeyDir.set_same _ _ _⟩
    rw [← hwriter] at hadvanced
    exact hadvanced
  | committed call secs oldKey hpoint => exact hsound.commit hpoint
  | finished call process hpoint =>
    exact hsound.setRotation (by simp [hpoint, RotationPoint.Holding])
      (by simp [RotationPoint.Holding]) (by simp [RotationPoint.oldKey])

/-- No call is in flight. -/
structure ProcessState.Quiet (state : ProcessState) : Prop where
  writer : state.shared.writer = none
  rotations : ∀ call, state.shared.rotations call = .idle
  appends : ∀ process, state.appends process = .idle

/-- What `verify` says of the database with the key files: no failing row.  A
log without a key file has to be an unused one. -/
def LogVerifies (mac : Mac) (primary : String) (dir : KeyDir) (rows : List RawAuditRow) : Prop :=
  match diskRing primary dir with
  | some ring => (verify mac ring rows).2 = 0
  | none => rows = []

theorem FreeSound.logVerifies {dir : KeyDir} (hfree : FreeSound mac primary dir rows) :
    LogVerifies mac primary dir rows := by
  rcases hfree with ⟨hrows, hnone⟩ | ⟨key, hload, hrows⟩
  · simpa [LogVerifies, diskRing, loadExistingKey, hnone] using hrows
  · simp only [LogVerifies, diskRing_of_load hload]
    exact verify_fail_eq_zero_iff.mpr hrows.1

/-- In every interleaving in which rows are signed and rotations begin with a
key that is still the primary on disk, the log verifies whenever no call is in
flight. -/
theorem concurrent_log_verifies {start final : ProcessState}
    {events : List AuditStep} (hstart : start.Quiet)
    (hsound : FreeSound mac primary start.shared.dir start.shared.rows)
    (hfresh : StepsMeet (auditStep mac primary) (FreshStep primary) start events)
    (hrun : runFrom (auditStep mac primary) start events = some final)
    (hquiet : final.Quiet) :
    LogVerifies mac primary final.shared.dir final.shared.rows := by
  have hinitial : start.shared.Sound mac primary := by
    refine ⟨?_, ?_, fun _ => hsound, ?_⟩
    · simp [hstart.rotations, RotationPoint.oldKey]
    · simp [hstart.rotations, RotationPoint.Holding]
    · simp [hstart.writer]
  have hfinal : final.shared.Sound mac primary := invariant_of_stepsMeet (fun hmeets hstep hstate =>
      SharedLog.Sound.step hmeets (auditStep_shared hstep) hstate)
      hfresh hinitial hrun
  exact (hfinal.free hquiet.writer).logVerifies

end Runs

namespace ConcurrentWitness

open RotationWitness

def startWith (dir : KeyDir) : ProcessState :=
  { shared := { dir, rows := [], writer := none, rotations := fun _ => .idle }
    caches := fun _ => none
    appends := fun _ => .idle }

/-- A first use, a rotation by the same process, and another append. -/
def freshRun : List AuditStep :=
  [.startAppend 0, .openLog 0, .countRows 0, .linkKey 0 oldKey,
    .append 0 0 entry, .readOld 0, .chooseId 0 5, .begin 0, .archive 0,
    .replace 0 freshKey, .commit 0, .evict 0 0, .startAppend 0, .openLog 0,
    .readKey 0, .append 0 6 entry]

/-- A logger opens with the key on disk, another process rotates that key, and
the logger signs its row with the key it has read. -/
def staleRun : List AuditStep :=
  [.startAppend 0, .openLog 0, .readKey 0, .readOld 0, .chooseId 0 5, .begin 0,
    .archive 0, .replace 0 freshKey, .commit 0, .evict 0 1, .append 0 6 entry]

variable {final : ProcessState}

/-- A property of the final state is read off the run itself. -/
theorem final_eq {β : Type} {run : Option ProcessState}
    {value : β} (read : ProcessState → β) (hrun : run = some final)
    (hread : run.map read = some value) : read final = value := by
  rw [hrun] at hread
  exact Option.some.inj hread

theorem startWith_quiet (dir : KeyDir) : (startWith dir).Quiet := ⟨rfl, fun _ => rfl, fun _ => rfl⟩

theorem quiet_of_run {run : Option ProcessState} (hrun : run = some final)
    (hwriter : run.map (·.shared.writer) = some none)
    (hrotations : ∀ call, run.map (·.shared.rotations call) = some .idle)
    (happends : ∀ process, run.map (·.appends process) = some .idle) : final.Quiet :=
  ⟨final_eq _ hrun hwriter, fun call => final_eq _ hrun (hrotations call),
    fun process => final_eq _ hrun (happends process)⟩

theorem concurrent_log_verifies_fresh : ∃ final, runFrom (auditStep transcriptMac "audit.key")
      (startWith fun _ => none) freshRun = some final ∧
    final.shared.rows.length = 2 ∧
    LogVerifies transcriptMac "audit.key" final.shared.dir final.shared.rows := by
  obtain ⟨final, hrun⟩ : ∃ final,
      runFrom (auditStep transcriptMac "audit.key") (startWith fun _ => none)
        freshRun = some final := ⟨_, rfl⟩
  refine ⟨final, hrun, final_eq (fun state => state.shared.rows.length) hrun rfl, ?_⟩
  have hquiet : final.Quiet := by
    refine quiet_of_run hrun rfl ?_ ?_
    · rintro (_ | call) <;> rfl
    · rintro (_ | process) <;> rfl
  exact concurrent_log_verifies (startWith_quiet _) (Or.inl ⟨rfl, rfl⟩)
    (by decide +kernel) hrun hquiet

/-- Every call has returned and the one row of the log fails. -/
theorem stale_append_fails : FreeSound transcriptMac "audit.key" files [] ∧
    ∃ final, runFrom (auditStep transcriptMac "audit.key") (startWith files) staleRun = some final ∧
      final.Quiet ∧ ¬LogVerifies transcriptMac "audit.key" final.shared.dir final.shared.rows := by
  refine ⟨Or.inr ⟨oldKey, rfl, trivial, by simp⟩, ?_⟩
  obtain ⟨final, hrun⟩ : ∃ final, runFrom (auditStep transcriptMac "audit.key") (startWith files)
        staleRun = some final := ⟨_, rfl⟩
  have hquiet : final.Quiet := by
    refine quiet_of_run hrun rfl ?_ ?_
    · rintro (_ | call) <;> rfl
    · rintro (_ | process) <;> rfl
  refine ⟨final, hrun, hquiet, ?_⟩
  have hrows : final.shared.rows = log transcriptMac oldKey 6 entry [] :=
    final_eq (fun state => state.shared.rows) hrun rfl
  have hload : loadExistingKey final.shared.dir "audit.key" = .ok freshKey :=
    final_eq (fun state => loadExistingKey state.shared.dir "audit.key") hrun rfl
  intro hverifies
  simp only [LogVerifies, diskRing_of_load hload, hrows] at hverifies
  have hempty : Verifies transcriptMac (ringWith "audit.key" final.shared.dir oldKey) [] := trivial
  have hsigned := hempty.log 6 entry
  have hkeys := hsigned.keyFor_unique transcriptMac_keySeparating
    (verify_fail_eq_zero_iff.mp hverifies) _ mem_cons_self
  have hsame : freshKey = oldKey := Option.some.inj hkeys
  exact absurd hsame (by decide)

end ConcurrentWitness

end Proxxx
