/-
Opening the audit log for the first time.  An opener that finds no key makes
one, unless there are rows already, and publishes it with a hard link, which
fails if another opener was faster.  Any number of processes open and append,
one file operation or transaction at a time; what relates them is that a key is
linked before the first row can be written.
-/
import Proxxx.AuditKeys

namespace Proxxx

open StepSystem List

/-- The temporary key file of a process; its tag is the process's own. -/
def tempKeyPath (primary : String) (process : Nat) : String :=
  primary ++ "." ++ toString process ++ ".0.tmp"

/-- The errors an opener ends with by its own decision. -/
inductive OpenRefusal where
  | key (e : KeyError)
  | rowsWithoutKey (rows : Nat)
  | tempTaken
  | tempGone
deriving Repr, DecidableEq

/-- Where a process stands in `open_at`. -/
inductive OpenPoint where
  | closed
  | dbReady
  | prepared
  | keySeen
  | keyMissing
  | rowsSeen (count : Nat)
  | noRows
  | generated (key : Key)
  | tempOpened (key : Key)
  | tempWritten (key : Key)
  | tempSynced (key : Key)
  | linked (key : Key)
  | unlinked (key : Key)
  | lostRace
  | linkFailed
  | opened (key : Key)
  | refused (refusal : OpenRefusal)
  | failed
deriving Repr, DecidableEq

inductive OpenAction where
  | createDb
  | prepareTable
  | lookForKey
  | readKey
  | countRows
  | generate (key : Key)
  | openTemp
  | writeTemp
  | syncTemp
  | link
  | removeTemp
  | syncDir
  | append (secs : Nat) (entry : LogEntry)
  | fail
deriving Repr, DecidableEq

/-- The audit directory, the rows of the database and where the processes are.
A process reads and writes rows from `prepared` on, when the table is there. -/
structure AuditOpeners where
  dir : KeyDir
  rows : List RawAuditRow
  points : Nat → OpenPoint

def AuditOpeners.empty : AuditOpeners :=
  { dir := fun _ => none
    rows := [], points := fun _ => .closed }

def AuditOpeners.go (openers : AuditOpeners) (process : Nat) (point : OpenPoint) : AuditOpeners :=
  { openers with points := Function.update openers.points process point }

def primaryRowCount (rows : List RawAuditRow) : Nat :=
  (rows.filter fun row => row.keyId == primaryKeyId).length

def readKeyPoint (result : Except KeyError Key) : OpenPoint :=
  match result with
  | .ok key => .opened key
  | .error e => .refused (.key e)

/-- Where an operation that the system refuses leads.  A failure to remove the
temporary file is ignored. -/
def OpenPoint.onFail : OpenPoint → Option OpenPoint
  | .linked key => some (.unlinked key)
  | .lostRace => some .keySeen
  | .tempSynced _ => some .linkFailed
  | .opened _ | .refused _ | .failed => none
  | _ => some .failed

section Steps

variable (mac : Mac) (primary : String)

/-- One operation of one process on its way through `open_at`, and the appends
of the processes that have opened. -/
def openStep (openers : AuditOpeners) (process : Nat) (action : OpenAction) : Option AuditOpeners :=
  let temp := tempKeyPath primary process
  match openers.points process, action with
  | .closed, .createDb => some (openers.go process .dbReady)
  | .dbReady, .prepareTable => some (openers.go process .prepared)
  | .prepared, .lookForKey =>
    some (openers.go process (if (openers.dir primary).isSome then .keySeen else .keyMissing))
  | .keySeen, .readKey =>
    some (openers.go process (readKeyPoint (loadExistingKey openers.dir primary)))
  | .keyMissing, .countRows =>
    let count := primaryRowCount openers.rows
    some (openers.go process (if count = 0 then .noRows else .rowsSeen count))
  | .rowsSeen count, .lookForKey =>
    some (openers.go process (if (openers.dir primary).isSome then .keySeen
      else .refused (.rowsWithoutKey count)))
  | .noRows, .generate key =>
    if key.length = 32 then some (openers.go process (.generated key))
    else none
  | .generated key, .openTemp =>
    -- The file is opened with `create_new` and mode 0600.
    if (openers.dir temp).isSome then
      some (openers.go process (.refused .tempTaken))
    else
      some ({ openers with
        dir := openers.dir.set temp (some (newKeyFile [])) }.go process (.tempOpened key))
  | .tempOpened key, .writeTemp =>
    some ({ openers with
      dir := openers.dir.set temp (some (newKeyFile key)) }.go process (.tempWritten key))
  | .tempWritten key, .syncTemp => some (openers.go process (.tempSynced key))
  | .tempSynced key, .link =>
    match openers.dir temp with
    | none => some (openers.go process (.refused .tempGone))
    | some file =>
      if (openers.dir primary).isSome then
        some (openers.go process .lostRace)
      else
        some ({ openers with
          dir := openers.dir.set primary (some file) }.go process (.linked key))
  | .linked key, .removeTemp =>
    some ({ openers with dir := openers.dir.set temp none }.go process (.unlinked key))
  | .unlinked key, .syncDir => some (openers.go process (.opened key))
  | .lostRace, .removeTemp =>
    some ({ openers with dir := openers.dir.set temp none }.go process .keySeen)
  | .linkFailed, .removeTemp =>
    some ({ openers with dir := openers.dir.set temp none }.go process .failed)
  | .opened key, .append secs entry =>
    some { openers with rows := log mac key secs entry openers.rows }
  | point, .fail => point.onFail.map (openers.go process)
  | _, _ => none

def firstUseStep (openers : AuditOpeners) (event : Nat × OpenAction) : Option AuditOpeners :=
  openStep mac primary openers event.1 event.2

end Steps

section Names

variable {primary : String}

theorem tempKeyPath_ne_primary (process : Nat) : tempKeyPath primary process ≠ primary := by
  intro heq
  have hlength := congrArg (fun name => name.toList.length) heq
  simp [tempKeyPath] at hlength

theorem tempKeyPath_injective : Function.Injective (tempKeyPath primary) := by
  intro process other heq
  have hlist := congrArg String.toList heq
  simp only [tempKeyPath, String.toList_append,
    append_cancel_right_eq, append_cancel_left_eq] at hlist
  exact Nat.repr_injective (String.toList_inj.mp hlist)

end Names

section Agreement

variable {mac : Mac} {primary : String}

/-- The rows are a chain under the one key, with no other label. -/
def SignedWith (mac : Mac) (key : Key) (rows : List RawAuditRow) : Prop :=
  Verifies mac { primary := key, retired := fun _ => none } rows ∧
    ∀ row ∈ rows, row.keyId = primaryKeyId

theorem signedWith_nil (key : Key) : SignedWith mac key [] := ⟨trivial, by simp⟩

theorem SignedWith.log {key : Key} {rows : List RawAuditRow}
    (hsigned : SignedWith mac key rows) (secs : Nat) (entry : LogEntry) :
    SignedWith mac key (log mac key secs entry rows) := by
  refine ⟨hsigned.1.log secs entry, ?_⟩
  intro row hrow
  rcases mem_append.mp hrow with hold | hnew
  · exact hsigned.2 row hold
  · rw [mem_singleton.mp hnew]
    rfl

theorem SignedWith.verifies {key : Key} {rows : List RawAuditRow}
    (hsigned : SignedWith mac key rows) {ring : KeyRing}
    (hring : ring.primary = key) : Verifies mac ring rows := by
  apply hsigned.1.congr_keys
  intro row hrow
  simp [KeyRing.keyFor, hsigned.2 row hrow, hring]

/-- What holds of the key file and the rows: the key is whole, it is there
before the rows, and they are signed with it. -/
structure FirstUseSound (mac : Mac) (keyFile : Option KeyFile)
    (rows : List RawAuditRow) : Prop where
  whole : ∀ file, keyFile = some file →
    ∃ key : Key, key.length = 32 ∧ file = newKeyFile key ∧ SignedWith mac key rows
  keyed : keyFile = none → rows = []

/-- What a process may rely on where it stands. -/
def OpenPoint.Sound (primary : String) (dir : KeyDir)
    (rows : List RawAuditRow) (process : Nat) : OpenPoint → Prop
  | .closed | .dbReady | .prepared | .keyMissing | .noRows =>
    dir (tempKeyPath primary process) = none
  | .generated key => key.length = 32 ∧ dir (tempKeyPath primary process) = none
  | .tempOpened key => key.length = 32
  | .tempWritten key | .tempSynced key =>
    key.length = 32 ∧ dir (tempKeyPath primary process) = some (newKeyFile key)
  | .linked key | .unlinked key | .opened key => dir primary = some (newKeyFile key)
  | .lostRace | .keySeen => dir primary ≠ none
  | .rowsSeen _ => rows ≠ []
  | .refused _ => False
  | .linkFailed | .failed => True

structure AuditOpeners.Sound (mac : Mac) (primary : String) (openers : AuditOpeners) : Prop where
  shared : FirstUseSound mac (openers.dir primary) openers.rows
  points : ∀ process, (openers.points process).Sound primary openers.dir openers.rows process

variable {openers next final : AuditOpeners} {process : Nat}
  {point : OpenPoint} {dir dir' : KeyDir} {rows rows' : List RawAuditRow}

/-- Keys and rows that appear do not disturb a process elsewhere. -/
theorem OpenPoint.Sound.mono (hpoint : point.Sound primary dir rows process)
    (htemp : dir' (tempKeyPath primary process) = dir (tempKeyPath primary process))
    (hkey : ∀ file, dir primary = some file → dir' primary = some file)
    (hrows : rows ≠ [] → rows' ≠ []) :
    point.Sound primary dir' rows' process := by
  cases point with
  | closed | dbReady | prepared | keyMissing | noRows => exact htemp.trans hpoint
  | generated key | tempWritten key | tempSynced key => exact ⟨hpoint.1, htemp.trans hpoint.2⟩
  | tempOpened key => exact hpoint
  | linked key | unlinked key | opened key => exact hkey _ hpoint
  | lostRace | keySeen =>
    obtain ⟨file, hfile⟩ := Option.ne_none_iff_exists'.mp hpoint
    have hthere := hkey file hfile
    simp [OpenPoint.Sound, hthere]
  | rowsSeen count => exact hrows hpoint
  | refused refusal => exact hpoint
  | linkFailed | failed => trivial

/-- One process moves on; the key file stays once it is there, and the other
processes' temporary files stay as they are. -/
theorem AuditOpeners.Sound.advance (hsound : openers.Sound mac primary)
    (htemps : ∀ other, other ≠ process → dir' (tempKeyPath primary other) =
        openers.dir (tempKeyPath primary other))
    (hkey : ∀ file, openers.dir primary = some file → dir' primary = some file)
    (hrows : openers.rows ≠ [] → rows' ≠ [])
    (hshared : FirstUseSound mac (dir' primary) rows')
    (hpoint : point.Sound primary dir' rows' process) :
    AuditOpeners.Sound mac primary
      (AuditOpeners.go { openers with dir := dir', rows := rows' } process point) := by
  refine ⟨hshared, fun other => ?_⟩
  by_cases hother : other = process
  · subst hother
    simpa [AuditOpeners.go] using hpoint
  · have hmono := (hsound.points other).mono (htemps other hother) hkey hrows
    simpa [AuditOpeners.go, hother] using hmono

theorem AuditOpeners.Sound.go (hsound : openers.Sound mac primary)
    (hpoint : point.Sound primary openers.dir openers.rows process) :
    (openers.go process point).Sound mac primary :=
  hsound.advance (fun _ _ => rfl) (fun _ => id) id hsound.shared hpoint

/-- The process writes or removes its own temporary file. -/
theorem AuditOpeners.Sound.setTemp (hsound : openers.Sound mac primary) {file : Option KeyFile}
    (hpoint : point.Sound primary (openers.dir.set (tempKeyPath primary process) file) openers.rows
      process) :
    AuditOpeners.Sound mac primary ({ openers with
        dir := openers.dir.set (tempKeyPath primary process) file }.go process point) := by
  have hprimary : openers.dir.set (tempKeyPath primary process) file primary =
      openers.dir primary :=
    KeyDir.set_other _ _ (tempKeyPath_ne_primary process).symm
  refine hsound.advance (fun other hother => ?_) (fun _ => hprimary.trans) id
    (hprimary ▸ hsound.shared) hpoint
  exact KeyDir.set_other _ _ (tempKeyPath_injective.ne hother)

/-- The first link: there is no row yet, so the key fits all of them. -/
theorem AuditOpeners.Sound.publish (hsound : openers.Sound mac primary)
    {key : Key} (hlength : key.length = 32)
    (hnone : openers.dir primary = none) :
    AuditOpeners.Sound mac primary ({ openers with
        dir := openers.dir.set primary (some (newKeyFile key)) }.go process (.linked key)) := by
  have hprimary := openers.dir.set_same primary (some (newKeyFile key))
  refine hsound.advance (fun other _ => ?_) (fun file hfile => ?_) id ?_ hprimary
  · exact KeyDir.set_other _ _ (tempKeyPath_ne_primary other)
  · simp [hnone] at hfile
  · rw [hprimary, hsound.shared.keyed hnone]
    refine ⟨?_, nofun⟩
    rintro file hfile
    exact ⟨key, hlength, (Option.some.inj hfile).symm, signedWith_nil key⟩

theorem AuditOpeners.Sound.append (hsound : openers.Sound mac primary)
    {key : Key} (hkey : openers.dir primary = some (newKeyFile key))
    (secs : Nat) (entry : LogEntry) :
    AuditOpeners.Sound mac primary
      { openers with rows := log mac key secs entry openers.rows } := by
  constructor
  · refine ⟨?_, fun hnone => by simp [hkey] at hnone⟩
    intro file hfile
    obtain ⟨held, hlength, rfl, hsigned⟩ := hsound.shared.whole file hfile
    obtain rfl : key = held := by
      have hsame := Option.some.inj (hkey.symm.trans hfile)
      exact congrArg KeyFile.bytes hsame
    exact ⟨key, hlength, rfl, hsigned.log secs entry⟩
  · intro process
    refine (hsound.points process).mono rfl (fun _ => id) fun _ => ?_
    simp [log]

theorem onFail_sound {after : OpenPoint} (hpoint : point.Sound primary dir rows process)
    (hfail : point.onFail = some after) :
    after.Sound primary dir rows process := by
  cases point with
  | linked key | lostRace =>
    cases hfail
    exact hpoint
  | opened key | refused refusal | failed => cases hfail
  | _ =>
    cases hfail
    trivial

/-- A key file that is there can be read. -/
theorem readKeyPoint_sound (hshared : FirstUseSound mac (dir primary) rows)
    (hthere : dir primary ≠ none) :
    (readKeyPoint (loadExistingKey dir primary)).Sound primary dir rows process := by
  obtain ⟨file, hfile⟩ := Option.ne_none_iff_exists'.mp hthere
  obtain ⟨key, hlength, rfl, -⟩ := hshared.whole file hfile
  rw [loadExistingKey_of_newKeyFile hfile hlength]
  exact hfile

theorem AuditOpeners.Sound.step {event : Nat × OpenAction}
    (hstep : firstUseStep mac primary openers event = some next)
    (hsound : openers.Sound mac primary) : next.Sound mac primary := by
  obtain ⟨process, action⟩ := event
  have hown := hsound.points process
  revert hstep
  unfold firstUseStep
  fun_cases openStep mac primary openers process action <;> intro hstep
  any_goals cases hstep
  all_goals try rw [‹openers.points process = _›] at hown
  next => exact hsound.go hown
  next => exact hsound.go hown
  next =>
    apply hsound.go
    split
    next hthere => exact Option.isSome_iff_ne_none.mp hthere
    next => exact hown
  next => exact hsound.go (readKeyPoint_sound hsound.shared hown)
  next count =>
    apply hsound.go
    split
    next => exact hown
    next hcount =>
      intro hrows
      simp [count, primaryRowCount, hrows] at hcount
  next count _ =>
    -- Rows are only written behind a key, so the key is there by now.
    apply hsound.go
    split
    next hthere => exact Option.isSome_iff_ne_none.mp hthere
    next hmissing => exact hown (hsound.shared.keyed (by simpa using hmissing))
  next hlength => exact hsound.go ⟨hlength, hown⟩
  next temp _ _ htaken => simp [temp, hown.2] at htaken
  next => exact hsound.setTemp hown.1
  next => exact hsound.setTemp ⟨hown, KeyDir.set_same _ _ _⟩
  next => exact hsound.go hown
  next hgone => cases hgone.symm.trans hown.2
  next hthere => exact hsound.go (Option.isSome_iff_ne_none.mp hthere)
  next file hfile hmissing =>
    cases hfile.symm.trans hown.2
    exact hsound.publish hown.1 (by simpa using hmissing)
  next =>
    exact hsound.setTemp ((KeyDir.set_other _ _ (tempKeyPath_ne_primary process).symm).trans hown)
  next => exact hsound.go hown
  next =>
    apply hsound.setTemp
    rw [OpenPoint.Sound, KeyDir.set_other _ _ (tempKeyPath_ne_primary process).symm]
    exact hown
  next => exact hsound.setTemp trivial
  next secs entry _ => exact hsound.append hown secs entry
  next =>
    obtain ⟨after, hafter, rfl⟩ := Option.map_eq_some_iff.mp hstep
    exact hsound.go (onFail_sound hown hafter)

theorem AuditOpeners.sound_empty : AuditOpeners.empty.Sound mac primary := by
  constructor
  · exact ⟨nofun, fun _ => rfl⟩
  · intro process
    rfl

/-- However the processes are interleaved: those that open hold the key that is
on disk, none is turned away by what another did, and the log verifies with
that key, which is there as soon as there is a row. -/
theorem first_use_keys_agree (mac : Mac) (primary : String) {events : List (Nat × OpenAction)}
    (hrun : runFrom (firstUseStep mac primary) .empty events = some final) :
    (∀ process other key key', final.points process = .opened key →
      final.points other = .opened key' → key = key') ∧
    (∀ process key, final.points process = .opened key →
      loadExistingKey final.dir primary = .ok key) ∧
    (∀ process refusal, final.points process ≠ .refused refusal) ∧
    (∀ ring, diskRing primary final.dir = some ring → (verify mac ring final.rows).2 = 0) ∧
    (final.rows ≠ [] → ∃ ring, diskRing primary final.dir = some ring) := by
  have hsound : final.Sound mac primary :=
    invariant_of_step AuditOpeners.Sound.step AuditOpeners.sound_empty hrun
  have hread : ∀ file, final.dir primary = some file →
      ∃ key : Key, loadExistingKey final.dir primary = .ok key ∧ SignedWith mac key final.rows := by
    intro file hfile
    obtain ⟨key, hlength, rfl, hsigned⟩ := hsound.shared.whole file hfile
    exact ⟨key, loadExistingKey_of_newKeyFile hfile hlength, hsigned⟩
  have hopened : ∀ process key, final.points process = .opened key →
      loadExistingKey final.dir primary = .ok key := by
    intro process key hkey
    have hown := hsound.points process
    rw [hkey] at hown
    obtain ⟨held, hlength, hsame, -⟩ := hsound.shared.whole _ hown
    obtain rfl : key = held := congrArg KeyFile.bytes hsame
    exact loadExistingKey_of_newKeyFile hown hlength
  refine ⟨?_, hopened, ?_, ?_, ?_⟩
  · intro process other key key' hkey hkey'
    have hsame := (hopened process key hkey).symm.trans (hopened other key' hkey')
    exact Except.ok.inj hsame
  · intro process refusal hrefused
    have hown := hsound.points process
    rw [hrefused] at hown
    exact hown
  · intro ring hring
    have hload := (diskRing_eq_some hring).1
    cases hfile : final.dir primary with
    | none => simp [loadExistingKey, hfile] at hload
    | some file =>
      obtain ⟨key, hkey, hsigned⟩ := hread file hfile
      apply verify_fail_eq_zero_iff.mpr
      exact hsigned.verifies (Except.ok.inj (hload.symm.trans hkey))
  · intro hrows
    cases hfile : final.dir primary with
    | none => exact absurd (hsound.shared.keyed hfile) hrows
    | some file =>
      obtain ⟨key, hkey, -⟩ := hread file hfile
      exact ⟨_, diskRing_of_load hkey⟩

end Agreement

namespace FirstUseWitness

def winningKey : Key := List.replicate 32 1

def losingKey : Key := List.replicate 32 2

def startEntry : LogEntry :=
  { action := "POST /nodes/pve1/qemu/100/status/start", user := "ops@bastion", vmid := some 100
    node := some "pve1", paramsJson := none, result := "sent" }

/-- Two processes find neither a key nor a row, and both make a key; the first
links its own, the second reads that one, and both append. -/
def racingOpeners : List (Nat × OpenAction) :=
  [(0, .createDb), (1, .createDb), (0, .prepareTable), (1, .prepareTable),
    (0, .lookForKey), (1, .lookForKey), (0, .countRows), (1, .countRows),
    (0, .generate winningKey), (1, .generate losingKey),
    (0, .openTemp), (1, .openTemp), (0, .writeTemp), (1, .writeTemp),
    (0, .syncTemp), (1, .syncTemp), (0, .link), (1, .link),
    (0, .removeTemp), (0, .syncDir), (0, .append 1747700000 startEntry),
    (1, .removeTemp), (1, .readKey), (1, .append 1747700001 startEntry)]

theorem first_use_keys_agree_racing :
    ∃ final, runFrom (firstUseStep transcriptMac "audit.key") .empty racingOpeners = some final ∧
      final.points 0 = .opened winningKey ∧
      final.points 1 = .opened winningKey ∧ final.rows.length = 2 ∧
      ∀ ring, diskRing "audit.key" final.dir = some ring →
        (verify transcriptMac ring final.rows).2 = 0 := by
  have hends : (runFrom (firstUseStep transcriptMac "audit.key") .empty
      racingOpeners).map (fun final =>
        (final.points 0, final.points 1, final.rows.length)) =
      some (.opened winningKey, .opened winningKey, 2) := by decide +kernel
  obtain ⟨final, hrun, hfinal⟩ := Option.map_eq_some_iff.mp hends
  simp only [Prod.mk.injEq] at hfinal
  obtain ⟨-, -, -, hverifies, -⟩ := first_use_keys_agree transcriptMac "audit.key" hrun
  exact ⟨final, hrun, hfinal.1, hfinal.2.1, hfinal.2.2, hverifies⟩

end FirstUseWitness

end Proxxx
