/-
The key of the approval keyboards on disk.  A call reads the key file and, if
there is none to use, makes a key, writes it to a temporary file and renames
that over the key file.  Any number of calls run at once, one file operation at
a time, and a call may fail or be cut off at every operation.
-/
import Proxxx.StepSystem
import Proxxx.TelegramCallback

namespace Proxxx

open StepSystem

def hitlKeyBytes : Nat := 32

/-- Where a call of `load_or_generate_hmac_key_at` stands. -/
inductive KeyCallPoint where
  | started
  | keyless
  | generated (key : Key)
  | dirReady (key : Key)
  | tempCleared (key : Key)
  | tempOpened (key : Key)
  | tempWritten (key : Key)
  | tempSynced (key : Key)
  | renamed (key : Key)
  | failing
  | finished (result : Option Key)
deriving Repr, DecidableEq

/-- The next operation of a call, or that it fails. -/
inductive KeyCallAction where
  | read
  | generate (key : Key)
  | createDir
  | removeStaleTemp
  | openTemp
  | writeTemp
  | syncTemp
  | rename
  | syncDir
  | removeTemp
  | fail
deriving Repr, DecidableEq

/-- The key file, the temporary file of each call, and where the calls are. -/
structure KeyCalls where
  keyFile : Option Key
  temps : Nat → Option Key
  points : Nat → KeyCallPoint

def KeyCalls.empty : KeyCalls :=
  { keyFile := none, temps := fun _ => none
    points := fun _ => .started }

def KeyCalls.go (calls : KeyCalls) (call : Nat) (point : KeyCallPoint) : KeyCalls :=
  { calls with points := Function.update calls.points call point }

def KeyCalls.setTemp (calls : KeyCalls) (call : Nat) (bytes : Option Key) : KeyCalls :=
  { calls with temps := Function.update calls.temps call bytes }

/-- A key of the wrong length is made again, as if there were none. -/
def readKeyFile (keyFile : Option Key) : KeyCallPoint :=
  match keyFile with
  | some bytes => if bytes.length = hitlKeyBytes then .finished (some bytes) else .keyless
  | none => .keyless

/-- Where a failing operation leads: from the temporary file on, it is removed
before the call answers.  A failure to remove a file is ignored. -/
def KeyCallPoint.onFail : KeyCallPoint → Option KeyCallPoint
  | .started | .keyless | .generated _ | .failing => some (.finished none)
  | .dirReady key => some (.tempCleared key)
  | .tempCleared _ | .tempOpened _ | .tempWritten _ | .tempSynced _
  | .renamed _ => some .failing
  | .finished _ => none

/-- One operation of one call.  The temporary file's name is the call's own, so
that no other call touches it. -/
def keyCallStep (calls : KeyCalls) : Nat × KeyCallAction → Option KeyCalls
  | (call, action) =>
    match calls.points call, action with
    | .started, .read => some (calls.go call (readKeyFile calls.keyFile))
    | .keyless, .generate key =>
      if key.length = hitlKeyBytes then
        some (calls.go call (.generated key))
      else none
    | .generated key, .createDir => some (calls.go call (.dirReady key))
    | .dirReady key, .removeStaleTemp => some ((calls.setTemp call none).go call (.tempCleared key))
    | .tempCleared key, .openTemp =>
      -- The file is opened with `create_new`.
      if calls.temps call = none then
        some ((calls.setTemp call (some [])).go call (.tempOpened key))
      else some (calls.go call .failing)
    | .tempOpened key, .writeTemp =>
      some ((calls.setTemp call (some key)).go call (.tempWritten key))
    | .tempWritten key, .syncTemp => some (calls.go call (.tempSynced key))
    | .tempSynced key, .rename =>
      match calls.temps call with
      | some bytes =>
        some (({ calls with keyFile := some bytes }.setTemp call none).go call (.renamed key))
      | none => some (calls.go call .failing)
    | .renamed key, .syncDir => some (calls.go call (.finished (some key)))
    | .failing, .removeTemp => some ((calls.setTemp call none).go call (.finished none))
    | point, .fail => point.onFail.map (calls.go call)
    | _, _ => none

section Agreement

variable {calls next final : KeyCalls} {event : Nat × KeyCallAction}
  {events : List (Nat × KeyCallAction)} {mac : Mac}

/-- A rename never replaces a key. -/
def FreshRename (calls : KeyCalls) (event : Nat × KeyCallAction) : Prop :=
  event.2 = .rename → calls.keyFile = none

instance freshRenameDecidable (calls : KeyCalls)
    (event : Nat × KeyCallAction) : Decidable (FreshRename calls event) :=
  inferInstanceAs (Decidable (event.2 = .rename → calls.keyFile = none))

/-- The key that the call has published or answers with. -/
def KeyCallPoint.settled : KeyCallPoint → Option Key
  | .renamed key => some key
  | .finished result => result
  | _ => none

/-- The key that stands complete in the call's temporary file. -/
def KeyCallPoint.pending : KeyCallPoint → Option Key
  | .tempWritten key => some key
  | .tempSynced key => some key
  | _ => none

/-- Every settled key is the one on disk, and the temporary files hold what
their calls have written. -/
structure KeyCalls.Agreed (calls : KeyCalls) : Prop where
  settled : ∀ call key, (calls.points call).settled = some key → calls.keyFile = some key
  pending : ∀ call key, (calls.points call).pending = some key → calls.temps call = some key

theorem KeyCalls.agreed_empty : KeyCalls.empty.Agreed := by
  constructor
  · nofun
  · nofun

variable {point : KeyCallPoint}

/-- What a step can do: move the call, and change its temporary file. -/
theorem KeyCalls.Agreed.move (hagreed : calls.Agreed) {call : Nat} {temp : Option Key}
    (hsettled : ∀ key, point.settled = some key → calls.keyFile = some key)
    (hpending : ∀ key, point.pending = some key → temp = some key) :
    ((calls.setTemp call temp).go call point).Agreed := by
  constructor
  · intro other key hkey
    by_cases hother : other = call
    · subst hother
      exact hsettled key (by simpa [KeyCalls.go] using hkey)
    · exact hagreed.settled other key (by simpa [KeyCalls.go, KeyCalls.setTemp, hother] using hkey)
  · intro other key hkey
    by_cases hother : other = call
    · subst hother
      simpa [KeyCalls.go, KeyCalls.setTemp] using hpending key (by simpa [KeyCalls.go] using hkey)
    · have htemp := hagreed.pending other key
        (by simpa [KeyCalls.go, KeyCalls.setTemp, hother] using hkey)
      simpa [KeyCalls.go, KeyCalls.setTemp, hother] using htemp

theorem KeyCalls.Agreed.go (hagreed : calls.Agreed) {call : Nat}
    (hsettled : ∀ key, point.settled = some key → calls.keyFile = some key)
    (hpending : ∀ key, point.pending = some key → calls.temps call = some key) :
    (calls.go call point).Agreed := by
  have hmove : ((calls.setTemp call (calls.temps call)).go call point).Agreed :=
    hagreed.move hsettled hpending
  simpa [KeyCalls.setTemp] using hmove

theorem KeyCallPoint.onFail_settled {after : KeyCallPoint} (hfail : point.onFail = some after) :
    after.settled = none ∧ after.pending = none := by
  cases point <;> cases hfail <;> exact ⟨rfl, rfl⟩

theorem readKeyFile_settled {keyFile : Option Key} {key : Key}
    (hkey : (readKeyFile keyFile).settled = some key) : keyFile = some key := by
  unfold readKeyFile at hkey
  split at hkey
  · split at hkey
    · rw [Option.some.inj hkey]
    · cases hkey
  · cases hkey

theorem readKeyFile_pending (keyFile : Option Key) : (readKeyFile keyFile).pending = none := by
  unfold readKeyFile
  split
  · split <;> rfl
  · rfl

/-- Before the first key is published, no call has one to answer with. -/
theorem KeyCalls.Agreed.publish (hagreed : calls.Agreed) {call : Nat}
    {key : Key} (hnone : calls.keyFile = none) :
    (({ calls with keyFile := some key }.setTemp call none).go call (.renamed key)).Agreed := by
  have hunsettled : KeyCalls.Agreed { calls with keyFile := some key } :=
    { settled := fun other other' hother => by
        have hdisk := hagreed.settled other other' hother
        simp [hnone] at hdisk
      pending := hagreed.pending }
  exact hunsettled.move (fun _ hkey => hkey) nofun

theorem KeyCalls.Agreed.step (hfresh : FreshRename calls event)
    (hstep : keyCallStep calls event = some next) (hagreed : calls.Agreed) :
    next.Agreed := by
  have hmove : ∀ {call : Nat} {point : KeyCallPoint} {temp : Option Key}, point.settled = none →
      (∀ key, point.pending = some key → temp = some key) →
      ((calls.setTemp call temp).go call point).Agreed := by
    intro call point temp hunsettled hpending
    exact hagreed.move (fun key hkey => by simp [hunsettled] at hkey) hpending
  have hgo : ∀ {call : Nat} {point : KeyCallPoint}, point.settled = none →
      point.pending = none → (calls.go call point).Agreed := by
    intro call point hunsettled hunpending
    exact hagreed.go (fun key hkey => by simp [hunsettled] at hkey)
      fun key hkey => by simp [hunpending] at hkey
  revert hstep
  fun_cases keyCallStep calls event <;> intro hstep
  any_goals cases hstep
  next =>
    refine hagreed.go (fun key => readKeyFile_settled) fun key hkey => ?_
    simp [readKeyFile_pending] at hkey
  next => exact hgo rfl rfl
  next => exact hgo rfl rfl
  next => exact hmove rfl nofun
  next => exact hmove rfl nofun
  next => exact hgo rfl rfl
  next => exact hmove rfl fun _ => id
  next call key hpoint =>
    refine hagreed.go (nofun) fun other hother => ?_
    exact hagreed.pending call other (by rw [hpoint]; exact hother)
  next call key hpoint bytes htemp =>
    have hown := hagreed.pending call key (by rw [hpoint]; rfl)
    cases htemp.symm.trans hown
    exact hagreed.publish (hfresh rfl)
  next => exact hgo rfl rfl
  next call key hpoint =>
    refine hagreed.go (fun other hother => ?_) nofun
    exact hagreed.settled call other (by rw [hpoint]; exact hother)
  next => exact hmove rfl nofun
  next =>
    obtain ⟨after, hafter, rfl⟩ := Option.map_eq_some_iff.mp hstep
    obtain ⟨hunsettled, hunpending⟩ := KeyCallPoint.onFail_settled hafter
    exact hgo hunsettled hunpending

theorem hmacVerify_hmacSign (hlong : ∀ key message, 8 ≤ (mac.tag key message).length) (key : Key)
    (payload : String) :
    hmacVerify mac key payload (hmacSign mac key payload) = true := by
  have hlength : ((mac.tag key payload).take 8).length = 8 := by
    rw [List.length_take]
    exact Nat.min_eq_left (hlong key payload)
  simp [hmacVerify, hmacSign, HexText.utf8ByteSize_encode, HexText.decode_encode, hlength]

/-- However the calls are interleaved, if no rename replaces a key, then all
that answer give the key that is on disk in the end, and each accepts what any
other has signed. -/
theorem keys_agree_of_fresh_renames (mac : Mac)
    (hlong : ∀ key message, 8 ≤ (mac.tag key message).length)
    (hfresh : StepsMeet keyCallStep FreshRename .empty events)
    (hrun : runFrom keyCallStep .empty events = some final) :
    (∀ call key, final.points call = .finished (some key) → final.keyFile = some key) ∧
    ∀ signer verifier key key', final.points signer = .finished (some key) →
      final.points verifier = .finished (some key') →
      key = key' ∧ ∀ payload, hmacVerify mac key' payload (hmacSign mac key payload) = true := by
  have hagreed : final.Agreed :=
    invariant_of_stepsMeet KeyCalls.Agreed.step hfresh KeyCalls.agreed_empty hrun
  have hdisk : ∀ call key, final.points call = .finished (some key) → final.keyFile = some key := by
    intro call key hkey
    apply hagreed.settled call key
    rw [hkey]
    rfl
  refine ⟨hdisk, ?_⟩
  intro signer verifier key key' hsigner hverifier
  have hsame : key = key' := by
    have hone := hdisk signer key hsigner
    rw [hdisk verifier key' hverifier] at hone
    exact (Option.some.inj hone).symm
  exact ⟨hsame, fun payload => hsame ▸ hmacVerify_hmacSign hlong key payload⟩

end Agreement

namespace HitlKeyWitness

def firstKey : Key := List.replicate 32 1

def secondKey : Key := List.replicate 32 2

/-- The operations of a call that finds no key. -/
def bootstrap (call : Nat) (key : Key) : List (Nat × KeyCallAction) :=
  [.generate key, .createDir, .removeStaleTemp, .openTemp, .writeTemp,
    .syncTemp, .rename, .syncDir].map fun action => (call, action)

/-- The second call reads what the first has published. -/
def orderedRun : List (Nat × KeyCallAction) :=
  (0, .read) :: bootstrap 0 firstKey ++ [(1, .read)]

/-- Both calls read before either has published. -/
def racingRun : List (Nat × KeyCallAction) :=
  [(0, .read), (1, .read)] ++ bootstrap 0 firstKey ++ bootstrap 1 secondKey

/-- A tag of eight bytes and more. -/
def longMac : Mac where
  tag key message := transcriptBytes key message ++ List.replicate 8 0
  tag_ne_nil key message := by simp

theorem keys_agree_ordered : ∃ final, runFrom keyCallStep .empty orderedRun = some final ∧
    final.points 0 = .finished (some firstKey) ∧
    final.points 1 = .finished (some firstKey) ∧
    final.keyFile = some firstKey ∧ ∀ payload, hmacVerify longMac firstKey payload
        (hmacSign longMac firstKey payload) = true := by
  have hends : (runFrom keyCallStep .empty orderedRun).map
      (fun final => (final.points 0, final.points 1)) =
        some (.finished (some firstKey), .finished (some firstKey)) := by decide +kernel
  obtain ⟨final, hrun, hpoints⟩ := Option.map_eq_some_iff.mp hends
  obtain ⟨hzero, hone⟩ := Prod.mk.inj hpoints
  obtain ⟨hdisk, hsigned⟩ := keys_agree_of_fresh_renames longMac
    (fun key message => by simp [longMac]) (by decide +kernel) hrun
  exact ⟨final, hrun, hzero, hone, hdisk 0 firstKey hzero,
    (hsigned 0 1 firstKey firstKey hzero hone).2⟩

/-- Two calls that race answer with two keys, and the second does not accept
what the first has signed. -/
theorem racing_calls_disagree : (runFrom keyCallStep .empty racingRun).map
      (fun final => (final.points 0, final.points 1, final.keyFile)) =
        some (.finished (some firstKey), .finished (some secondKey), some secondKey) ∧
    hmacVerify longMac secondKey "approve:stop:100-1"
      (hmacSign longMac firstKey "approve:stop:100-1") = false := by decide +kernel

end HitlKeyWitness

end Proxxx
