/-
The check of a server's key when a session is set up.  Under the policy that
trusts on first use, a host is pinned to the first key it was accepted with:
over every later connection and reload, no other key is accepted for it.
-/
import Proxxx.KnownHosts

namespace Proxxx

open RustStr List

inductive HostKeyPolicy where
  | tofu
  | strict
  | off
deriving Repr, DecidableEq

inductive HostKeyDecision where
  | accept (remember : Bool)
  | reject
deriving Repr, DecidableEq

/-- The verifier without a prompt. -/
def HostKeyPolicy.verify : HostKeyPolicy → HostMatch → HostKeyDecision
  | .off, _ => .accept false
  | .strict, .matched => .accept false
  | .strict, _ => .reject
  | .tofu, .matched => .accept false
  | .tofu, .unknown => .accept true
  | .tofu, .mismatch => .reject

/-- A connection: the endpoint, the key its server presents, if it can be
written down, and how persisting the key would end. -/
structure Connection where
  endpoint : Endpoint
  keyType : String
  keyBytes : Except String (List UInt8)
  outcome : AppendOutcome

/-- The key of a connection that is worth comparing. -/
def Connection.key (connection : Connection) : Option HostKey :=
  match connection.keyBytes with
  | .error _ => none
  | .ok [] => none
  | .ok keyBlob => some { keyType := connection.keyType, keyBlob }

/-- Whether the connection goes on, and the store behind it. -/
def verifyServerKeyBytes (sha : Sha256) (policy : HostKeyPolicy)
    (store : KnownHosts) (connection : Connection) : Bool × KnownHosts :=
  match connection.key with
  | none => (false, store)
  | some key =>
    let endpoint := connection.endpoint
    match policy.verify (store.check endpoint key) with
    | .reject => (false, store)
    | .accept false => (true, store)
    -- A key that could not be persisted is reported, and accepted.
    | .accept true => (true, (store.trust sha endpoint key connection.outcome).2)

inductive SessionEvent where
  | connect (connection : Connection)
  | reload

def SessionEvent.apply (sha : Sha256) (policy : HostKeyPolicy)
    (store : KnownHosts) : SessionEvent → KnownHosts
  | .connect connection =>
    (verifyServerKeyBytes sha policy store connection).2
  | .reload => .load store.file

section Pinned

variable {sha : Sha256} {store : KnownHosts} {endpoints : Set Endpoint}
variable {calls : List (Endpoint × HostKey)} {connection : Connection}

/-- A connection to one of the endpoints, whose key is written down and read
back. -/
structure Connection.Sound (endpoints : Set Endpoint) (connection : Connection) : Prop where
  endpoint : connection.endpoint ∈ endpoints
  outcome : connection.outcome = .written
  line : ∀ key, connection.key = some key → KeptLine (connection.endpoint, key)

/-- The store has the calls, which were on the endpoints. -/
structure Holds (sha : Sha256) (endpoints : Set Endpoint)
    (calls : List (Endpoint × HostKey)) (store : KnownHosts) : Prop where
  recorded : Recorded sha calls store
  line : ∀ call ∈ calls, KeptLine call
  endpoint : ∀ call ∈ calls, call.1 ∈ endpoints

section Distinct

variable (hdistinct : ∀ one ∈ endpoints, ∀ two ∈ endpoints, ¬one.Spells two)
include hdistinct

theorem Holds.check (hstore : Holds sha endpoints calls store)
    {endpoint : Endpoint} (hendpoint : endpoint ∈ endpoints) (key : HostKey) :
    store.check endpoint key = exactAnswer (calls.reverse.lookup endpoint) key := by
  apply hstore.recorded.check
  intro call hcall hword
  have hin := hstore.endpoint call hcall
  rcases hostId_eq_iff.mp hword with heq | hspells | hspells
  · exact heq
  · exact absurd hspells (hdistinct endpoint hendpoint call.1 hin)
  · exact absurd hspells (hdistinct call.1 hin endpoint hendpoint)

/-- One connection under trust on first use: the store is as before, and an
accepted key is the last one trusted; or the endpoint had none, and its key is
recorded. -/
theorem Holds.connect (hstore : Holds sha endpoints calls store)
    (hsound : connection.Sound endpoints) :
    let outcome := verifyServerKeyBytes sha .tofu store connection
    (outcome.2 = store ∧ (outcome.1 = true →
      calls.reverse.lookup connection.endpoint = connection.key)) ∨
    (calls.reverse.lookup connection.endpoint = none ∧ ∃ key, connection.key = some key ∧
        Holds sha endpoints (calls ++ [(connection.endpoint, key)]) outcome.2) := by
  intro outcome
  dsimp only [outcome]
  unfold verifyServerKeyBytes
  cases hkey : connection.key with
  | none => exact .inl ⟨rfl, nofun⟩
  | some key =>
    dsimp only
    rw [hstore.check hdistinct hsound.endpoint]
    cases hlast : calls.reverse.lookup connection.endpoint with
    | none =>
      refine .inr ⟨rfl, key, rfl, ?_⟩
      rw [hsound.outcome]
      exact {
        recorded := hstore.recorded.trust connection.endpoint key
        line := forall_mem_append.mpr ⟨hstore.line, by simpa using hsound.line key hkey⟩
        endpoint := forall_mem_append.mpr ⟨hstore.endpoint, by simpa using hsound.endpoint⟩ }
    | some known =>
      left
      by_cases hsame : known = key <;> simp [exactAnswer, hsame, HostKeyPolicy.verify]

/-- A session's events are sound connections, and reloads. -/
def SoundRun (endpoints : Set Endpoint) (events : List SessionEvent) : Prop :=
  ∀ connection, .connect connection ∈ events → connection.Sound endpoints

/-- Over a run of connections and reloads the calls only grow, and what was
trusted last for an endpoint stays so. -/
theorem Holds.foldl {events : List SessionEvent} (hstore : Holds sha endpoints calls store)
    (hevents : SoundRun endpoints events) :
    ∃ later, Holds sha endpoints later (events.foldl (SessionEvent.apply sha .tofu) store) ∧
      ∀ endpoint key, calls.reverse.lookup endpoint = some key →
        later.reverse.lookup endpoint = some key := by
  induction events generalizing calls store with
  | nil => exact ⟨calls, hstore, fun _ _ hlast => hlast⟩
  | cons event rest ih =>
    have hrest : SoundRun endpoints rest := fun connection hmem =>
      hevents connection (mem_cons_of_mem event hmem)
    cases event with
    | reload =>
      exact ih ⟨hstore.recorded.reload hstore.line, hstore.line, hstore.endpoint⟩ hrest
    | connect connection =>
      have hsound := hevents connection mem_cons_self
      rcases hstore.connect hdistinct hsound with
        ⟨hsame, -⟩ | ⟨hnone, key, -, hnext⟩
      · rw [foldl_cons, SessionEvent.apply, hsame]
        exact ih hstore hrest
      · obtain ⟨later, hlater, hkeeps⟩ := ih hnext hrest
        refine ⟨later, hlater, fun endpoint known hlast => ?_⟩
        apply hkeeps
        have hother : endpoint ≠ connection.endpoint := by
          rintro rfl
          rw [hnone] at hlast
          cases hlast
        rw [reverse_append, reverse_singleton, singleton_append, List.lookup_cons,
          beq_false_of_ne hother]
        exact hlast

/-- A server that was accepted once is accepted later with the same key
only. -/
theorem tofu_accepts_one_key {before between : List SessionEvent} {first second : Connection}
    (hbefore : SoundRun endpoints before)
    (hbetween : SoundRun endpoints between)
    (hfirst : first.Sound endpoints) (hsecond : second.Sound endpoints)
    (hsame : first.endpoint = second.endpoint) :
    let start := before.foldl (SessionEvent.apply sha .tofu) (.load none)
    let trusting := verifyServerKeyBytes sha .tofu start first
    let store := between.foldl (SessionEvent.apply sha .tofu) trusting.2
    trusting.1 = true →
    (verifyServerKeyBytes sha .tofu store second).1 = true →
    first.key = second.key := by
  intro start trusting store haccepted hagain
  have hempty : Holds sha endpoints [] (.load none) := ⟨recorded_load_none sha, by simp, by simp⟩
  obtain ⟨calls, hstart, -⟩ := hempty.foldl hdistinct hbefore
  -- Behind the first connection its key is the last one trusted.
  have hpinned : ∃ calls key, Holds sha endpoints calls trusting.2 ∧ first.key = some key ∧
      calls.reverse.lookup first.endpoint = some key := by
    rcases hstart.connect hdistinct hfirst with
      ⟨hstore, hlast⟩ | ⟨-, key, hkey, hnext⟩
    · cases hkey : first.key with
      | none => simp [trusting, verifyServerKeyBytes, hkey] at haccepted
      | some key =>
        refine ⟨calls, key, hstore ▸ hstart, rfl, ?_⟩
        rw [hlast haccepted, hkey]
    · exact ⟨_, key, hnext, hkey, by simp⟩
  obtain ⟨calls, key, hholds, hkey, hlast⟩ := hpinned
  obtain ⟨later, hlater, hkeeps⟩ := hholds.foldl hdistinct hbetween
  have hstays := hkeeps first.endpoint key hlast
  rw [hsame] at hstays
  rcases hlater.connect hdistinct hsecond with ⟨-, hkept⟩ | ⟨hnone, -⟩
  · rw [hkey, ← hstays]
    exact hkept hagain
  · rw [hstays] at hnone
    cases hnone

end Distinct

end Pinned

namespace HostKeyWitness

open KnownHostsWitness

def connection (keyBlob : List UInt8) : Connection where
  endpoint := bracketed
  keyType := "ssh-ed25519"
  keyBytes := .ok keyBlob
  outcome := .written

theorem connection_sound (keyBlob : List UInt8) : (connection keyBlob).Sound {bracketed} where
  endpoint := rfl
  outcome := rfl
  line := by
    intro known hknown
    have hkept : KeptLine (bracketed, key) :=
      ⟨by decide +kernel, by decide +kernel, by decide +kernel⟩
    cases keyBlob <;> cases hknown
    exact ⟨hkept.1, hkept.2.host, hkept.2.keyType⟩

theorem tofu_accepts_again :
    let trusting := verifyServerKeyBytes sha .tofu (.load none) (connection key.keyBlob)
    (verifyServerKeyBytes sha .tofu trusting.2 (connection [1, 2, 3, 4])).1 = true ∧
      (connection key.keyBlob).key = (connection [1, 2, 3, 4]).key := by
  refine ⟨by decide +kernel, @tofu_accepts_one_key sha {bracketed} ?_ [] [] _ _ (by simp [SoundRun])
    (by simp [SoundRun]) (connection_sound _) (connection_sound _) rfl (by decide +kernel)
    (by decide +kernel)⟩
  rintro one rfl two rfl hspells
  exact hspells.other hspells.port

end HostKeyWitness

end Proxxx
