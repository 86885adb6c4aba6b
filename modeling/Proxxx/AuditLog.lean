/-
The audit log as a chain of tagged rows: how a row is written, how a log is
verified, and what the two agree on.  A verified log is exactly a chain in the
sense of `TagChain`, so everything that is later shown about tampering,
rotation and concurrent writers is shown about chains.
-/
import Mathlib
import Proxxx.AuditTime
import Proxxx.HexText
import Proxxx.SeparatedFields
import Proxxx.StepSystem
import Proxxx.TagChain

namespace Proxxx

open TagChain StepSystem List

abbrev Key := List UInt8

/-- The keyed hash behind the chain.  Nothing is assumed of it but that a tag
has at least one byte; `Mac.Ideal` and `Mac.KeySeparating` are hypotheses of
the results that need them. -/
structure Mac where
  tag : Key → String → List UInt8
  tag_ne_nil : ∀ key message, tag key message ≠ []

/-- Under one key, equal tags come from equal messages only. -/
def Mac.Ideal (mac : Mac) : Prop :=
  ∀ key message message', mac.tag key message = mac.tag key message' → message = message'

/-- Two different keys never agree on a tag. -/
def Mac.KeySeparating (mac : Mac) : Prop :=
  ∀ key key' message message', mac.tag key message = mac.tag key' message' → key = key'

def primaryKeyId : String := "primary"

def chainV2 : Int := 2

/-- One row of `audit_log` as `verify` reads it. -/
structure RawAuditRow where
  ts : String
  action : String
  user : String
  vmid : Option Int
  node : Option String
  paramsJson : Option String
  result : String
  chainHmac : String
  chainVersion : Int
  keyId : String
deriving Repr, DecidableEq

def v1Message (prev ts action vmid result : String) : String :=
  prev ++ "|" ++ ts ++ "|" ++ action ++ "|" ++ vmid ++ "|" ++ result

def v2Message (prev ts action user vmid node paramsJson result : String) : String :=
  String.join (["v2", prev, ts, action, user, vmid, node, paramsJson].map (· ++ "|")) ++ result

def computeHmac (mac : Mac) (key : Key) (prev ts action vmid result : String) : String :=
  HexText.encode (mac.tag key (v1Message prev ts action vmid result))

def computeHmacV2 (mac : Mac) (key : Key)
    (prev ts action user vmid node paramsJson result : String) : String :=
  HexText.encode (mac.tag key (v2Message prev ts action user vmid node paramsJson result))

/-- The decimal text of a stored guest id; no id is the empty text. -/
def vmidText (vmid : Option Int) : String :=
  (vmid.map toString).getD ""

/-- Recompute a row's tag under its own chain format. -/
def expectedHmac (mac : Mac) (row : RawAuditRow) (prev : String) (key : Key) : String :=
  if row.chainVersion = chainV2 then
    computeHmacV2 mac key prev row.ts row.action row.user (vmidText row.vmid)
      (row.node.getD "") (row.paramsJson.getD "") row.result
  else
    computeHmac mac key prev row.ts row.action (vmidText row.vmid) row.result

def verifyRawRow (mac : Mac) (row : RawAuditRow) (prev : String) (key : Key) : Bool :=
  expectedHmac mac row prev key == row.chainHmac

/-- The keys a logger verifies with: the primary it has loaded, and what
loading a retired key beside it gives. -/
structure KeyRing where
  primary : Key
  retired : String → Option Key

def KeyRing.keyFor (ring : KeyRing) (keyId : String) : Option Key :=
  if keyId = primaryKeyId then some ring.primary else ring.retired keyId

/-- The walk of `AuditLogger::verify`, counting good and failing rows.  A row
whose key is gone fails, and the chain goes on from its stored tag. -/
def verifyFrom (mac : Mac) (ring : KeyRing) : String → Nat → Nat → List RawAuditRow → Nat × Nat
  | _, ok, fail, [] => (ok, fail)
  | prev, ok, fail, row :: rest =>
    match ring.keyFor row.keyId with
    | none => verifyFrom mac ring row.chainHmac ok (fail + 1) rest
    | some key =>
      if verifyRawRow mac row prev key then
        verifyFrom mac ring row.chainHmac (ok + 1) fail rest
      else verifyFrom mac ring row.chainHmac ok (fail + 1) rest

def verify (mac : Mac) (ring : KeyRing) (rows : List RawAuditRow) : Nat × Nat :=
  verifyFrom mac ring "" 0 0 rows

/-- The arguments of one `log` call. -/
structure LogEntry where
  action : String
  user : String
  vmid : Option UInt32
  node : Option String
  paramsJson : Option String
  result : String
deriving Repr, DecidableEq

def lastChainHmac (rows : List RawAuditRow) : String :=
  lastTag RawAuditRow.chainHmac "" rows

/-- The row `log` inserts behind `prev`. -/
def logRow (mac : Mac) (key : Key) (secs : Nat) (entry : LogEntry) (prev : String) : RawAuditRow :=
  let ts := chronoNow secs
  let vmidStr := (entry.vmid.map fun v => toString v.toNat).getD ""
  { ts
    action := entry.action
    user := entry.user
    vmid := entry.vmid.map fun v => (v.toNat : Int)
    node := entry.node
    paramsJson := entry.paramsJson
    result := entry.result
    chainHmac := computeHmacV2 mac key prev ts entry.action entry.user vmidStr
      (entry.node.getD "") (entry.paramsJson.getD "") entry.result
    chainVersion := chainV2
    keyId := primaryKeyId }

/-- Append one entry: read the newest tag and insert the row, in one
transaction. -/
def log (mac : Mac) (key : Key) (secs : Nat) (entry : LogEntry)
    (rows : List RawAuditRow) : List RawAuditRow :=
  rows ++ [logRow mac key secs entry (lastChainHmac rows)]

/-- The relabelling `UPDATE` of a rotation. -/
def relabelRow (keyId : String) (row : RawAuditRow) : RawAuditRow :=
  if row.keyId = primaryKeyId then { row with keyId } else row

def relabel (keyId : String) (rows : List RawAuditRow) : List RawAuditRow :=
  rows.map (relabelRow keyId)

def retiredKeyId (secs : Nat) : String := "retired-" ++ toString secs

section Messages

theorem toList_v1Message (prev ts action vmid result : String) :
    (v1Message prev ts action vmid result).toList =
      ['|'].intercalate ([prev, ts, action, vmid, result].map String.toList) := by
  simp [v1Message, intercalate_cons_cons]

theorem toList_v2Message (prev ts action user vmid node paramsJson result : String) :
    (v2Message prev ts action user vmid node paramsJson result).toList =
      ['|'].intercalate (["v2", prev, ts, action, user, vmid, node, paramsJson,
        result].map String.toList) := by
  simp [v2Message, intercalate_cons_cons]

theorem vmidText_toNat (vmid : Option UInt32) : vmidText (vmid.map fun v => (v.toNat : Int)) =
    (vmid.map fun v => toString v.toNat).getD "" := by
  cases vmid <;> rfl

theorem vmidText_injective : Function.Injective vmidText := by
  have hsome : ∀ v : Int, toString v ≠ "" := by
    intro v
    rw [Int.toString_eq_repr, Int.repr_eq_if]
    split <;> simp
  intro left right heq
  cases left with
  | none =>
    cases right with
    | none => rfl
    | some v => exact absurd heq.symm (hsome v)
  | some v =>
    cases right with
    | none => exact absurd heq (hsome v)
    | some w => exact congrArg some (Int.repr_injective heq)

theorem bar_notMem_vmidText (vmid : Option Int) : '|' ∉ (vmidText vmid).toList := by
  have hnat : ∀ n : Nat, '|' ∉ n.repr.toList := by
    intro n hmem
    rw [Nat.toList_repr] at hmem
    exact absurd (Nat.isDigit_of_mem_toDigits (by decide) (by decide) hmem) (by decide)
  cases vmid with
  | none => simp [vmidText]
  | some v =>
    simp only [vmidText, Option.map_some, Option.getD_some, Int.toString_eq_repr, Int.repr_eq_if]
    split <;> simp [hnat, -Nat.toList_repr]

theorem bar_notMem_chronoNow (secs : Nat) : '|' ∉ (chronoNow secs).toList := by
  intro hmem
  rcases mem_chronoNow hmem with hdigit | hmark
  · exact absurd hdigit (by decide)
  · exact absurd hmark (by decide)

end Messages

section Verification

variable {mac : Mac} {ring : KeyRing} {rows : List RawAuditRow}

/-- The row verifies behind `prev` with the key its label stands for. -/
def RowVerifies (mac : Mac) (ring : KeyRing) (prev : String) (row : RawAuditRow) : Prop :=
  ∃ key, ring.keyFor row.keyId = some key ∧ expectedHmac mac row prev key = row.chainHmac

/-- Every row of the log verifies behind its predecessor's stored tag. -/
def Verifies (mac : Mac) (ring : KeyRing) (rows : List RawAuditRow) : Prop :=
  Chained RawAuditRow.chainHmac (RowVerifies mac ring) "" rows

theorem le_verifyFrom_fail (mac : Mac) (ring : KeyRing)
    (rows : List RawAuditRow) (prev : String) (ok fail : Nat) :
    fail ≤ (verifyFrom mac ring prev ok fail rows).2 := by
  induction rows generalizing prev ok fail with
  | nil => exact Nat.le_refl fail
  | cons row rest ih =>
    simp only [verifyFrom]
    split
    · exact Nat.le_of_succ_le (ih _ ok (fail + 1))
    · split
      · exact ih _ (ok + 1) fail
      · exact Nat.le_of_succ_le (ih _ ok (fail + 1))

theorem verifyFrom_fail_eq_iff (prev : String) (ok fail : Nat) :
    (verifyFrom mac ring prev ok fail rows).2 = fail ↔
      Chained RawAuditRow.chainHmac (RowVerifies mac ring) prev rows := by
  induction rows generalizing prev ok fail with
  | nil => simp [verifyFrom, Chained]
  | cons row rest ih =>
    have hbad : (verifyFrom mac ring row.chainHmac ok (fail + 1) rest).2 ≠ fail := by
      have hle := le_verifyFrom_fail mac ring rest row.chainHmac ok (fail + 1)
      omega
    simp only [verifyFrom, Chained, RowVerifies]
    split
    next hkey => simp [hkey, hbad]
    next key hkey =>
      by_cases hrow : expectedHmac mac row prev key = row.chainHmac
      · simp [verifyRawRow, hkey, hrow, ih]
      · simp [verifyRawRow, hkey, hrow, hbad]

/-- No failing row, exactly if the log is a chain of verifying rows. -/
theorem verify_fail_eq_zero_iff : (verify mac ring rows).2 = 0 ↔ Verifies mac ring rows :=
  verifyFrom_fail_eq_iff "" 0 0

/-- A text of lowercase hexadecimal digits. -/
def IsHexText (text : String) : Prop :=
  ∀ c ∈ text.toList, c ∈ "0123456789abcdef".toList

theorem expectedHmac_eq_encode (mac : Mac) (row : RawAuditRow) (prev : String) (key : Key) :
    ∃ message, expectedHmac mac row prev key = HexText.encode (mac.tag key message) := by
  unfold expectedHmac
  split <;> exact ⟨_, rfl⟩

variable {row : RawAuditRow} {prev : String}

theorem RowVerifies.tag_isHexText
    (hrow : RowVerifies mac ring prev row) : IsHexText row.chainHmac := by
  obtain ⟨key, -, hexpected⟩ := hrow
  obtain ⟨message, hencode⟩ := expectedHmac_eq_encode mac row prev key
  rw [← hexpected, hencode]
  exact fun c hc => HexText.mem_encode hc

theorem RowVerifies.tag_ne_empty (hrow : RowVerifies mac ring prev row) : row.chainHmac ≠ "" := by
  obtain ⟨key, -, hexpected⟩ := hrow
  obtain ⟨message, hencode⟩ := expectedHmac_eq_encode mac row prev key
  rw [← hexpected, hencode]
  exact HexText.encode_ne_empty (mac.tag_ne_nil key message)

theorem expectedHmac_logRow (key : Key) (secs : Nat) (entry : LogEntry) (prev : String) :
    expectedHmac mac (logRow mac key secs entry prev) prev key =
      (logRow mac key secs entry prev).chainHmac := by
  simp [expectedHmac, logRow, vmidText_toNat, -Nat.toString_eq_repr]

theorem expectedHmac_relabelRow (keyId : String) (row : RawAuditRow) (prev : String) (key : Key) :
    expectedHmac mac (relabelRow keyId row) prev key = expectedHmac mac row prev key := by
  unfold relabelRow
  split <;> rfl

@[simp] theorem relabelRow_chainHmac (keyId : String) (row : RawAuditRow) :
    (relabelRow keyId row).chainHmac = row.chainHmac := by
  unfold relabelRow
  split <;> rfl

variable {ring' : KeyRing}

/-- Verification depends on the keys of the labels in use only. -/
theorem Verifies.congr_keys (hrows : Verifies mac ring rows)
    (hkeys : ∀ row ∈ rows, ring'.keyFor row.keyId = ring.keyFor row.keyId) :
    Verifies mac ring' rows := by
  apply Chained.imp hrows
  rintro row hrow prev ⟨key, hkey, hexpected⟩
  exact ⟨key, (hkeys row hrow).trans hkey, hexpected⟩

theorem expectedHmac_key_inj (hseparating : mac.KeySeparating) {key key' : Key}
    (heq : expectedHmac mac row prev key = expectedHmac mac row prev key') :
    key = key' := by
  obtain ⟨message, hmessage⟩ := expectedHmac_eq_encode mac row prev key
  obtain ⟨message', hmessage'⟩ := expectedHmac_eq_encode mac row prev key'
  rw [hmessage, hmessage'] at heq
  exact hseparating _ _ _ _ (HexText.encode_injective heq)

/-- If the label of a verifying row changes its key, the log stops
verifying. -/
theorem Verifies.keyFor_unique (hseparating : mac.KeySeparating) (hrows : Verifies mac ring rows)
    (hrows' : Verifies mac ring' rows) :
    ∀ row ∈ rows, ring'.keyFor row.keyId = ring.keyFor row.keyId := by
  refine Chained.forall_mem (Chained.and hrows hrows') ?_
  rintro prev row ⟨⟨key, hkey, hexpected⟩, ⟨key', hkey', hexpected'⟩⟩
  rw [hkey, hkey', expectedHmac_key_inj hseparating (hexpected'.trans hexpected.symm)]

/-- Appending with the primary key keeps a verifying log verifying. -/
theorem Verifies.log (hrows : Verifies mac ring rows) (secs : Nat) (entry : LogEntry) :
    Verifies mac ring (Proxxx.log mac ring.primary secs entry rows) := by
  refine chained_concat.mpr ⟨hrows, ring.primary, ?_, ?_⟩
  · simp [KeyRing.keyFor, logRow]
  · exact expectedHmac_logRow ring.primary secs entry (lastChainHmac rows)

/-- Relabelling keeps a verifying log verifying if the new label stands for the
old primary and the labels already in use keep their keys. -/
theorem Verifies.relabel (hrows : Verifies mac ring rows) {keyId : String} (hkeyId : keyId ≠ primaryKeyId)
    (hold : ring'.retired keyId = some ring.primary)
    (hkeep : ∀ row ∈ rows, row.keyId ≠ primaryKeyId →
      ring'.retired row.keyId = ring.retired row.keyId) :
    Verifies mac ring' (Proxxx.relabel keyId rows) := by
  refine Chained.map hrows (fun row _ => relabelRow_chainHmac keyId row) ?_
  rintro row hrow prev ⟨key, hkey, hexpected⟩
  refine ⟨key, ?_, ?_⟩
  · by_cases hlabel : row.keyId = primaryKeyId
    · simp only [KeyRing.keyFor, hlabel, ↓reduceIte] at hkey
      simp [relabelRow, hlabel, KeyRing.keyFor, hkeyId, hold, hkey]
    · simp only [KeyRing.keyFor, hlabel, ↓reduceIte] at hkey
      simp [relabelRow, hlabel, KeyRing.keyFor, hkeep row hrow hlabel, hkey]
  · rw [expectedHmac_relabelRow, relabelRow_chainHmac, hexpected]

end Verification

section History

variable {mac : Mac}

/-- A log together with the keys it verifies with. -/
structure LogState where
  rows : List RawAuditRow
  ring : KeyRing

/-- Archive the primary under `keyId` and go on with `newKey`. -/
def KeyRing.rotate (ring : KeyRing) (keyId : String) (newKey : Key) : KeyRing :=
  { primary := newKey, retired := fun label =>
      if label = keyId then some ring.primary else ring.retired label }

/-- What the log is for: entries are appended under the primary key, and now
and then the key is rotated, under an id that was not used before. -/
inductive LogEvent where
  | append (secs : Nat) (entry : LogEntry)
  | rotate (secs : Nat) (newKey : Key)

def LogState.step (mac : Mac) (state : LogState) : LogEvent → Option LogState
  | .append secs entry =>
    some { state with
      rows := log mac state.ring.primary secs entry state.rows }
  | .rotate secs newKey =>
    if (state.ring.retired (retiredKeyId secs)).isSome then none
    else some
      { rows := relabel (retiredKeyId secs) state.rows
        ring := state.ring.rotate (retiredKeyId secs) newKey }

def LogState.empty (key : Key) : LogState :=
  { rows := [], ring := { primary := key, retired := fun _ => none } }

/-- An honestly written log: it verifies, and every row is in the current
format with a timestamp the logger formatted. -/
structure LogState.Honest (mac : Mac) (state : LogState) : Prop where
  verifies : Verifies mac state.ring state.rows
  written : ∀ row ∈ state.rows, row.chainVersion = chainV2 ∧ '|' ∉ row.ts.toList

theorem retiredKeyId_ne_primaryKeyId (secs : Nat) : retiredKeyId secs ≠ primaryKeyId := by
  intro heq
  have hhead := congrArg (fun text => text.toList.head?) heq
  simp [retiredKeyId, primaryKeyId] at hhead

theorem RowVerifies.retired_isSome {ring : KeyRing} {prev : String}
    {row : RawAuditRow} (hrow : RowVerifies mac ring prev row)
    (hlabel : row.keyId ≠ primaryKeyId) :
    (ring.retired row.keyId).isSome := by
  obtain ⟨key, hkey, -⟩ := hrow
  simp only [KeyRing.keyFor, hlabel, ↓reduceIte] at hkey
  simp [hkey]

/-- Rotating under an unused id keeps a verifying log verifying. -/
theorem Verifies.rotate {ring : KeyRing} {rows : List RawAuditRow}
    (hrows : Verifies mac ring rows) {keyId : String}
    (hkeyId : keyId ≠ primaryKeyId) (hunused : ring.retired keyId = none)
    (newKey : Key) :
    Verifies mac (ring.rotate keyId newKey) (Proxxx.relabel keyId rows) := by
  apply hrows.relabel hkeyId
  · simp [KeyRing.rotate]
  · intro row hrow hlabel
    have hsome := Chained.forall_mem hrows
      (fun _ _ hverifies => hverifies.retired_isSome) row hrow hlabel
    have hother : row.keyId ≠ keyId := by
      rintro rfl
      simp [hunused] at hsome
    simp [KeyRing.rotate, hother]

theorem LogState.step_honest {state next : LogState} {event : LogEvent}
    (hstep : state.step mac event = some next) (hstate : state.Honest mac) :
    next.Honest mac := by
  cases event with
  | append secs entry =>
    cases hstep
    refine ⟨hstate.verifies.log secs entry, ?_⟩
    intro row hrow
    rcases mem_append.mp hrow with hold | hnew
    · exact hstate.written row hold
    · rw [mem_singleton.mp hnew]
      exact ⟨rfl, bar_notMem_chronoNow secs⟩
  | rotate secs newKey =>
    simp only [LogState.step, Option.ite_none_left_eq_some,
      Option.not_isSome_iff_eq_none, Option.some.injEq] at hstep
    obtain ⟨hunused, rfl⟩ := hstep
    refine ⟨hstate.verifies.rotate (retiredKeyId_ne_primaryKeyId secs) hunused newKey, ?_⟩
    intro row hrow
    obtain ⟨source, hsource, rfl⟩ := mem_map.mp hrow
    have hwritten := hstate.written source hsource
    unfold relabelRow
    split <;> exact hwritten

/-- Whatever is appended and however often the key is rotated, the log
verifies. -/
theorem LogState.run_honest {key : Key} {events : List LogEvent} {state : LogState}
    (hrun : runFrom (LogState.step mac) (LogState.empty key) events =
      some state) : state.Honest mac := by
  refine invariant_of_step LogState.step_honest ?_ hrun
  exact ⟨trivial, by simp [LogState.empty]⟩

end History

section Transcript

/-- Three bytes that determine a character. -/
def charBytes (c : Char) : List UInt8 :=
  [UInt8.ofNat (c.toNat / 65536), UInt8.ofNat (c.toNat / 256), UInt8.ofNat c.toNat]

def transcriptBytes (key : Key) (message : String) : List UInt8 :=
  key.flatMap (fun byte => [1, byte]) ++ 0 :: message.toList.flatMap charBytes

/-- A tag that spells out key and message: the smallest tag function with all
the properties a hash is idealised to have. -/
def transcriptMac : Mac where
  tag := transcriptBytes
  tag_ne_nil := by simp [transcriptBytes]

theorem charBytes_injective : Function.Injective charBytes := by
  intro c d heq
  have hc : c.toNat.isValidChar := c.valid
  have hd : d.toNat.isValidChar := d.valid
  simp only [Nat.isValidChar] at hc hd
  simp only [charBytes, List.cons.injEq, and_true] at heq
  obtain ⟨hhigh, hmiddle, hlow⟩ := heq
  have hhigh := congrArg UInt8.toNat hhigh
  have hmiddle := congrArg UInt8.toNat hmiddle
  have hlow := congrArg UInt8.toNat hlow
  simp only [UInt8.toNat_ofNat'] at hhigh hmiddle hlow
  apply Char.toNat_inj.mp
  omega

theorem flatMap_charBytes_injective : Function.Injective (List.flatMap charBytes) := by
  intro left right heq
  induction left generalizing right with
  | nil =>
    cases right with
    | nil => rfl
    | cons d rest => simp [charBytes] at heq
  | cons c rest ih =>
    cases right with
    | nil => simp [charBytes] at heq
    | cons d rest' =>
      rw [flatMap_cons, flatMap_cons] at heq
      obtain ⟨hchar, hrest⟩ := append_inj heq rfl
      rw [charBytes_injective hchar, ih hrest]

theorem transcriptBytes_inj {key key' : Key} {message message' : String}
    (heq : transcriptBytes key message = transcriptBytes key' message') :
    key = key' ∧ message = message' := by
  induction key generalizing key' with
  | nil =>
    cases key' with
    | nil =>
      simp only [transcriptBytes, flatMap_nil, nil_append, List.cons.injEq, true_and] at heq
      exact ⟨rfl, String.toList_inj.mp (flatMap_charBytes_injective heq)⟩
    | cons byte rest => simp [transcriptBytes] at heq
  | cons byte rest ih =>
    cases key' with
    | nil => simp [transcriptBytes] at heq
    | cons byte' rest' =>
      simp only [transcriptBytes, flatMap_cons, cons_append,
        nil_append, List.cons.injEq, true_and] at heq
      obtain ⟨rfl, rfl⟩ := ih heq.2
      exact ⟨by rw [heq.1], rfl⟩

theorem transcriptMac_ideal : transcriptMac.Ideal := fun _ _ _ heq => (transcriptBytes_inj heq).2

theorem transcriptMac_keySeparating : transcriptMac.KeySeparating :=
  fun _ _ _ _ heq => (transcriptBytes_inj heq).1

end Transcript

end Proxxx
