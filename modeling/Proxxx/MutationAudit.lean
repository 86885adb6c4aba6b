/-
The audit record of a mutation, in two phases: an entry before the request
leaves the process, which must be stored for the request to leave, and an entry
with the outcome.  Both go through the process's cached logger, which is opened
again when the key or the database has been replaced on disk.
-/
import Proxxx.AuditKeys
import Proxxx.RustStr

namespace Proxxx

open RustStr

/-- The node and the guest id in an API path; of several, the last. -/
def parsePvePath (path : String) : Option String × Option UInt32 :=
  let clean := (RustStr.split path '?').headD path
  let segments := (RustStr.split clean '/').filter (!·.isEmpty)
  (segments.zip segments.tail).foldl (fun (node, vmid) pair =>
      let guestId :=
        ((RustStr.parseUnsigned (2 ^ 32) pair.2).map UInt32.ofNat).or vmid
      match pair.1 with
      | "nodes" => (some pair.2, vmid)
      | "qemu" => (node, guestId)
      | "lxc" => (node, guestId)
      | _ => (node, vmid))
    (none, none)

def secretKeySubstrings : List String :=
  ["password", "secret", "token", "ticket", "key", "cookie"]

def isSecretKey (key : String) : Bool :=
  let lower := key.map Char.toLower
  if lower == "tokenid" || lower == "token_id" then false
  else secretKeySubstrings.any (RustStr.contains lower)

/-- The text functions the records are made with: masking credentials in free
text, and writing a JSON object of strings. -/
structure AuditTexts where
  scrubSecrets : String → String
  renderObject : List (String × String) → String

def redactParamValue (texts : AuditTexts) (key value : String) : String :=
  if isSecretKey key then "[REDACTED]" else texts.scrubSecrets value

/-- Insert into a map: a value under the same key is replaced. -/
def insertParam (map : List (String × String)) (key value : String) : List (String × String) :=
  if map.any (·.1 == key) then
    map.map fun entry => if entry.1 == key then (key, value) else entry
  else map ++ [(key, value)]

def redactParamsJson (texts : AuditTexts) (params : List (String × String))
    (profileLabel : String) : String :=
  texts.renderObject (params.foldl (fun map (key, value) =>
      insertParam map (if key == "profile" then "_form_profile" else key)
        (redactParamValue texts key value))
    [("profile", profileLabel)])

inductive AuditFault where
  | io (reason : String)
  | key (e : KeyError)
  | integrity (failed : Nat)
deriving Repr, DecidableEq

/-- What the audit directory shows while one record is written. -/
structure AuditView where
  paths : Except String Unit
  keyDir : KeyDir
  dbExists : Bool
  openAt : Except AuditFault Key
  rows : Except String (List RawAuditRow)
  secs : Nat
  commit : RawAuditRow → Except String Unit

structure CachedLogger where
  key : Key
  initialFailCount : Nat
deriving Repr, DecidableEq

section Logging

variable (mac : Mac) (primary : String) (view : AuditView)

def openCachedLogger : Except AuditFault CachedLogger := do
  let key ← view.openAt
  let rows ← view.rows.mapError .io
  let initialFailCount := (verify mac (ringWith primary view.keyDir key) rows).2
  return { key, initialFailCount }

/-- The cached logger, unless the key or the database was replaced. -/
def cachedLogger (cache : Option CachedLogger) : Except AuditFault (Option CachedLogger) :=
  match cache with
  | none => return none
  | some cached => do
      let diskKey ← (loadExistingKey view.keyDir primary).mapError .key
      return if diskKey ≠ cached.key ∨ view.dbExists = false then none
        else some cached

/-- Use the cached logger; what the cache holds afterwards comes with it. -/
def withCachedLoggerAt {α : Type} (cache : Option CachedLogger)
    (use : CachedLogger → Except AuditFault α) : Except AuditFault α × Option CachedLogger :=
  match view.paths with
  | .error e => (.error (.io e), cache)
  | .ok () =>
    match cachedLogger primary view cache with
    | .error e => (.error e, none)
    | .ok (some cached) => (use cached, some cached)
    | .ok none =>
      match openCachedLogger mac primary view with
      | .error e => (.error e, none)
      | .ok opened => (use opened, some opened)

/-- Check the newest row against the tag before it. -/
def verifyTail (cached : CachedLogger) : Except AuditFault Unit := do
  let rows ← view.rows.mapError .io
  match rows.reverse with
  | [] => return
  | last :: rest =>
    let prev := (rest.head?.map (·.chainHmac)).getD ""
    match (ringWith primary view.keyDir cached.key).keyFor last.keyId with
    | none => throw (.integrity 1)
    | some key =>
      if verifyRawRow mac last prev key then return
      else throw (.integrity 1)

/-- Append one row and give it back once it is committed. -/
def appendEntry (cached : CachedLogger) (entry : LogEntry) : Except AuditFault RawAuditRow := do
  let rows ← view.rows.mapError .io
  let row := logRow mac cached.key view.secs entry (lastChainHmac rows)
  (view.commit row).mapError .io
  return row

def logMutationSent (cache : Option CachedLogger) (entry : LogEntry) :
    Except AuditFault RawAuditRow × Option CachedLogger :=
  withCachedLoggerAt mac primary view cache fun cached => do
    if cached.initialFailCount > 0 then
      throw (.integrity cached.initialFailCount)
    verifyTail mac primary view cached
    appendEntry mac view cached entry

def logMutationOutcome (cache : Option CachedLogger) (entry : LogEntry) :
    Except AuditFault RawAuditRow × Option CachedLogger :=
  withCachedLoggerAt mac primary view cache fun cached =>
    appendEntry mac view cached entry

end Logging

/-- What both records of a mutation have in common. -/
structure MutationAuditCtx where
  action : String
  user : String
  node : Option String
  vmid : Option UInt32
  paramsJson : String
deriving Repr, DecidableEq

def MutationAuditCtx.entry (ctx : MutationAuditCtx) (result : String) : LogEntry :=
  { action := ctx.action, user := ctx.user, vmid := ctx.vmid, node := ctx.node
    paramsJson := some ctx.paramsJson
    result }

/-- The guest id comes from the path, or else from a form field. -/
def mutationAuditCtx (texts : AuditTexts) (user method path : String)
    (params : List (String × String)) (profileLabel : String) : MutationAuditCtx :=
  let (node, vmid) := parsePvePath path
  let fromForm := (params.find? fun (key, _) =>
    RustStr.eqIgnoreAsciiCase key "vmid").bind fun (_, value) =>
      (RustStr.parseUnsigned (2 ^ 32) value).map UInt32.ofNat
  { action := method ++ " " ++ path
    user
    node
    vmid := vmid.or fromForm, paramsJson := redactParamsJson texts params profileLabel }

section Commits

variable {mac : Mac} {primary : String} {view : AuditView}
  {cache : Option CachedLogger} {entry : LogEntry} {row : RawAuditRow}

/-- The row is the entry's, and the database has taken it. -/
def Committed (mac : Mac) (view : AuditView) (entry : LogEntry) (row : RawAuditRow) : Prop :=
  view.commit row = .ok () ∧ ∃ key prev, row = logRow mac key view.secs entry prev

theorem withCachedLoggerAt_eq_ok {α : Type} {value : α} {use : CachedLogger → Except AuditFault α}
    (hok : (withCachedLoggerAt mac primary view cache use).1 = .ok value) :
    ∃ cached, use cached = .ok value := by
  revert hok
  fun_cases withCachedLoggerAt mac primary view cache use <;> intro hok
  any_goals cases hok
  next cached _ => exact ⟨cached, hok⟩
  next opened _ => exact ⟨opened, hok⟩

theorem appendEntry_eq_ok {cached : CachedLogger}
    (hok : appendEntry mac view cached entry = .ok row) :
    Committed mac view entry row := by
  obtain ⟨rows, -, hok⟩ := bind_eq_ok hok
  obtain ⟨_, hcommit, hrow⟩ := bind_eq_ok hok
  obtain rfl := Except.ok.inj hrow
  exact ⟨mapError_eq_ok.mp hcommit, _, _, rfl⟩

/-- A write-ahead record that succeeds is committed. -/
theorem logMutationSent_eq_ok (hok : (logMutationSent mac primary view cache entry).1 = .ok row) :
    Committed mac view entry row := by
  obtain ⟨cached, hcached⟩ := withCachedLoggerAt_eq_ok hok
  split at hcached
  · cases hcached
  · obtain ⟨_, -, happend⟩ := bind_eq_ok hcached
    exact appendEntry_eq_ok happend

end Commits

end Proxxx
