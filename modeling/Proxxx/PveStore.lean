/-
The cluster's side of a state document: what PVE stores for each family, what
it does with the calls of the write side and what it answers to the exporter.
It is taken to overwrite the fields a body names, to clear those listed in
`delete` and to keep the rest; a field that is not set is not answered, and the
client reads the empty value in its place.
-/
import Proxxx.FieldStore
import Proxxx.GuestPreflight
import Proxxx.StateCalls
import Proxxx.StateExport

namespace Proxxx

open FieldStore List

abbrev StoredFields := Fields String String

section Fields

/-- The elements of a parameter that lists them with commas. -/
def listed (name : String) (params : Params) : List String :=
  (values name params).flatMap (RustStr.split · ',')

/-- What a body asks for.  The endpoints take the fields to be cleared as one
list with commas or as repeated keys. -/
def putRequest (params : Params) : Request String String where
  set := params.filter fun param => param.1 ≠ "delete"
  delete := listed "delete" params

def putFields (params : Params) (fields : StoredFields) : StoredFields :=
  (putRequest params).apply fields

def storedText (name : String) (fields : StoredFields) : String :=
  (values name fields).head?.getD ""

/-- Flags are stored as `0` and `1`. -/
def storedFlag (name : String) (fields : StoredFields) : Bool :=
  (values name fields).head?.any (· ≠ "0")

def storedNumber (name : String) (fields : StoredFields) : UInt32 :=
  (((values name fields).head?.bind (RustStr.parseUnsigned u32Limit)).map UInt32.ofNat).getD 0

variable {name key value : String} {params : Params} {fields : StoredFields}

/-- What a field holds behind a body. -/
theorem values_putFields (hname : name ≠ "delete") : values name (putFields params fields) =
    if values name params = [] ∧ name ∉ listed "delete" params then values name fields
    else values name params := by
  have hset : values name (putRequest params).set = values name params :=
    values_filter fun value => decide_eq_true hname
  rw [putFields, values_apply, hset]
  rfl

@[simp]
theorem values_pushOptional : values name (pushOptional key value) =
    if key = name ∧ value ≠ "" then [value] else [] := by
  unfold pushOptional
  by_cases hvalue : value = "" <;> simp [hvalue]

@[simp]
theorem values_deleteEach {names : List String} :
    values name (deleteEach names) = if "delete" = name then names else [] :=
  values_map_pair

theorem storedText_putFields (hname : name ≠ "delete") : storedText name (putFields params fields) =
    if values name params = [] ∧ name ∉ listed "delete" params then storedText name fields
    else (values name params).head?.getD "" := by
  rw [storedText, values_putFields hname]
  split <;> rfl

/-- A field that a body does not mention. -/
theorem values_kept (hparams : values name params = []) (hlisted : name ∉ listed "delete" params)
    (hname : name ≠ "delete" := by simp) :
    values name (putFields params fields) = values name fields := by
  rw [values_putFields hname, if_pos ⟨hparams, hlisted⟩]

/-- A field that a body sets, or clears if the value is empty, under a
condition. -/
theorem storedText_when {condition : Prop} [Decidable condition]
    (hparams : values name params = if condition ∧ value ≠ "" then [value] else [])
    (hlisted : name ∈ listed "delete" params ↔ condition ∧ value = "")
    (hname : name ≠ "delete" := by simp) :
    storedText name (putFields params fields) =
      if condition then value else storedText name fields := by
  rw [storedText_putFields hname, hparams]
  by_cases hcondition : condition <;> by_cases hvalue : value = "" <;>
    simp [hcondition, hvalue, hlisted]

/-- A field that a body mentions only if its value is not empty. -/
theorem storedText_optional (hparams : values name params = if value = "" then [] else [value])
    (hlisted : name ∉ listed "delete" params)
    (hname : name ≠ "delete" := by simp) :
    storedText name (putFields params fields) =
      if value = "" then storedText name fields else value := by
  rw [storedText_putFields hname, hparams]
  by_cases hvalue : value = "" <;> simp [hvalue, hlisted]

/-- A field that a body sets, or clears if its value is empty. -/
theorem storedText_cleared (hparams : values name params = if value = "" then [] else [value])
    (hlisted : value = "" → name ∈ listed "delete" params)
    (hname : name ≠ "delete" := by simp) :
    storedText name (putFields params fields) = value := by
  rw [storedText_putFields hname, hparams]
  by_cases hvalue : value = ""
  · simp [hvalue, hlisted hvalue]
  · simp [hvalue]

theorem storedText_set (hparams : values name params = [value])
    (hname : name ≠ "delete" := by simp) :
    storedText name (putFields params fields) = value := by
  simp [storedText_putFields hname, hparams]

theorem storedFlag_set {flag : Bool} (hparams : values name params = [flagText flag])
    (hname : name ≠ "delete" := by simp) :
    storedFlag name (putFields params fields) = flag := by
  rw [storedFlag, values_putFields hname, hparams]
  cases flag <;> rfl

theorem values_set {list : List String} (hparams : values name params = list)
    (hlisted : list = [] → name ∈ listed "delete" params)
    (hname : name ≠ "delete" := by simp) :
    values name (putFields params fields) = list := by
  rw [values_putFields hname, hparams]
  by_cases hlist : list = []
  · simp [hlist, hlisted hlist]
  · simp [hlist]

/-- A number that a body sets, or clears if it is zero. -/
theorem storedNumber_cleared {number : Nat} (hnumber : number < u32Limit)
    (hparams : values name params = if number > 0 then [toString number] else [])
    (hlisted : number = 0 → name ∈ listed "delete" params)
    (hname : name ≠ "delete" := by simp) :
    (storedNumber name (putFields params fields)).toNat = number := by
  rw [storedNumber, values_putFields hname, hparams]
  by_cases hzero : number = 0
  · simp [hzero, hlisted hzero]
  · have hpositive : number > 0 := Nat.pos_of_ne_zero hzero
    have hword : number < UInt32.size := hnumber
    have hparse := RustStr.parseUnsigned_toString hnumber
    simp [hpositive, hparse, Nat.mod_eq_of_lt hword, -Nat.toString_eq_repr]

theorem listed_eq_nil (hparams : values name params = []) : listed name params = [] := by
  rw [listed, hparams]
  rfl

/-- Names without commas are listed one by one. -/
theorem listed_of_plain {names : List String} (hparams : values name params = names)
    (hplain : ∀ name ∈ names, ',' ∉ name.toList) :
    listed name params = names := by
  rw [listed, hparams]
  clear hparams
  induction names with
  | nil => rfl
  | cons head tail ih =>
    obtain ⟨hhead, htail⟩ := forall_mem_cons.mp hplain
    rw [flatMap_cons, ih htail, RustStr.split_of_not_mem hhead]
    rfl

end Fields

section Wire

/-- The records the client decodes, under the names it decodes their fields
from. -/
def readStorage (storage : String) (fields : StoredFields) : StorageDecl where
  storage := storage
  storageType := storedText "type" fields
  content := storedText "content" fields
  nodes := storedText "nodes" fields
  disable := storedFlag "disable" fields
  shared := storedFlag "shared" fields
  path := storedText "path" fields
  pool := storedText "pool" fields
  server := storedText "server" fields
  «export» := storedText "export" fields
  datastore := storedText "datastore" fields
  fingerprint := storedText "fingerprint" fields
  username := storedText "username" fields
  vgname := storedText "vgname" fields
  thinpool := storedText "thinpool" fields

def readBackupJob (id : String) (fields : StoredFields) : BackupJobDecl where
  id := id
  schedule := storedText "schedule" fields
  storage := storedText "storage" fields
  mode := storedText "mode" fields
  enabled := storedFlag "enabled" fields
  all := storedFlag "all" fields
  vmid := storedText "vmid" fields
  node := storedText "node" fields
  mailto := storedText "mailto" fields
  compress := storedText "compress" fields
  comment := storedText "comment" fields
  notesTemplate := storedText "notes-template" fields
  pruneBackups := storedText "prune-backups" fields

def readAlias (name : String) (fields : StoredFields) : FirewallAliasDecl where
  name := name
  cidr := storedText "cidr" fields
  comment := storedText "comment" fields

def readCidr (cidr : String) (fields : StoredFields) : FirewallIpsetCidrDecl where
  cidr := cidr
  comment := storedText "comment" fields
  «nomatch» := storedFlag "nomatch" fields

/-- The client decodes the inversion from a name with an underscore, the other
fields from the names PVE writes with a hyphen. -/
def readMatcher (name : String) (fields : StoredFields) : NotificationMatcherDecl where
  name := name
  comment := storedText "comment" fields
  target := values "target" fields
  matchField := values "match-field" fields
  matchSeverity := values "match-severity" fields
  mode := storedText "mode" fields
  invertMatch := storedFlag "invert_match" fields
  disable := storedFlag "disable" fields

def readHaResource (sid : String) (fields : StoredFields) : HaResource where
  sid := sid
  state := storedText "state" fields
  maxRestart := storedNumber "max_restart" fields
  maxRelocate := storedNumber "max_relocate" fields
  comment := storedText "comment" fields

def readHaRule (rule : String) (fields : StoredFields) : HaRule where
  rule := rule
  ruleType := storedText "type" fields
  resources := storedText "resources" fields
  comment := storedText "comment" fields
  disable := storedFlag "disable" fields
  nodes := storedText "nodes" fields
  strict := storedFlag "strict" fields
  affinity := storedText "affinity" fields

end Wire

/-- The members of a pool: guests by their ids and storages by their names. -/
structure StoredPool where
  comment : String
  guests : List UInt32
  storages : List String
deriving Repr, DecidableEq

/-- Members are added, or removed where `delete=1` is set. -/
def StoredPool.update (pool : StoredPool) (params : Params)
    (guests : List UInt32) (storages : List String) : StoredPool :=
  let comment := (values "comment" params).head?.getD pool.comment
  if (values "delete" params).head? = some "1" then
    { comment
      guests := pool.guests.filter (· ∉ guests)
      storages := pool.storages.filter (· ∉ storages) }
  else
    { comment
      guests := pool.guests ∪ guests
      storages := pool.storages ∪ storages }

structure StoredIpset where
  comment : String
  cidrs : Collection String StoredFields
deriving DecidableEq

/-- The stored configuration.  The names of storages are words without
commas. -/
structure PveStore where
  guests : Collection UInt32 GuestType
  pools : Collection String StoredPool
  storages : Collection String StoredFields
  backupJobs : Collection String StoredFields
  firewallAliases : Collection String StoredFields
  ipsets : Collection String StoredIpset
  matchers : Collection String StoredFields
  haResources : Collection String StoredFields
  haRules : Collection String StoredFields
  plainNames : ∀ name ∈ storages.objects.map Prod.fst, name ≠ "" ∧ ',' ∉ name.toList

namespace PveStore

section Calls

/-- Carry a body out on the object with the name. -/
def putObject (collection : Collection String StoredFields) (name : String)
    (params : Params) : Except String (Collection String StoredFields) :=
  match collection.get name with
  | none => .error ("no such object '" ++ name ++ "'")
  | some _ => .ok (collection.modify name (putFields params))

/-- The guest whose id is written so. -/
def guestWritten (store : PveStore) (text : String) : Except String UInt32 :=
  match store.guests.objects.find? fun guest => toString guest.1 = text with
  | some guest => .ok guest.1
  | none => .error ("no such guest '" ++ text ++ "'")

def storageWritten (store : PveStore) (text : String) : Except String String :=
  match store.storages.get text with
  | some _ => .ok text
  | none => .error ("no such storage '" ++ text ++ "'")

variable (store : PveStore)

def perform : WriteCall → Except String PveStore
  | .updatePool poolid params =>
    match store.pools.get poolid with
    | none => .error ("no such pool '" ++ poolid ++ "'")
    | some _ => do
        let guests ← (listed "vms" params).mapM store.guestWritten
        let storages ← (listed "storage" params).mapM store.storageWritten
        return { store with
          pools := store.pools.modify poolid (·.update params guests storages) }
  | .updateClusterStorage storage params =>
    match store.storages.get storage with
    | none => .error ("no such storage '" ++ storage ++ "'")
    | some _ =>
      .ok { store with
        storages := store.storages.modify storage (putFields params), plainNames := by
          rw [Collection.modify, Collection.names_modifyObjects]
          exact store.plainNames }
  | .updateBackupJob id params => do
      let backupJobs ← putObject store.backupJobs id params
      return { store with backupJobs }
  | .updateClusterFirewallAlias name params => do
      let firewallAliases ← putObject store.firewallAliases name params
      return { store with firewallAliases }
  | .createClusterFirewallIpset params =>
    let name := storedText "name" params
    match store.ipsets.get name with
    | some _ => .error ("IPSet '" ++ name ++ "' already exists")
    | none =>
      let ipset : StoredIpset :=
        { comment := storedText "comment" params, cidrs := .empty }
      .ok { store with ipsets := store.ipsets.insert name ipset }
  | .deleteClusterFirewallIpset name =>
    match store.ipsets.get name with
    | none => .error ("no such IPSet '" ++ name ++ "'")
    | some ipset =>
      if ipset.cidrs.objects.isEmpty then
        .ok { store with ipsets := store.ipsets.erase name }
      else .error ("IPSet '" ++ name ++ "' is not empty")
  | .addClusterFirewallIpsetCidr name params =>
    let cidr := storedText "cidr" params
    match store.ipsets.get name with
    | none => .error ("no such IPSet '" ++ name ++ "'")
    | some ipset =>
      match ipset.cidrs.get cidr with
      | some _ => .error ("address '" ++ cidr ++ "' already exists")
      | none =>
        .ok { store with
          ipsets := store.ipsets.modify name fun ipset =>
            { ipset with cidrs := ipset.cidrs.insert cidr params } }
  | .removeClusterFirewallIpsetCidr name cidr =>
    match store.ipsets.get name with
    | none => .error ("no such IPSet '" ++ name ++ "'")
    | some ipset =>
      match ipset.cidrs.get cidr with
      | none => .error ("no such address '" ++ cidr ++ "'")
      | some _ =>
        .ok { store with
          ipsets := store.ipsets.modify name fun ipset =>
            { ipset with cidrs := ipset.cidrs.erase cidr } }
  | .updateNotificationMatcher name params => do
      let matchers ← putObject store.matchers name params
      return { store with matchers }
  | .updateHaRule rule params => do
      let haRules ← putObject store.haRules rule params
      return { store with haRules }
  | .updateHaResource sid params => do
      let haResources ← putObject store.haResources sid params
      return { store with haResources }

/-- Calls one after the other, as long as they succeed. -/
def run (calls : List WriteCall) : Except String PveStore :=
  calls.foldlM perform store

variable {store} {next last : PveStore} {call : WriteCall}
variable {front back : List WriteCall}

theorem run_cons_eq_ok : store.run (call :: back) = .ok last ↔
    ∃ mid, store.perform call = .ok mid ∧ mid.run back = .ok last := by
  rw [run, foldlM_cons]
  cases store.perform call with
  | error text => simp [bind, Except.bind]
  | ok mid => simp [bind, Except.bind, run]

theorem run_append_eq_ok : store.run (front ++ back) = .ok last ↔
    ∃ mid, store.run front = .ok mid ∧ mid.run back = .ok last := by
  rw [run, foldlM_append, ← run]
  cases store.run front with
  | error text => simp [bind, Except.bind]
  | ok mid => simp [bind, Except.bind, run]
theorem run_singleton (hperform : store.perform call = .ok next) : store.run [call] = .ok next := by
  rw [run, foldlM_cons, hperform]
  rfl

end Calls

section Answers

variable (store : PveStore)

/-- The members of a pool that exist, as the cluster lists them. -/
def poolMembers (pool : StoredPool) : List PoolMember :=
  (pool.guests.filterMap fun vmid =>
    (store.guests.get vmid).map fun guestType =>
      { memberType := guestType.text, vmid := vmid, storage := "" }) ++
  pool.storages.filterMap fun name =>
    (store.storages.get name).map fun _ =>
      { memberType := "storage", vmid := 0, storage := name }

def listObjects {α β : Type} (read : String → α → β) (collection : Collection String α) : List β :=
  collection.objects.map fun object => read object.1 object.2

/-- What the exporter is answered; of the families that are not stored here it
is answered what another view says. -/
def view (other : StateReadView) : StateReadView :=
  { other with
    listPools := .ok (store.pools.objects.map Prod.fst), getPool := fun poolid =>
      match store.pools.get poolid with
      | none => .error ["no such pool"]
      | some pool =>
        .ok { comment := pool.comment, members := store.poolMembers pool }
    listClusterStorages := .ok (listObjects readStorage store.storages)
    listBackupJobs := .ok (listObjects readBackupJob store.backupJobs)
    listClusterFirewallAliases :=
      .ok (listObjects readAlias store.firewallAliases)
    listClusterFirewallIpsets :=
      .ok (listObjects (fun name ipset => { name, comment := ipset.comment }) store.ipsets)
    listClusterFirewallIpsetCidrs := fun name =>
      match store.ipsets.get name with
      | none => .error ["no such IPSet"]
      | some ipset => .ok (listObjects readCidr ipset.cidrs)
    listNotificationMatchers := .ok (listObjects readMatcher store.matchers)
    listHaResources := .ok (listObjects readHaResource store.haResources)
    listHaRules := .ok (listObjects readHaRule store.haRules) }

end Answers

section Exported

open KeyedDiff

variable {α β γ : Type} {read : String → α → β} {wireKey : β → String}
variable {key : γ → String} {project : β → γ}
variable {collection : Collection String α} {name : String}

theorem lookup_listObjects (hread : ∀ name object, wireKey (read name object) = name) :
    lookup wireKey name (listObjects read collection) = (collection.get name).map (read name) := by
  have hkeys : (listObjects read collection).map wireKey = collection.objects.map Prod.fst := by
    simp [listObjects, hread, Function.comp_def]
  cases hget : collection.get name with
  | none =>
    have hnone : ¬(lookup wireKey name (listObjects read collection)).isSome = true := by
      rw [lookup_isSome, hkeys]
      exact Collection.get_eq_none.mp hget
    simpa using hnone
  | some object =>
    have hmem : read name object ∈ listObjects read collection :=
      mem_map.mpr ⟨(name, object), Collection.get_eq_some.mp hget, rfl⟩
    have hdistinct : ((listObjects read collection).map wireKey).Nodup := by
      rw [hkeys]
      exact collection.distinct
    have hfound := lookup_of_mem hdistinct hmem
    rwa [hread] at hfound

/-- What an exporter that sorts the listed objects has under a name. -/
theorem lookup_sorted (hread : ∀ name object, wireKey (read name object) = name) :
    lookup wireKey name (sortBy wireKey (listObjects read collection)) =
      (collection.get name).map (read name) := by
  have hsorted : (sortBy wireKey (listObjects read collection)).Perm
      (listObjects read collection) := perm_insertionSort _ _
  have hnodup : ((sortBy wireKey (listObjects read collection)).map wireKey).Nodup := by
    rw [(hsorted.map wireKey).nodup_iff]
    simpa [listObjects, hread, Function.comp_def] using collection.distinct
  rw [lookup_eq_of_perm hsorted hnodup, lookup_listObjects hread]

/-- The same where the exporter projects each object. -/
theorem lookup_projected (hread : ∀ name object, wireKey (read name object) = name)
    (hproject : ∀ wire, key (project wire) = wireKey wire) :
    lookup key name ((sortBy wireKey (listObjects read collection)).map project) =
      (collection.get name).map fun object => project (read name object) := by
  rw [lookup_map]
  simp only [hproject]
  rw [lookup_sorted hread, Option.map_map]
  rfl

end Exported

end PveStore

end Proxxx
