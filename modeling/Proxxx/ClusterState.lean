/-
The declared slice of a cluster: one list of entries for each resource family,
and the firewall options.
-/
import Proxxx.RustStr
import Mathlib.Data.List.Sort
import Mathlib.Data.Prod.Lex
import Mathlib.Data.String.Basic

namespace Proxxx

open List RustStr

structure PoolDecl where
  poolid : String
  comment : String
  members : List String
deriving Repr, DecidableEq

structure AclDecl where
  path : String
  kind : String
  ugid : String
  roleid : String
  propagate : Bool
deriving Repr, DecidableEq

structure StorageDecl where
  storage : String
  storageType : String
  content : String
  nodes : String
  disable : Bool
  shared : Bool
  path : String
  pool : String
  server : String
  «export» : String
  datastore : String
  fingerprint : String
  username : String
  vgname : String
  thinpool : String
deriving Repr, DecidableEq

structure BackupJobDecl where
  id : String
  schedule : String
  storage : String
  mode : String
  enabled : Bool
  all : Bool
  vmid : String
  node : String
  mailto : String
  compress : String
  comment : String
  notesTemplate : String
  pruneBackups : String
deriving Repr, DecidableEq

structure FirewallOptionsDecl where
  enable : Option Bool
  policyIn : Option String
  policyOut : Option String
  policyForward : Option String
  ebtables : Option Bool
  logRatelimit : Option String
deriving Repr, DecidableEq

structure FirewallAliasDecl where
  name : String
  cidr : String
  comment : String
deriving Repr, DecidableEq

structure FirewallIpsetCidrDecl where
  cidr : String
  comment : String
  «nomatch» : Bool
deriving Repr, DecidableEq

structure FirewallIpsetDecl where
  name : String
  comment : String
  cidrs : List FirewallIpsetCidrDecl
deriving Repr, DecidableEq

structure FirewallGroupDecl where
  group : String
  comment : String
deriving Repr, DecidableEq

structure NotificationMatcherDecl where
  name : String
  comment : String
  target : List String
  matchField : List String
  matchSeverity : List String
  mode : String
  invertMatch : Bool
  disable : Bool
deriving Repr, DecidableEq

structure HaResourceDecl where
  sid : String
  state : String
  maxRestart : Nat
  maxRelocate : Nat
  failback : Bool
  autoRebalance : Bool
  comment : String
deriving Repr, DecidableEq

structure HaRuleDecl where
  rule : String
  ruleType : String
  resources : List String
  comment : String
  disable : Bool
  nodes : String
  strict : Bool
  affinity : String
deriving Repr, DecidableEq

structure MappingPciDecl where
  id : String
  description : String
  mdev : Bool
  map : List String
deriving Repr, DecidableEq

structure MappingUsbDecl where
  id : String
  description : String
  map : List String
deriving Repr, DecidableEq

/-- A state document, or the state of a cluster.  `declaredFamilies` holds the
sections a document mentioned; a state that was not read from a document has
none. -/
structure ClusterState where
  declaredFamilies : Option (List String) := none
  pools : List PoolDecl := []
  acl : List AclDecl := []
  storage : List StorageDecl := []
  backupJobs : List BackupJobDecl := []
  firewallOptions : Option FirewallOptionsDecl := none
  firewallAliases : List FirewallAliasDecl := []
  firewallIpsets : List FirewallIpsetDecl := []
  firewallGroups : List FirewallGroupDecl := []
  notificationMatchers : List NotificationMatcherDecl := []
  haResources : List HaResourceDecl := []
  haRules : List HaRuleDecl := []
  mappingsPci : List MappingPciDecl := []
  mappingsUsb : List MappingUsbDecl := []
deriving Repr, DecidableEq

/-- Whether a section is to be reconciled. -/
def ClusterState.manages (state : ClusterState) (family : String) : Bool :=
  match state.declaredFamilies with
  | none => true
  | some families => families.contains family

/-- Only the keys the declaration sets are compared. -/
def FirewallOptionsDecl.satisfiedBy (declared live : FirewallOptionsDecl) : Bool :=
  let ok {α : Type} [DecidableEq α] (declared live : Option α) : Bool :=
    declared.isNone || declared = live
  ok declared.enable live.enable && ok declared.policyIn live.policyIn &&
    ok declared.policyOut live.policyOut &&
    ok declared.policyForward live.policyForward &&
    ok declared.ebtables live.ebtables &&
    ok declared.logRatelimit live.logRatelimit

/-- The four parts that identify a grant, in the order they are compared. -/
abbrev AclKey := String ×ₗ String ×ₗ String ×ₗ String

def AclDecl.key (grant : AclDecl) : AclKey :=
  toLex (grant.path, toLex (grant.kind, toLex (grant.ugid, grant.roleid)))

/-- Refuse an identity that stands twice in one family. -/
def checkUnique {α : Type} (family : String) (key : α → String) :
    List String → List α → Except String Unit
  | _, [] => .ok ()
  | seen, item :: rest =>
    if key item ∈ seen then
      let k := key item
      .error (s!"`{family}` declares `{k}` more than once. " ++
        "Each entry in a family must have a distinct identity — a " ++
        "duplicate is silently discarded at diff time, so this is " ++
        "refused instead.")
    else checkUnique family key (key item :: seen) rest

def AclDecl.identityText (grant : AclDecl) : String :=
  grant.path ++ "|" ++ grant.kind ++ "|" ++ grant.ugid ++ "|" ++ grant.roleid

def ClusterState.validateUniqueIdentities (state : ClusterState) : Except String Unit := do
  checkUnique "pools" PoolDecl.poolid [] state.pools
  checkUnique "acl" AclDecl.identityText [] state.acl
  checkUnique "storage" StorageDecl.storage [] state.storage
  checkUnique "backup_jobs" BackupJobDecl.id [] state.backupJobs
  checkUnique "firewall_aliases" FirewallAliasDecl.name [] state.firewallAliases
  checkUnique "firewall_ipsets" FirewallIpsetDecl.name [] state.firewallIpsets
  checkUnique "firewall_groups" FirewallGroupDecl.group [] state.firewallGroups
  checkUnique "notification_matchers" NotificationMatcherDecl.name [] state.notificationMatchers
  checkUnique "ha_resources" HaResourceDecl.sid [] state.haResources
  checkUnique "ha_rules" HaRuleDecl.rule [] state.haRules
  checkUnique "mappings_pci" MappingPciDecl.id [] state.mappingsPci
  checkUnique "mappings_usb" MappingUsbDecl.id [] state.mappingsUsb

section Csv

/-- Sort the comma-separated tokens of a field, as the export does. -/
def normalizeCsv (text : String) : String :=
  if text = "" then ""
  else RustStr.join ((RustStr.split text ',').insertionSort (· ≤ ·)) ','

variable {text other : String}

theorem split_normalizeCsv : (RustStr.split (normalizeCsv text) ',').Perm
    (RustStr.split text ',') := by
  unfold normalizeCsv
  split
  next hempty => rw [hempty]
  next =>
    have hsorted := perm_insertionSort (· ≤ ·) (RustStr.split text ',')
    rw [split_join]
    · exact hsorted
    · intro part hpart
      exact not_mem_of_mem_split (hsorted.mem_iff.mp hpart)
    · intro hnil
      rw [hnil] at hsorted
      exact split_ne_nil text ',' hsorted.symm.eq_nil

/-- Only the empty field lists the empty token alone. -/
theorem eq_empty_of_split_perm (hperm : (RustStr.split text ',').Perm
    (RustStr.split "" ',')) : text = "" := by
  have hone : RustStr.split "" ',' = [""] := by
    simp [RustStr.split]
  have hsplit : RustStr.split text ',' = [""] := by
    rw [hone] at hperm
    exact perm_singleton.mp hperm
  rw [← join_split text ',', hsplit]
  simp [RustStr.join]

theorem insertionSort_eq_of_perm {tokens tokens' : List String} (hperm : tokens.Perm tokens') :
    tokens.insertionSort (· ≤ ·) = tokens'.insertionSort (· ≤ ·) := by
  apply List.Perm.eq_of_pairwise (fun _ _ _ _ => le_antisymm)
    (pairwise_insertionSort _ _) (pairwise_insertionSort _ _)
  exact (perm_insertionSort _ _).trans (hperm.trans (perm_insertionSort _ _).symm)

/-- Two fields have the same normal form exactly if they list the same
tokens. -/
theorem normalizeCsv_eq_iff : normalizeCsv text = normalizeCsv other ↔
    (RustStr.split text ',').Perm (RustStr.split other ',') := by
  constructor
  · intro heq
    exact split_normalizeCsv.symm.trans (heq ▸ split_normalizeCsv)
  · intro hperm
    unfold normalizeCsv
    by_cases htext : text = ""
    · subst htext
      rw [if_pos rfl, if_pos (eq_empty_of_split_perm hperm.symm)]
    · have hother : other ≠ "" := by
        rintro rfl
        exact htext (eq_empty_of_split_perm hperm)
      rw [if_neg htext, if_neg hother, insertionSort_eq_of_perm hperm]

end Csv

end Proxxx
