/-
The structural difference of two cluster states.  All list families are
compared by one keyed difference; the firewall options are a singleton with a
comparison of their own.
-/
import Proxxx.ClusterState
import Proxxx.KeyedDiff

namespace Proxxx

open KeyedDiff List

inductive ChangeKind where
  | create
  | update
  | delete
deriving Repr, DecidableEq

inductive Resource where
  | pool
  | acl
  | storage
  | backupJob
  | firewallOptions
  | firewallAlias
  | firewallIpset
  | firewallGroup
  | notificationMatcher
  | haResource
  | haRule
  | mappingPci
  | mappingUsb
deriving Repr, DecidableEq

def Resource.text : Resource → String
  | .pool => "pool"
  | .acl => "acl"
  | .storage => "storage"
  | .backupJob => "backup_job"
  | .firewallOptions => "firewall_options"
  | .firewallAlias => "firewall_alias"
  | .firewallIpset => "firewall_ipset"
  | .firewallGroup => "firewall_group"
  | .notificationMatcher => "notification_matcher"
  | .haResource => "ha_resource"
  | .haRule => "ha_rule"
  | .mappingPci => "mapping_pci"
  | .mappingUsb => "mapping_usb"

/-- The live and the declared value of a change, which are values of its
resource. -/
inductive Payload where
  | pool (before after : Option PoolDecl)
  | acl (before after : Option AclDecl)
  | storage (before after : Option StorageDecl)
  | backupJob (before after : Option BackupJobDecl)
  | firewallOptions (before after : Option FirewallOptionsDecl)
  | firewallAlias (before after : Option FirewallAliasDecl)
  | firewallIpset (before after : Option FirewallIpsetDecl)
  | firewallGroup (before after : Option FirewallGroupDecl)
  | notificationMatcher (before after : Option NotificationMatcherDecl)
  | haResource (before after : Option HaResourceDecl)
  | haRule (before after : Option HaRuleDecl)
  | mappingPci (before after : Option MappingPciDecl)
  | mappingUsb (before after : Option MappingUsbDecl)
deriving Repr, DecidableEq

def Payload.resource : Payload → Resource
  | .pool _ _ => .pool
  | .acl _ _ => .acl
  | .storage _ _ => .storage
  | .backupJob _ _ => .backupJob
  | .firewallOptions _ _ => .firewallOptions
  | .firewallAlias _ _ => .firewallAlias
  | .firewallIpset _ _ => .firewallIpset
  | .firewallGroup _ _ => .firewallGroup
  | .notificationMatcher _ _ => .notificationMatcher
  | .haResource _ _ => .haResource
  | .haRule _ _ => .haRule
  | .mappingPci _ _ => .mappingPci
  | .mappingUsb _ _ => .mappingUsb

structure Change where
  kind : ChangeKind
  identity : String
  payload : Payload
deriving Repr, DecidableEq

def Change.resource (change : Change) : Resource :=
  change.payload.resource

/-- A list family: its section of the document, how its entries are identified,
shown and compared (a live entry with a declared one), and where its values
stand in a change. -/
structure Family where
  Item : Type
  Key : Type
  [itemEq : DecidableEq Item]
  [order : LinearOrder Key]
  name : String
  resource : Resource
  items : ClusterState → List Item
  key : Item → Key
  display : Item → String
  same : Item → Item → Bool
  payload : Option Item → Option Item → Payload
  sides : Payload → Option (Option Item × Option Item)
  resource_payload : ∀ before after, (payload before after).resource = resource := by intros; rfl
  sides_payload : ∀ before after,
    sides (payload before after) = some (before, after) := by intros; rfl
  sides_other : ∀ other, other.resource ≠ resource → sides other = none := by
    intro other hother
    cases other <;> first | rfl | exact absurd rfl hother

instance (family : Family) : DecidableEq family.Item :=
  family.itemEq

instance (family : Family) : LinearOrder family.Key :=
  family.order

/-- How an edit of a family is written down as a change. -/
def Family.change (family : Family) : Edit family.Item → Change
  | .delete before =>
    { kind := .delete, identity := family.display before
      payload := family.payload (some before) none }
  | .update before after =>
    { kind := .update, identity := family.display after
      payload := family.payload (some before) (some after) }
  | .create after =>
    { kind := .create, identity := family.display after
      payload := family.payload none (some after) }

def Family.diff (family : Family) (declared live : List family.Item) : List Change :=
  (edits family.key family.same declared live).map family.change

/-- `content` and `nodes` are sets: the declared ones are sorted as the export
sorted the live ones. -/
def storageMatches (live declared : StorageDecl) : Bool :=
  live = { declared with
    content := normalizeCsv declared.content, nodes := normalizeCsv declared.nodes }

def AclDecl.display (grant : AclDecl) : String :=
  grant.path ++ " [" ++ grant.kind ++ "/" ++ grant.ugid ++ "] " ++ grant.roleid

namespace Family

/-- A family whose entries have a name and are compared as a whole. -/
def byName {Item : Type} [DecidableEq Item] (name : String)
    (resource : Resource) (items : ClusterState → List Item)
    (id : Item → String) (payload : Option Item → Option Item → Payload)
    (sides : Payload → Option (Option Item × Option Item)) (hresource : ∀ before after,
      (payload before after).resource = resource := by intros; rfl)
    (hsides : ∀ before after, sides (payload before after) = some (before, after) := by intros; rfl)
    (hother : ∀ other, other.resource ≠ resource → sides other = none := by
      intro other hother
      cases other <;> first | rfl | exact absurd rfl hother) : Family where
  Item := Item
  Key := String
  name := name
  resource := resource
  items := items
  key := id
  display := id
  same live declared := live = declared
  payload := payload
  sides := sides
  resource_payload := hresource
  sides_payload := hsides
  sides_other := hother

def pools : Family :=
  byName "pools" .pool ClusterState.pools PoolDecl.poolid .pool fun
    | .pool before after => some (before, after)
    | _ => none

def acl : Family where
  Item := AclDecl
  Key := AclKey
  name := "acl"
  resource := .acl
  items := ClusterState.acl
  key := AclDecl.key
  display := AclDecl.display
  same live declared := live = declared
  payload := .acl
  sides | .acl before after => some (before, after) | _ => none

def storage : Family where
  Item := StorageDecl
  Key := String
  name := "storage"
  resource := .storage
  items := ClusterState.storage
  key := StorageDecl.storage
  display := StorageDecl.storage
  same := storageMatches
  payload := .storage
  sides | .storage before after => some (before, after) | _ => none

def backupJobs : Family :=
  byName "backup_jobs" .backupJob ClusterState.backupJobs BackupJobDecl.id .backupJob fun
    | .backupJob before after => some (before, after)
    | _ => none

def firewallAliases : Family :=
  byName "firewall_aliases" .firewallAlias ClusterState.firewallAliases FirewallAliasDecl.name .firewallAlias fun
    | .firewallAlias before after => some (before, after)
    | _ => none

def firewallIpsets : Family :=
  byName "firewall_ipsets" .firewallIpset ClusterState.firewallIpsets FirewallIpsetDecl.name .firewallIpset fun
    | .firewallIpset before after => some (before, after)
    | _ => none

/-- Groups cannot be updated, so an existing one counts as the same. -/
def firewallGroups : Family where
  Item := FirewallGroupDecl
  Key := String
  name := "firewall_groups"
  resource := .firewallGroup
  items := ClusterState.firewallGroups
  key := FirewallGroupDecl.group
  display := FirewallGroupDecl.group
  same _ _ := true
  payload := .firewallGroup
  sides | .firewallGroup before after => some (before, after) | _ => none

def notificationMatchers : Family :=
  byName "notification_matchers" .notificationMatcher ClusterState.notificationMatchers NotificationMatcherDecl.name .notificationMatcher fun
    | .notificationMatcher before after => some (before, after)
    | _ => none

def haResources : Family :=
  byName "ha_resources" .haResource ClusterState.haResources HaResourceDecl.sid .haResource fun
    | .haResource before after => some (before, after)
    | _ => none

def haRules : Family :=
  byName "ha_rules" .haRule ClusterState.haRules HaRuleDecl.rule .haRule fun
    | .haRule before after => some (before, after)
    | _ => none

def mappingsPci : Family :=
  byName "mappings_pci" .mappingPci ClusterState.mappingsPci MappingPciDecl.id .mappingPci fun
    | .mappingPci before after => some (before, after)
    | _ => none

def mappingsUsb : Family :=
  byName "mappings_usb" .mappingUsb ClusterState.mappingsUsb MappingUsbDecl.id .mappingUsb fun
    | .mappingUsb before after => some (before, after)
    | _ => none

end Family

def diffPools (declared live : List PoolDecl) : List Change :=
  Family.pools.diff declared live

def diffAcl (declared live : List AclDecl) : List Change :=
  Family.acl.diff declared live

def diffStorage (declared live : List StorageDecl) : List Change :=
  Family.storage.diff declared live

def diffBackupJobs (declared live : List BackupJobDecl) : List Change :=
  Family.backupJobs.diff declared live

/-- The options are one object: declared ones are set, if the live ones do not
have them yet. -/
def diffFirewallOptions (declared live : Option FirewallOptionsDecl) : List Change :=
  match declared with
  | none => []
  | some options =>
    if live.any options.satisfiedBy then []
    else
      [{ kind := .update, identity := "cluster", payload := .firewallOptions live (some options) }]

def diffFirewallAliases (declared live : List FirewallAliasDecl) : List Change :=
  Family.firewallAliases.diff declared live

def diffFirewallIpsets (declared live : List FirewallIpsetDecl) : List Change :=
  Family.firewallIpsets.diff declared live

/-- Deletions and creations only. -/
def diffFirewallGroups (declared live : List FirewallGroupDecl) : List Change :=
  (deletes FirewallGroupDecl.group declared live ++
    creates FirewallGroupDecl.group declared live).map
    Family.firewallGroups.change

def diffNotificationMatchers (declared live : List NotificationMatcherDecl) : List Change :=
  Family.notificationMatchers.diff declared live

def diffHaResources (declared live : List HaResourceDecl) : List Change :=
  Family.haResources.diff declared live

def diffHaRules (declared live : List HaRuleDecl) : List Change :=
  Family.haRules.diff declared live

def diffMappingsPci (declared live : List MappingPciDecl) : List Change :=
  Family.mappingsPci.diff declared live

def diffMappingsUsb (declared live : List MappingUsbDecl) : List Change :=
  Family.mappingsUsb.diff declared live

/-- The changes that take the live state to the declared one, family by
family; a family the document does not mention is left alone. -/
def diff (declared live : ClusterState) : List Change :=
  let managed (family : String) (changes : List Change) : List Change :=
    if declared.manages family then changes else []
  managed "pools" (diffPools declared.pools live.pools) ++
  managed "acl" (diffAcl declared.acl live.acl) ++
  managed "storage" (diffStorage declared.storage live.storage) ++
  managed "backup_jobs" (diffBackupJobs declared.backupJobs live.backupJobs) ++
  diffFirewallOptions declared.firewallOptions live.firewallOptions ++
  managed "firewall_aliases" (diffFirewallAliases declared.firewallAliases live.firewallAliases) ++
  managed "firewall_ipsets" (diffFirewallIpsets declared.firewallIpsets live.firewallIpsets) ++
  managed "firewall_groups" (diffFirewallGroups declared.firewallGroups live.firewallGroups) ++
  managed "notification_matchers" (diffNotificationMatchers declared.notificationMatchers
      live.notificationMatchers) ++
  managed "ha_resources" (diffHaResources declared.haResources live.haResources) ++
  managed "ha_rules" (diffHaRules declared.haRules live.haRules) ++
  managed "mappings_pci" (diffMappingsPci declared.mappingsPci live.mappingsPci) ++
  managed "mappings_usb" (diffMappingsUsb declared.mappingsUsb live.mappingsUsb)

/-- The list families, in the order of the output. -/
def families : List Family :=
  [.pools, .acl, .storage, .backupJobs, .firewallAliases, .firewallIpsets,
    .firewallGroups, .notificationMatchers, .haResources, .haRules, .mappingsPci, .mappingsUsb]

section Families

variable {family : Family} {declared live : ClusterState}

/-- The edit of the family that a change carries. -/
def Family.editOf (family : Family) (change : Change) : Option (Edit family.Item) :=
  match change.kind, family.sides change.payload with
  | .delete, some (some before, none) => some (.delete before)
  | .update, some (some before, some after) => some (.update before after)
  | .create, some (none, some after) => some (.create after)
  | _, _ => none

theorem Family.editOf_change (edit : Edit family.Item) :
    family.editOf (family.change edit) = some edit := by
  cases edit <;> simp [Family.editOf, Family.change, family.sides_payload]

theorem Family.resource_change (edit : Edit family.Item) :
    (family.change edit).resource = family.resource := by
  cases edit <;> exact family.resource_payload _ _

variable {change : Change}

theorem Family.editOf_other (hother : change.resource ≠ family.resource) :
    family.editOf change = none := by
  unfold Family.editOf
  rw [family.sides_other change.payload hother]
  split <;> simp_all

/-- What the difference holds for one family. -/
def Family.changes (family : Family) (declared live : ClusterState) : List Change :=
  if declared.manages family.name then
    family.diff (family.items declared) (family.items live)
  else []

theorem Family.filterMap_changes : (family.changes declared live).filterMap family.editOf =
    if declared.manages family.name then
      edits family.key family.same (family.items declared) (family.items live)
    else [] := by
  unfold Family.changes
  split
  · rw [Family.diff, filterMap_map]
    simp [Family.editOf_change]
  · rfl

theorem Family.mem_changes (hchange : change ∈ family.changes declared live) :
    declared.manages family.name = true ∧
      ∃ edit ∈ edits family.key family.same (family.items declared)
        (family.items live), family.change edit = change := by
  unfold Family.changes at hchange
  split at hchange
  next hmanaged => exact ⟨hmanaged, mem_map.mp hchange⟩
  next => simp at hchange

theorem Family.filterMap_changes_other {other : Family}
    (hother : other.resource ≠ family.resource) :
    (other.changes declared live).filterMap family.editOf = [] := by
  rw [filterMap_eq_nil_iff]
  intro change hchange
  obtain ⟨-, edit, -, rfl⟩ := Family.mem_changes hchange
  apply Family.editOf_other
  rw [Family.resource_change]
  exact hother

/-- Every family has a resource of its own. -/
theorem filter_families (hfamily : family ∈ families) :
    families.filter (fun other => other.resource = family.resource) = [family] := by
  simp only [families, mem_cons, not_mem_nil, or_false] at hfamily
  rcases hfamily with rfl | rfl | rfl | rfl | rfl | rfl | rfl | rfl | rfl |
    rfl | rfl | rfl <;> rfl

theorem filterMap_flatMap_changes (listed : List Family) :
    (listed.flatMap fun other => other.changes declared live).filterMap family.editOf =
      (listed.filter fun other => other.resource = family.resource).flatMap
        fun other => (other.changes declared live).filterMap family.editOf := by
  induction listed with
  | nil => rfl
  | cons head tail ih =>
    rw [flatMap_cons, filterMap_append, ih, filter_cons]
    by_cases hhead : head.resource = family.resource
    · simp [hhead]
    · simp [hhead, Family.filterMap_changes_other hhead]

theorem diffFirewallGroups_eq (declared live : List FirewallGroupDecl) :
    diffFirewallGroups declared live = Family.firewallGroups.diff declared live := by
  have hnone : updates FirewallGroupDecl.group (fun _ _ => true) declared live =
      [] := updates_eq_nil fun _ _ => rfl
  have hedits : edits FirewallGroupDecl.group (fun _ _ => true) declared live =
      deletes FirewallGroupDecl.group declared live ++
        creates FirewallGroupDecl.group declared live := by
    rw [edits, hnone, append_nil]
  unfold diffFirewallGroups
  rw [← hedits]
  rfl

/-- The difference, family by family. -/
theorem diff_eq : diff declared live =
    ((families.take 4).flatMap fun family => family.changes declared live) ++
    diffFirewallOptions declared.firewallOptions live.firewallOptions ++
    (families.drop 4).flatMap fun family => family.changes declared live := by
  simp only [diff, diffFirewallGroups_eq, families, take_succ_cons,
    take_zero, drop_succ_cons, drop_zero, flatMap_cons,
    flatMap_nil, append_nil, append_assoc]
  rfl

theorem Family.changes_eq_nil (hitems : family.items declared = family.items live)
    (hsame : ∀ item ∈ family.items live, family.same item item = true) :
    family.changes declared live = [] := by
  have hedits : edits family.key family.same (family.items live)
      (family.items live) = [] := edits_self hsame
  unfold Family.changes Family.diff
  split
  · rw [hitems, hedits]
    rfl
  · rfl

theorem diffFirewallOptions_self (options : Option FirewallOptionsDecl) :
    diffFirewallOptions options options = [] := by
  cases options with
  | none => rfl
  | some options =>
    simp [diffFirewallOptions, FirewallOptionsDecl.satisfiedBy]

/-- States with the same entries do not differ, whatever the document
mentions. -/
theorem diff_eq_nil (hitems : ∀ family ∈ families, family.items declared = family.items live)
    (hoptions : declared.firewallOptions = live.firewallOptions)
    (hsame : ∀ family ∈ families, ∀ item ∈ family.items live, family.same item item = true) :
    diff declared live = [] := by
  have hchanges : ∀ family ∈ families, family.changes declared live = [] := fun family hfamily =>
      Family.changes_eq_nil (hitems family hfamily) (hsame family hfamily)
  rw [diff_eq, hoptions, diffFirewallOptions_self, append_nil,
    append_eq_nil_iff, flatMap_eq_nil_iff, flatMap_eq_nil_iff]
  exact ⟨fun family hmem => hchanges family (mem_of_mem_take hmem),
    fun family hmem => hchanges family (mem_of_mem_drop hmem)⟩

theorem resource_of_mem_diffFirewallOptions {declared live : Option FirewallOptionsDecl}
    (hchange : change ∈ diffFirewallOptions declared live) :
    change.resource = .firewallOptions := by
  unfold diffFirewallOptions at hchange
  split at hchange
  · simp at hchange
  · split at hchange
    · simp at hchange
    · rw [mem_singleton.mp hchange]
      rfl

theorem resource_ne_firewallOptions (hfamily : family ∈ families) :
    family.resource ≠ .firewallOptions := by
  simp only [families, mem_cons, not_mem_nil, or_false] at hfamily
  rcases hfamily with rfl | rfl | rfl | rfl | rfl | rfl | rfl | rfl | rfl |
    rfl | rfl | rfl <;> nofun

/-- What the difference holds of a family: its edits, if it is managed. -/
theorem editsOf_diff (hfamily : family ∈ families) :
    (diff declared live).filterMap family.editOf = if declared.manages family.name then
        edits family.key family.same (family.items declared) (family.items live)
      else [] := by
  have hoptions : (diffFirewallOptions declared.firewallOptions
      live.firewallOptions).filterMap family.editOf = [] := by
    rw [filterMap_eq_nil_iff]
    intro change hchange
    apply Family.editOf_other
    rw [resource_of_mem_diffFirewallOptions hchange]
    exact (resource_ne_firewallOptions hfamily).symm
  rw [diff_eq, filterMap_append, filterMap_append, hoptions,
    append_nil, ← filterMap_append, ← flatMap_append,
    take_append_drop, filterMap_flatMap_changes, filter_families hfamily]
  simp [Family.filterMap_changes]

/-- Every change belongs to a managed family, or to the firewall options. -/
theorem mem_diff (hchange : change ∈ diff declared live) :
    change ∈ diffFirewallOptions declared.firewallOptions live.firewallOptions ∨
      ∃ family ∈ families, declared.manages family.name = true ∧
        ∃ edit, family.change edit = change := by
  rw [diff_eq, mem_append, mem_append, mem_flatMap, mem_flatMap] at hchange
  rcases hchange with (⟨family, hmem, hin⟩ | hoptions) | ⟨family, hmem, hin⟩
  · obtain ⟨hmanaged, edit, -, hedit⟩ := Family.mem_changes hin
    exact .inr ⟨family, mem_of_mem_take hmem, hmanaged, edit, hedit⟩
  · exact .inl hoptions
  · obtain ⟨hmanaged, edit, -, hedit⟩ := Family.mem_changes hin
    exact .inr ⟨family, mem_of_mem_drop hmem, hmanaged, edit, hedit⟩

end Families

end Proxxx
