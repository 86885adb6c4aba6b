/-
Exporting the live cluster into a state document.  An export declares exactly
the families it selects, those without members as empty lists, and reads back
as the state it was made from unless two of its grants look alike.
-/
import Proxxx.StateDocument
import Mathlib.Data.List.Destutter

namespace Proxxx

open Toml RustStr List

/-- What an export can select. -/
inductive ExportResource where
  | pools
  | acl
  | storage
  | backupJobs
  | firewallCluster
  | notifications
  | haResources
  | haRules
  | mappingsPci
  | mappingsUsb
deriving Repr, DecidableEq

/-- The top-level keys a resource is exported into. -/
def ExportResource.familyKeys : ExportResource → List String
  | .pools => ["pools"]
  | .acl => ["acl"]
  | .storage => ["storage"]
  | .backupJobs => ["backup_jobs"]
  | .firewallCluster =>
    ["firewall_options", "firewall_aliases", "firewall_ipsets", "firewall_groups"]
  | .notifications => ["notification_matchers"]
  | .haResources => ["ha_resources"]
  | .haRules => ["ha_rules"]
  | .mappingsPci => ["mappings_pci"]
  | .mappingsUsb => ["mappings_usb"]

/-- Every family, in the order of the document. -/
def ExportResource.all : List ExportResource :=
  [.pools, .acl, .storage, .backupJobs, .firewallCluster, .notifications,
    .haResources, .haRules, .mappingsPci, .mappingsUsb]

section Rendering

/-- The selected families that the plain serialisation leaves out. -/
def StateDocument.emptyKeys (document : StateDocument)
    (resources : List ExportResource) : List String :=
  let present := (present document.slots).map Prod.fst
  (resources.flatMap ExportResource.familyKeys).filter fun key => !present.contains key

/-- Lines that declare families empty stand before the body. -/
def declareEmpty (keys : List String) (body : String) : String :=
  let head := String.join (keys.map fun key => key ++ " = []\n")
  if head.isEmpty then body else head ++ "\n" ++ body

def renderExportToml (crate : TomlCrate) (document : StateDocument)
    (resources : List ExportResource) : Except String String := do
  let body ← crate.toStringPretty document.toToml
  return declareEmpty (document.emptyKeys resources) body

end Rendering

section Reading

structure PoolMember where
  memberType : String
  vmid : UInt32
  storage : String
deriving Repr, DecidableEq

structure PoolDetails where
  comment : String
  members : List PoolMember
deriving Repr, DecidableEq

structure FirewallIpset where
  name : String
  comment : String
deriving Repr, DecidableEq

structure HaResource where
  sid : String
  state : String
  maxRestart : UInt32
  maxRelocate : UInt32
  comment : String
deriving Repr, DecidableEq

structure HaRule where
  rule : String
  ruleType : String
  resources : String
  comment : String
  disable : Bool
  nodes : String
  strict : Bool
  affinity : String
deriving Repr, DecidableEq

/-- The causes of an error, the outermost first. -/
abbrev ErrorChain := List String

/-- The answers of the cluster.  Where the exporter copies every field it
reads, the answer has the type of the declaration. -/
structure StateReadView where
  listPools : Except ErrorChain (List String)
  getPool : String → Except ErrorChain PoolDetails
  listAcl : Except ErrorChain (List AclDecl)
  listClusterStorages : Except ErrorChain (List StorageDecl)
  listBackupJobs : Except ErrorChain (List BackupJobDecl)
  getClusterFirewallOptions : Except ErrorChain FirewallOptionsDecl
  listClusterFirewallAliases : Except ErrorChain (List FirewallAliasDecl)
  listClusterFirewallIpsets : Except ErrorChain (List FirewallIpset)
  listClusterFirewallIpsetCidrs : String → Except ErrorChain (List FirewallIpsetCidrDecl)
  listClusterFirewallGroups : Except ErrorChain (List FirewallGroupDecl)
  listNotificationMatchers : Except ErrorChain (List NotificationMatcherDecl)
  listHaResources : Except ErrorChain (List HaResource)
  listHaRules : Except ErrorChain (List HaRule)
  listClusterMappingPci : Except ErrorChain (List MappingPciDecl)
  listClusterMappingUsb : Except ErrorChain (List MappingUsbDecl)
  getApiVersion : Except ErrorChain String

def withContext {α : Type} (text : String) (result : Except ErrorChain α) : Except ErrorChain α :=
  result.mapError (text :: ·)

/-- A stable sort by a key. -/
def sortBy {α κ : Type} [LinearOrder κ] (key : α → κ) (items : List α) : List α :=
  items.insertionSort fun one two => key one ≤ key two

def sortTexts (texts : List String) : List String :=
  texts.insertionSort (· ≤ ·)

/-- Members of unknown kinds are dropped. -/
def poolMemberToRef (member : PoolMember) : Option String :=
  match member.memberType with
  | "qemu" => some s!"qemu/{member.vmid}"
  | "lxc" => some s!"lxc/{member.vmid}"
  | "storage" => some s!"storage/{member.storage}"
  | _ => none

variable (view : StateReadView)

def exportPools : Except ErrorChain (List PoolDecl) := do
  let pools ← withContext "listing pools" view.listPools
  (sortBy id pools).mapM fun poolid => do
    let detail ← withContext s!"reading pool '{poolid}'" (view.getPool poolid)
    return {
      poolid := poolid
      comment := detail.comment
      members := sortTexts (detail.members.filterMap poolMemberToRef) }

def exportAcl : Except ErrorChain (List AclDecl) := do
  let entries ← withContext "listing ACL" view.listAcl
  return sortBy AclDecl.key entries

def exportStorage : Except ErrorChain (List StorageDecl) := do
  let storages ← withContext "listing cluster storages"
    view.listClusterStorages
  return (sortBy StorageDecl.storage storages).map fun storage =>
    { storage with
      content := normalizeCsv storage.content, nodes := normalizeCsv storage.nodes }

def exportBackupJobs : Except ErrorChain (List BackupJobDecl) := do
  let jobs ← withContext "listing backup jobs" view.listBackupJobs
  return sortBy BackupJobDecl.id jobs

def exportFirewallOptions : Except ErrorChain FirewallOptionsDecl :=
  withContext "reading firewall options" view.getClusterFirewallOptions

def exportFirewallAliases : Except ErrorChain (List FirewallAliasDecl) := do
  let aliases ← withContext "listing firewall aliases"
    view.listClusterFirewallAliases
  return sortBy FirewallAliasDecl.name aliases

def exportFirewallIpsets : Except ErrorChain (List FirewallIpsetDecl) := do
  let ipsets ← withContext "listing firewall ipsets"
    view.listClusterFirewallIpsets
  (sortBy FirewallIpset.name ipsets).mapM fun ipset => do
    let cidrs ← withContext s!"listing CIDRs of ipset '{ipset.name}'"
      (view.listClusterFirewallIpsetCidrs ipset.name)
    return {
      name := ipset.name
      comment := ipset.comment
      cidrs := sortBy FirewallIpsetCidrDecl.cidr cidrs }

def exportFirewallGroups : Except ErrorChain (List FirewallGroupDecl) := do
  let groups ← withContext "listing firewall groups"
    view.listClusterFirewallGroups
  return sortBy FirewallGroupDecl.group groups

def exportNotificationMatchers : Except ErrorChain (List NotificationMatcherDecl) := do
  let matchers ← withContext "listing notification matchers"
    view.listNotificationMatchers
  return (sortBy NotificationMatcherDecl.name matchers).map fun matcher =>
    { matcher with
      target := sortTexts matcher.target, matchField := sortTexts matcher.matchField
      matchSeverity := sortTexts matcher.matchSeverity }

/-- The two flags are not read from the cluster. -/
def exportHaResources : Except ErrorChain (List HaResourceDecl) := do
  let resources ← withContext "listing HA resources" view.listHaResources
  return (sortBy HaResource.sid resources).map fun resource =>
    { sid := resource.sid, state := resource.state, maxRestart := resource.maxRestart.toNat
      maxRelocate := resource.maxRelocate.toNat, failback := true, autoRebalance := true
      comment := resource.comment }

def exportHaRules : Except ErrorChain (List HaRuleDecl) := do
  let rules ← withContext "listing HA rules" view.listHaRules
  return (sortBy HaRule.rule rules).map fun rule =>
    let resources := ((RustStr.split rule.resources ',').map
      RustStr.trim).filter (· ≠ "")
    { rule := rule.rule, ruleType := rule.ruleType
      resources := (sortTexts resources).destutter (· ≠ ·), comment := rule.comment
      disable := rule.disable, nodes := rule.nodes, strict := rule.strict
      affinity := rule.affinity }

def exportMappingsPci : Except ErrorChain (List MappingPciDecl) := do
  let mappings ← withContext "listing PCI mappings" view.listClusterMappingPci
  return (sortBy MappingPciDecl.id mappings).map fun mapping =>
    { mapping with map := sortTexts mapping.map }

def exportMappingsUsb : Except ErrorChain (List MappingUsbDecl) := do
  let mappings ← withContext "listing USB mappings" view.listClusterMappingUsb
  return (sortBy MappingUsbDecl.id mappings).map fun mapping =>
    { mapping with map := sortTexts mapping.map }

/-- Read one selected resource. -/
def exportInto (state : ClusterState) : ExportResource → Except ErrorChain ClusterState
  | .pools => do
      let pools ← withContext "exporting pools" (exportPools view)
      return { state with pools }
  | .acl => do
      let acl ← withContext "exporting acl" (exportAcl view)
      return { state with acl }
  | .storage => do
      let storage ← withContext "exporting storage" (exportStorage view)
      return { state with storage }
  | .backupJobs => do
      let backupJobs ← withContext "exporting backup-jobs"
        (exportBackupJobs view)
      return { state with backupJobs }
  | .firewallCluster => do
      let firewallOptions ← withContext "exporting firewall options"
        (exportFirewallOptions view)
      let firewallAliases ← withContext "exporting firewall aliases"
        (exportFirewallAliases view)
      let firewallIpsets ← withContext "exporting firewall ipsets"
        (exportFirewallIpsets view)
      let firewallGroups ← withContext "exporting firewall groups"
        (exportFirewallGroups view)
      return { state with
        firewallOptions := some firewallOptions
        firewallAliases
        firewallIpsets
        firewallGroups }
  | .notifications => do
      let notificationMatchers ← withContext "exporting notification matchers"
        (exportNotificationMatchers view)
      return { state with notificationMatchers }
  | .haResources => do
      let haResources ← withContext "exporting HA resources"
        (exportHaResources view)
      return { state with haResources }
  | .haRules => do
      let haRules ← withContext "exporting HA rules" (exportHaRules view)
      return { state with haRules }
  | .mappingsPci => do
      let mappingsPci ← withContext "exporting PCI mappings"
        (exportMappingsPci view)
      return { state with mappingsPci }
  | .mappingsUsb => do
      let mappingsUsb ← withContext "exporting USB mappings"
        (exportMappingsUsb view)
      return { state with mappingsUsb }

/-- Read what is selected; `exportedAt` is the clock and `proxxx` the version
of the program. -/
def exportState (resources : List ExportResource) (profile exportedAt proxxx : String) :
    Except ErrorChain StateDocument := do
  let pveVersion := view.getApiVersion.toOption.getD ""
  let state ← resources.foldlM (exportInto view) {}
  return {
    header := some {
      schemaVersion := currentStateSchema
      profile := profile
      exportedAt := exportedAt
      exportedFromProxxx := proxxx
      pveVersion := pveVersion }
    state := state }

end Reading

section Exported

/-- The families of a resource are as in an empty state. -/
def ExportResource.Untouched : ExportResource → ClusterState → Prop
  | .pools, state => state.pools = []
  | .acl, state => state.acl = []
  | .storage, state => state.storage = []
  | .backupJobs, state => state.backupJobs = []
  | .firewallCluster, state =>
    state.firewallOptions = none ∧ state.firewallAliases = [] ∧
      state.firewallIpsets = [] ∧ state.firewallGroups = []
  | .notifications, state => state.notificationMatchers = []
  | .haResources, state => state.haResources = []
  | .haRules, state => state.haRules = []
  | .mappingsPci, state => state.mappingsPci = []
  | .mappingsUsb, state => state.mappingsUsb = []

/-- The sets of a storage are in their normal form. -/
def StorageDecl.Normal (storage : StorageDecl) : Prop :=
  normalizeCsv storage.content = storage.content ∧ normalizeCsv storage.nodes = storage.nodes

theorem StorageDecl.Normal.matches_self {storage : StorageDecl}
    (hnormal : storage.Normal) : storageMatches storage storage = true := by
  obtain ⟨hcontent, hnodes⟩ := hnormal
  rw [storageMatches, hcontent, hnodes]
  exact decide_eq_true rfl

/-- What holds of a state into which the resources have been read. -/
structure Exported (resources : List ExportResource) (state : ClusterState) : Prop where
  undeclared : state.declaredFamilies = none
  untouched : ∀ resource, resource ∉ resources → resource.Untouched state
  options : .firewallCluster ∈ resources → state.firewallOptions.isSome = true
  normal : ∀ storage ∈ state.storage, storage.Normal
  bounded : ∀ resource ∈ state.haResources, resource.Bounded

variable {view : StateReadView} {resources : List ExportResource}
variable {state next : ClusterState}

theorem normalizeCsv_normalizeCsv (text : String) :
    normalizeCsv (normalizeCsv text) = normalizeCsv text :=
  normalizeCsv_eq_iff.mpr split_normalizeCsv

theorem withContext_eq_ok {α : Type} {text : String} {result : Except ErrorChain α} {value : α} :
    withContext text result = .ok value ↔ result = .ok value :=
  mapError_eq_ok

theorem normal_of_exportStorage {storages : List StorageDecl}
    (hexport : exportStorage view = .ok storages) :
    ∀ storage ∈ storages, storage.Normal := by
  obtain ⟨listed, -, hmap⟩ := bind_eq_ok hexport
  cases hmap
  intro storage hstorage
  obtain ⟨wire, -, rfl⟩ := mem_map.mp hstorage
  exact ⟨normalizeCsv_normalizeCsv _, normalizeCsv_normalizeCsv _⟩

theorem bounded_of_exportHaResources {exported : List HaResourceDecl}
    (hexport : exportHaResources view = .ok exported) :
    ∀ resource ∈ exported, resource.Bounded := by
  obtain ⟨listed, -, hmap⟩ := bind_eq_ok hexport
  cases hmap
  intro resource hresource
  obtain ⟨wire, -, rfl⟩ := mem_map.mp hresource
  exact ⟨wire.maxRestart.toNat_lt, wire.maxRelocate.toNat_lt⟩

/-- What reading a resource has to leave alone. -/
theorem Exported.of_frame {resource : ExportResource} (hstate : Exported resources state)
    (hundeclared : next.declaredFamilies = state.declaredFamilies)
    (hframe : ∀ other, other ≠ resource → other.Untouched state → other.Untouched next)
    (hoptions : resource ≠ .firewallCluster ∧ next.firewallOptions = state.firewallOptions ∨
      next.firewallOptions.isSome = true)
    (hnormal : next.storage = state.storage ∨ ∀ storage ∈ next.storage, storage.Normal)
    (hbounded : next.haResources = state.haResources ∨
      ∀ resource ∈ next.haResources, resource.Bounded) :
    Exported (resources ++ [resource]) next where
  undeclared := hundeclared.trans hstate.undeclared
  untouched other hother := by
    rw [mem_append, mem_singleton, not_or] at hother
    exact hframe other hother.2 (hstate.untouched other hother.1)
  options hselected := by
    rcases hoptions with ⟨hne, hsame⟩ | hsome
    · rw [mem_append, mem_singleton] at hselected
      rw [hsame]
      exact hstate.options (hselected.resolve_right (Ne.symm hne))
    · exact hsome
  normal := hnormal.elim (fun hsame => hsame ▸ hstate.normal) id
  bounded := hbounded.elim (fun hsame => hsame ▸ hstate.bounded) id

/-- Reading one more resource. -/
theorem Exported.step {resource : ExportResource}
    (hstate : Exported resources state)
    (hnext : exportInto view state resource = .ok next) :
    Exported (resources ++ [resource]) next := by
  cases resource
  case' firewallCluster =>
    obtain ⟨options, -, hnext⟩ := bind_eq_ok hnext
    obtain ⟨aliases, -, hnext⟩ := bind_eq_ok hnext
    obtain ⟨ipsets, -, hnext⟩ := bind_eq_ok hnext
  all_goals
    obtain ⟨items, hitems, hnext⟩ := bind_eq_ok hnext
    cases hnext
    refine hstate.of_frame rfl (fun other hne hother => ?_) ?_ ?_ ?_
    · cases other <;> first | exact hother | exact absurd rfl hne
    -- Only the storages, the resources and the firewall options are new to what is known.
    all_goals first
      | exact .inl rfl
      | exact .inl ⟨nofun, rfl⟩
      | exact .inr rfl
      | exact .inr (normal_of_exportStorage (withContext_eq_ok.mp hitems))
      | exact .inr (bounded_of_exportHaResources (withContext_eq_ok.mp hitems))

theorem Exported.foldlM {later : List ExportResource} (hstate : Exported resources state)
    (hnext : later.foldlM (exportInto view) state = .ok next) :
    Exported (resources ++ later) next := by
  induction later generalizing resources state with
  | nil =>
    cases hnext
    simpa using hstate
  | cons head tail ih =>
    rw [foldlM_cons] at hnext
    obtain ⟨middle, hhead, htail⟩ := bind_eq_ok hnext
    simpa using ih (hstate.step hhead) htail

theorem exported_empty : Exported [] {} where
  undeclared := rfl
  untouched resource _ := by cases resource <;> simp [ExportResource.Untouched]
  options := nofun
  normal := nofun
  bounded := nofun

theorem exported_of_exportState {profile exportedAt proxxx : String} {document : StateDocument}
    (hexport : exportState view resources profile exportedAt proxxx = .ok document) :
    Exported resources document.state ∧ document.header.map StateMeta.schemaVersion =
        some currentStateSchema := by
  obtain ⟨state, hstate, hdocument⟩ := bind_eq_ok hexport
  cases hdocument
  have hexported := exported_empty.foldlM hstate
  exact ⟨by simpa using hexported, rfl⟩

end Exported

section ReadBack

variable {crate : TomlCrate} {document : StateDocument}
variable {resources : List ExportResource} {key : String}

theorem absent_of_untouched {resource : ExportResource}
    (huntouched : resource.Untouched document.state)
    (hkey : key ∈ resource.familyKeys) :
    key ∉ (present document.slots).map Prod.fst := by
  rw [mem_keys_present]
  rintro ⟨value, hslot⟩
  cases resource
  case firewallCluster =>
    obtain ⟨hoptions, haliases, hipsets, hgroups⟩ := huntouched
    simp only [ExportResource.familyKeys, mem_cons, not_mem_nil, or_false] at hkey
    rcases hkey with rfl | rfl | rfl | rfl <;>
      simp [StateDocument.slots, listUnlessEmpty, *] at hslot
  all_goals simp_all [ExportResource.familyKeys, ExportResource.Untouched,
      StateDocument.slots, listUnlessEmpty]

theorem exists_resource (hkey : key ∈ documentKeys) (hmeta : key ≠ "meta") :
    ∃ resource : ExportResource, key ∈ resource.familyKeys := by
  have hcovered : ∀ key ∈ documentKeys, key ≠ "meta" →
      ∃ resource ∈ ExportResource.all, key ∈ resource.familyKeys := by decide
  obtain ⟨resource, -, hresource⟩ := hcovered key hkey hmeta
  exact ⟨resource, hresource⟩

theorem mem_emptyKeys : key ∈ document.emptyKeys resources ↔
      (∃ resource ∈ resources, key ∈ resource.familyKeys) ∧
        key ∉ (present document.slots).map Prod.fst := by simp [StateDocument.emptyKeys]

theorem familyKeys_subset (resource : ExportResource) :
    resource.familyKeys ⊆ documentKeys ∧ "meta" ∉ resource.familyKeys := by
  cases resource <;> decide

theorem keys_present_subset : (present document.slots).map Prod.fst ⊆ documentKeys :=
  (keys_present_sublist document.slots).subset

/-- Beside the header, an export mentions exactly the families of the selected
resources. -/
theorem mem_mentioned (hexported : Exported resources document.state) (hmeta : key ≠ "meta") :
    key ∈ document.emptyKeys resources ++ (present document.slots).map Prod.fst ↔
      ∃ resource ∈ resources, key ∈ resource.familyKeys := by
  rw [mem_append, mem_emptyKeys]
  constructor
  · rintro (⟨hselected, -⟩ | hpresent)
    · exact hselected
    · obtain ⟨resource, hresource⟩ := exists_resource (keys_present_subset hpresent) hmeta
      by_cases hselected : resource ∈ resources
      · exact ⟨resource, hselected, hresource⟩
      · have huntouched := hexported.untouched resource hselected
        exact absurd hpresent (absent_of_untouched huntouched hresource)
  · intro hselected
    by_cases hpresent : key ∈ (present document.slots).map Prod.fst
    · exact .inr hpresent
    · exact .inl ⟨hselected, hpresent⟩

theorem ExportResource.mem_all (resource : ExportResource) : resource ∈ ExportResource.all := by
  cases resource <;> decide

theorem disjoint_familyKeys {one two : ExportResource} (hne : one ≠ two) :
    one.familyKeys.Disjoint two.familyKeys := by
  have hdisjoint : ∀ one ∈ ExportResource.all, ∀ two ∈ ExportResource.all,
      one ≠ two → ∀ key ∈ one.familyKeys, key ∉ two.familyKeys := by decide +kernel
  exact fun key hone => hdisjoint one one.mem_all two two.mem_all hne key hone

/-- No key is mentioned twice. -/
theorem nodup_mentioned (hnodup : resources.Nodup) : (document.emptyKeys resources ++
    (present document.slots).map Prod.fst).Nodup := by
  have hselected : (resources.flatMap ExportResource.familyKeys).Nodup := by
    rw [nodup_flatMap]
    refine ⟨fun resource _ => ?_, ?_⟩
    · cases resource <;> decide
    · exact hnodup.imp disjoint_familyKeys
  have hslots : (document.slots.map Prod.fst).Nodup := by
    have hkeys : document.slots.map Prod.fst = documentKeys := rfl
    rw [hkeys]
    decide
  refine List.Nodup.append (hselected.filter _) (hslots.sublist (keys_present_sublist _)) ?_
  intro key hempty hpresent
  exact (mem_emptyKeys.mp hempty).2 hpresent

/-- The crate gives back the table it serialised, also behind lines that
declare further keys empty, as long as no key is written twice. -/
def TomlCrate.RoundTrips (crate : TomlCrate) (declared : List String)
    (entries : List (String × Toml)) : Prop :=
  (declared ++ entries.map Prod.fst).Nodup →
    ∃ body, crate.toStringPretty (.table entries) = .ok body ∧
      crate.fromStr (declareEmpty declared body) =
        .ok (.table (declared.map (·, .arr []) ++ entries))

/-- The rendered export is accepted, declares exactly the selected families,
has the state it was made from, and does not differ from it. -/
def ReadsBack (crate : TomlCrate) (document : StateDocument)
    (resources : List ExportResource) : Prop :=
  ∃ text parsed families, renderExportToml crate document resources = .ok text ∧
    fromTomlStr crate text = .ok parsed ∧
    parsed.state.declaredFamilies = some families ∧
    (∀ key, key ≠ "meta" → (key ∈ families ↔ ∃ resource ∈ resources, key ∈ resource.familyKeys)) ∧
    parsed.header = document.header ∧
    { parsed.state with declaredFamilies := document.state.declaredFamilies } = document.state ∧
    diff parsed.state document.state = []

/-- The tree the rendered export stands for. -/
def StateDocument.exportTree (document : StateDocument) (resources : List ExportResource) : Toml :=
  .table ((document.emptyKeys resources).map (·, .arr []) ++ present document.slots)

theorem ofToml_exportTree (hexported : Exported resources document.state)
    (hschema : document.header.map StateMeta.schemaVersion = some currentStateSchema) :
    StateDocument.ofToml (document.exportTree resources) = some document := by
  have hbounded : document.Bounded := by
    refine ⟨fun header hheader => ?_, hexported.bounded⟩
    rw [Option.mem_def.mp hheader] at hschema
    rw [Option.some.inj hschema]
    decide
  have hmeta : "meta" ∉ document.emptyKeys resources := by
    intro hmem
    obtain ⟨⟨resource, -, hkey⟩, -⟩ := mem_emptyKeys.mp hmem
    exact (familyKeys_subset resource).2 hkey
  have hoptions : "firewall_options" ∉ document.emptyKeys resources := by
    intro hmem
    obtain ⟨⟨resource, hselected, hkey⟩, habsent⟩ := mem_emptyKeys.mp hmem
    have hcluster : resource = .firewallCluster := by
      by_contra hne
      exact disjoint_familyKeys hne hkey (by decide)
    -- the cluster's options are written even if none of them is set
    obtain ⟨options, hsome⟩ := Option.isSome_iff_exists.mp
      (hexported.options (hcluster ▸ hselected))
    apply habsent
    exact mem_keys_present.mpr ⟨options.toToml, by simp [StateDocument.slots, hsome]⟩
  have hsubset : document.emptyKeys resources ⊆ documentKeys := by
    intro key hmem
    obtain ⟨⟨resource, -, hkey⟩, -⟩ := mem_emptyKeys.mp hmem
    exact (familyKeys_subset resource).1 hkey
  rw [StateDocument.exportTree, StateDocument.ofToml_declared hbounded hsubset
    (fun key hkey => (mem_emptyKeys.mp hkey).2) hmeta hoptions,
    ← hexported.undeclared]

theorem declaredFamilies_exportTree : (document.recordDeclaredFamilies
      (document.exportTree resources)).state.declaredFamilies =
    some (document.emptyKeys resources ++ (present document.slots).map Prod.fst) := by
  simp [StateDocument.recordDeclaredFamilies, StateDocument.exportTree, Function.comp_def]

theorem ensureSchema_exportTree (hschema : document.header.map StateMeta.schemaVersion =
      some currentStateSchema) :
    (document.recordDeclaredFamilies (document.exportTree resources)).ensureSchema = .ok () := by
  obtain ⟨header, hheader, hversion⟩ := Option.map_eq_some_iff.mp hschema
  rw [StateDocument.ensureSchema]
  simp [StateDocument.recordDeclaredFamilies, StateDocument.exportTree, hheader, hversion]

theorem ensureDeclaresAFamily_exportTree (hexported : Exported resources document.state)
    (hselected : resources ≠ []) :
    (document.recordDeclaredFamilies
      (document.exportTree resources)).ensureDeclaresAFamily = .ok () := by
  obtain ⟨resource, hresource⟩ := exists_mem_of_ne_nil _ hselected
  obtain ⟨key, hkey⟩ : ∃ key, key ∈ resource.familyKeys := by
    cases resource <;> exact ⟨_, mem_cons_self⟩
  have hmeta : key ≠ "meta" := by
    rintro rfl
    exact (familyKeys_subset resource).2 hkey
  have hmentioned := (mem_mentioned hexported hmeta).mpr ⟨resource, hresource, hkey⟩
  rw [StateDocument.ensureDeclaresAFamily, declaredFamilies_exportTree, if_pos]
  simp only [Option.any_some, any_eq_true, decide_eq_true_eq]
  exact ⟨key, hmentioned, hmeta⟩

theorem diff_recordDeclaredFamilies (raw : Toml) (hexported : Exported resources document.state) :
    diff (document.recordDeclaredFamilies raw).state document.state = [] := by
  have hitems : ∀ family ∈ families, family.items (document.recordDeclaredFamilies raw).state =
        family.items document.state := by
    intro family hfamily
    simp only [families, mem_cons, not_mem_nil, or_false] at hfamily
    rcases hfamily with rfl | rfl | rfl | rfl | rfl | rfl | rfl | rfl | rfl |
      rfl | rfl | rfl <;> cases raw <;> rfl
  have hsame : ∀ family ∈ families, ∀ item ∈ family.items document.state,
      family.same item item = true := by
    simp only [families, forall_mem_cons]
    exact ⟨fun (pool : PoolDecl) _ => decide_eq_true rfl,
      fun (grant : AclDecl) _ => decide_eq_true rfl,
      fun storage hstorage => (hexported.normal storage hstorage).matches_self,
      fun (job : BackupJobDecl) _ => decide_eq_true rfl,
      fun (entry : FirewallAliasDecl) _ => decide_eq_true rfl,
      fun (ipset : FirewallIpsetDecl) _ => decide_eq_true rfl,
      fun _ _ => rfl,
      fun (matcher : NotificationMatcherDecl) _ => decide_eq_true rfl,
      fun (resource : HaResourceDecl) _ => decide_eq_true rfl,
      fun (rule : HaRuleDecl) _ => decide_eq_true rfl,
      fun (mapping : MappingPciDecl) _ => decide_eq_true rfl,
      fun (mapping : MappingUsbDecl) _ => decide_eq_true rfl, by simp⟩
  exact diff_eq_nil hitems (by cases raw <;> rfl) hsame

/-- Exports whose identities are distinct are read back exactly if no two
grants look alike. -/
theorem export_reads_back_iff (crate : TomlCrate) (view : StateReadView)
    (profile exportedAt proxxx : String)
    (hexport : exportState view resources profile exportedAt proxxx = .ok document)
    (hselected : resources ≠ []) (hnodup : resources.Nodup)
    (hdistinct : ¬document.state.SharesIdentity)
    (hcrate : crate.RoundTrips (document.emptyKeys resources) (present document.slots)) :
    ReadsBack crate document resources ↔ ¬document.state.LookalikeGrants := by
  obtain ⟨hexported, hschema⟩ := exported_of_exportState hexport
  obtain ⟨body, hbody, hraw⟩ := hcrate (nodup_mentioned hnodup)
  have hrender : renderExportToml crate document resources =
      .ok (declareEmpty (document.emptyKeys resources) body) := by
    rw [renderExportToml, StateDocument.toToml, Toml.record, hbody]
    rfl
  have hdocument := ofToml_exportTree hexported hschema
  have hidentities : document.state.DistinctIdentities := by
    rw [sharesIdentity_iff, not_or, not_not] at hdistinct
    exact hdistinct.1
  have hvalid : document.state.validateUniqueIdentities = .ok () ↔
      ¬document.state.LookalikeGrants := by
    rw [← not_iff_not, not_not, ← ne_eq, validate_ne_ok_iff]
    simp [hidentities]
  rw [← hvalid]
  constructor
  · rintro ⟨text, parsed, families, htext, hparsed, -⟩
    cases hrender.symm.trans htext
    rw [fromTomlStr_of_shape hraw hdocument, andThen_eq_ok, mapError_eq_ok] at hparsed
    exact hparsed.1
  · intro hok
    refine ⟨_, document.recordDeclaredFamilies (document.exportTree resources),
      _, hrender, ?_, declaredFamilies_exportTree,
      fun key hmeta => mem_mentioned hexported hmeta, rfl, rfl,
      diff_recordDeclaredFamilies _ hexported⟩
    rw [fromTomlStr_of_shape hraw hdocument]
    simp only [andThen_eq_ok, mapError_eq_ok]
    exact ⟨hok, ensureSchema_exportTree hschema,
      ensureDeclaresAFamily_exportTree hexported hselected, rfl⟩

end ReadBack

namespace ExportWitness

/-- A cluster without pools, with one storage and two grants. -/
def view : StateReadView where
  listPools := .ok []
  getPool _ := .error ["no such pool"]
  listAcl := .ok DuplicateWitness.grants
  listClusterStorages := .ok [{
    storage := "local", storageType := "dir", content := "iso,backup"
    nodes := "", disable := false, shared := false, path := "/var/lib/vz"
    pool := "", server := "", «export» := "", datastore := ""
    fingerprint := "", username := "", vgname := "", thinpool := "" }]
  listBackupJobs := .error ["permission denied"]
  getClusterFirewallOptions := .error ["permission denied"]
  listClusterFirewallAliases := .error ["permission denied"]
  listClusterFirewallIpsets := .error ["permission denied"]
  listClusterFirewallIpsetCidrs _ := .error ["permission denied"]
  listClusterFirewallGroups := .error ["permission denied"]
  listNotificationMatchers := .error ["permission denied"]
  listHaResources := .error ["permission denied"]
  listHaRules := .error ["permission denied"]
  listClusterMappingPci := .error ["permission denied"]
  listClusterMappingUsb := .error ["permission denied"]
  getApiVersion := .ok "9.1.9"

def header : StateMeta where
  schemaVersion := 1
  profile := "lab"
  exportedAt := "2026-01-01T00:00:00Z"
  exportedFromProxxx := "0.14.0"
  pveVersion := "9.1.9"

/-- The pools are declared empty, the content of the storage is sorted. -/
def storageDocument : StateDocument where
  header := some header
  state := { storage := [{
    storage := "local", storageType := "dir", content := "backup,iso"
    nodes := "", disable := false, shared := false, path := "/var/lib/vz"
    pool := "", server := "", «export» := "", datastore := ""
    fingerprint := "", username := "", vgname := "", thinpool := "" }] }

def aclDocument : StateDocument where
  header := some header
  state := { acl := sortBy AclDecl.key DuplicateWitness.grants }

/-- Knows one document. -/
def crateOf (tree : Toml) : TomlCrate where
  toStringPretty _ := .ok "[meta]\n"
  fromStr _ := .ok tree

theorem export_reads_back_storage :
    ReadsBack (crateOf (storageDocument.exportTree [.pools, .storage]))
      storageDocument [.pools, .storage] := by
  have hexport : exportState view [.pools, .storage] "lab"
      "2026-01-01T00:00:00Z" "0.14.0" = .ok storageDocument := by decide +kernel
  have hdistinct : ¬storageDocument.state.SharesIdentity :=
    not_sharesIdentity (by decide +kernel) rfl
  refine (export_reads_back_iff _ view "lab" "2026-01-01T00:00:00Z" "0.14.0"
    hexport (by decide) (by decide) hdistinct
    fun _ => ⟨_, rfl, rfl⟩).mpr ?_
  rintro ⟨grant, hgrant, -⟩
  cases hgrant

/-- The export of the two grants is refused. -/
theorem lookalike_export_refused :
    exportState view [.acl] "lab" "2026-01-01T00:00:00Z" "0.14.0" = .ok aclDocument ∧
      ¬aclDocument.state.SharesIdentity ∧
      (crateOf (aclDocument.exportTree [.acl])).RoundTrips
        (aclDocument.emptyKeys [.acl]) (present aclDocument.slots) ∧
      ¬ReadsBack (crateOf (aclDocument.exportTree [.acl])) aclDocument [.acl] := by
  refine ⟨by decide +kernel, ?_, fun _ => ⟨_, rfl, rfl⟩, ?_⟩
  · exact not_sharesIdentity (by decide +kernel) rfl
  · rintro ⟨text, parsed, families, -, hparsed, -⟩
    have hrefused : (fromTomlStr (crateOf (aclDocument.exportTree [.acl])) "").toOption = none := by
      decide +kernel
    have hparsed' : fromTomlStr (crateOf (aclDocument.exportTree [.acl])) "" = .ok parsed := hparsed
    rw [hparsed'] at hrefused
    cases hrefused

end ExportWitness

end Proxxx
