/-
State documents: the cluster state with its header as one TOML table, and the
loader, which records the sections a document mentions and refuses documents
that declare one identity twice.  Grants are told apart by a text that joins
the four parts of their identity with bars, and the networks of an IP set are
not told apart at all.
-/
import Proxxx.StateReconcile
import Proxxx.StateToml

namespace Proxxx

open Toml RustStr List

section Documents

/-- A cluster state with its `meta` header. -/
structure StateDocument where
  header : Option StateMeta
  state : ClusterState
deriving Repr, DecidableEq

def StateDocument.slots (document : StateDocument) : Slots :=
  let state := document.state
  [("meta", document.header.map StateMeta.toToml),
    ("pools", listUnlessEmpty PoolDecl.toToml state.pools),
    ("acl", listUnlessEmpty AclDecl.toToml state.acl),
    ("storage", listUnlessEmpty StorageDecl.toToml state.storage),
    ("backup_jobs", listUnlessEmpty BackupJobDecl.toToml state.backupJobs), ("firewall_options",
      state.firewallOptions.map FirewallOptionsDecl.toToml), ("firewall_aliases",
      listUnlessEmpty FirewallAliasDecl.toToml state.firewallAliases), ("firewall_ipsets",
      listUnlessEmpty FirewallIpsetDecl.toToml state.firewallIpsets), ("firewall_groups",
      listUnlessEmpty FirewallGroupDecl.toToml state.firewallGroups), ("notification_matchers",
      listUnlessEmpty NotificationMatcherDecl.toToml state.notificationMatchers),
    ("ha_resources", listUnlessEmpty HaResourceDecl.toToml state.haResources),
    ("ha_rules", listUnlessEmpty HaRuleDecl.toToml state.haRules),
    ("mappings_pci", listUnlessEmpty MappingPciDecl.toToml state.mappingsPci),
    ("mappings_usb", listUnlessEmpty MappingUsbDecl.toToml state.mappingsUsb)]

def StateDocument.toToml (document : StateDocument) : Toml :=
  .record document.slots

def documentKeys : List String :=
  ["meta", "pools", "acl", "storage", "backup_jobs", "firewall_options",
    "firewall_aliases", "firewall_ipsets", "firewall_groups",
    "notification_matchers", "ha_resources", "ha_rules", "mappings_pci", "mappings_usb"]

def StateDocument.ofToml (tree : Toml) : Option StateDocument := do
  let field ← fieldsOf documentKeys tree
  StateDocument.mk <$> readOption StateMeta.ofToml (field "meta") <*> (ClusterState.mk none
      <$> readField [] (readList PoolDecl.ofToml) (field "pools")
      <*> readField [] (readList AclDecl.ofToml) (field "acl")
      <*> readField [] (readList StorageDecl.ofToml) (field "storage")
      <*> readField [] (readList BackupJobDecl.ofToml) (field "backup_jobs")
      <*> readOption FirewallOptionsDecl.ofToml (field "firewall_options")
      <*> readField [] (readList FirewallAliasDecl.ofToml) (field "firewall_aliases")
      <*> readField [] (readList FirewallIpsetDecl.ofToml) (field "firewall_ipsets")
      <*> readField [] (readList FirewallGroupDecl.ofToml) (field "firewall_groups")
      <*> readField [] (readList NotificationMatcherDecl.ofToml) (field "notification_matchers")
      <*> readField [] (readList HaResourceDecl.ofToml) (field "ha_resources")
      <*> readField [] (readList HaRuleDecl.ofToml) (field "ha_rules")
      <*> readField [] (readList MappingPciDecl.ofToml) (field "mappings_pci")
      <*> readField [] (readList MappingUsbDecl.ofToml) (field "mappings_usb"))

/-- The numbers of the document are machine words. -/
structure StateDocument.Bounded (document : StateDocument) : Prop where
  header : ∀ header ∈ document.header, header.schemaVersion < u32Limit
  resources : ∀ resource ∈ document.state.haResources, resource.Bounded

/-- A document is read back as it was written, also where sections that were
skipped are declared empty.  The sections it mentions are not part of it. -/
theorem StateDocument.ofToml_declared {document : StateDocument}
    {declared : List String} (hbounded : document.Bounded)
    (hdeclared : declared ⊆ documentKeys)
    (habsent : ∀ key ∈ declared, key ∉ (present document.slots).map Prod.fst)
    (hmeta : "meta" ∉ declared) (hset : "firewall_options" ∉ declared) :
    StateDocument.ofToml (.table (declared.map (·, .arr []) ++ present document.slots)) =
      some { document with state := { document.state with declaredFamilies := none } } := by
  have hsection {α : Type} {read : Toml → Option α} {write : α → Toml}
      (key : String) (items : List α)
      (hitems : ∀ item ∈ items, read (write item) = some item)
      (hslot : document.slots.lookup key = some (listUnlessEmpty write items) := by rfl) :=
    readField_declared habsent hslot hitems
  have hpools := hsection "pools" document.state.pools fun pool _ => PoolDecl.ofToml_toToml pool
  have hacl := hsection "acl" document.state.acl fun grant _ => AclDecl.ofToml_toToml grant
  have hstorage := hsection "storage" document.state.storage fun storage _ =>
    StorageDecl.ofToml_toToml storage
  have hjobs := hsection "backup_jobs" document.state.backupJobs fun job _ =>
    BackupJobDecl.ofToml_toToml job
  have haliases := hsection "firewall_aliases" document.state.firewallAliases
    fun entry _ => FirewallAliasDecl.ofToml_toToml entry
  have hipsets := hsection "firewall_ipsets" document.state.firewallIpsets
    fun ipset _ => FirewallIpsetDecl.ofToml_toToml ipset
  have hgroups := hsection "firewall_groups" document.state.firewallGroups
    fun group _ => FirewallGroupDecl.ofToml_toToml group
  have hmatchers := hsection "notification_matchers"
    document.state.notificationMatchers fun matcher _ =>
      NotificationMatcherDecl.ofToml_toToml matcher
  have hresources := hsection "ha_resources" document.state.haResources fun resource hresource =>
      HaResourceDecl.ofToml_toToml (hbounded.resources resource hresource)
  have hrules := hsection "ha_rules" document.state.haRules fun rule _ =>
    HaRuleDecl.ofToml_toToml rule
  have hpci := hsection "mappings_pci" document.state.mappingsPci
    fun mapping _ => MappingPciDecl.ofToml_toToml mapping
  have husb := hsection "mappings_usb" document.state.mappingsUsb
    fun mapping _ => MappingUsbDecl.ofToml_toToml mapping
  have hheader : readOption StateMeta.ofToml
      (document.slots.lookup "meta").join = some document.header :=
    readOption_map fun header hheader => StateMeta.ofToml_toToml (hbounded.header header hheader)
  have hoptions : readOption FirewallOptionsDecl.ofToml
      (document.slots.lookup "firewall_options").join = some document.state.firewallOptions :=
    readOption_map fun options _ => FirewallOptionsDecl.ofToml_toToml options
  rw [StateDocument.ofToml, fieldsOf_declared _ _ (by decide) hdeclared]
  · simp [hmeta, hset, hheader, hoptions, hpools, hacl, hstorage, hjobs,
      haliases, hipsets, hgroups, hmatchers, hresources, hrules, hpci, husb]
  · rfl

end Documents

section Loader

/-- The library that writes and reads TOML texts. -/
structure TomlCrate where
  toStringPretty : Toml → Except String String
  fromStr : String → Except String Toml

inductive DocumentError where
  | parse (cause : String)
  | shape
  | duplicate (reason : String)
  | newerSchema (version : Nat)
  | noFamily
deriving Repr, DecidableEq

def DocumentError.text : DocumentError → String
  | .parse cause => cause
  | .shape => "the document does not have the shape of a state"
  | .duplicate reason => reason
  | .newerSchema version =>
    s!"state document declares schema_version {version} but this proxxx " ++
      s!"understands at most {currentStateSchema}. Upgrade proxxx rather " ++
      "than letting an older binary reinterpret a newer document."
  | .noFamily =>
    "state document declares no resource family (it is empty, holds only " ++
      "comments or only [meta]), so there would be nothing to compare. " ++
      "Export one with `proxxx state export`, or declare a family; " ++
      "`pools = []` declares that the cluster has no pools."

/-- Note the top-level keys the text contained. -/
def StateDocument.recordDeclaredFamilies (document : StateDocument) : Toml → StateDocument
  | .table entries =>
    { document with state := { document.state with
        declaredFamilies := some (entries.map Prod.fst) } }
  | _ => document

/-- A newer document is not reinterpreted. -/
def StateDocument.ensureSchema (document : StateDocument) : Except DocumentError Unit :=
  match document.header with
  | some header =>
    if header.schemaVersion ≤ currentStateSchema then .ok ()
    else .error (.newerSchema header.schemaVersion)
  | none => .ok ()

/-- Some key other than the header is mentioned. -/
def StateDocument.ensureDeclaresAFamily (document : StateDocument) : Except DocumentError Unit :=
  if document.state.declaredFamilies.any fun keys => keys.any (· ≠ "meta") then
    .ok ()
  else .error .noFamily

def fromTomlStr (crate : TomlCrate) (text : String) : Except DocumentError StateDocument := do
  let raw ← (crate.fromStr text).mapError .parse
  let document ← (StateDocument.ofToml raw).elim (.error .shape) .ok
  let document := document.recordDeclaredFamilies raw
  document.state.validateUniqueIdentities.mapError .duplicate
  document.ensureSchema
  document.ensureDeclaresAFamily
  return document

variable {crate : TomlCrate} {text : String} {raw : Toml}
variable {document : StateDocument}

theorem validate_recordDeclaredFamilies (raw : Toml) :
    (document.recordDeclaredFamilies raw).state.validateUniqueIdentities =
      document.state.validateUniqueIdentities := by cases raw <;> rfl

theorem ensureSchema_ne_duplicate {reason : String} :
    document.ensureSchema ≠ .error (.duplicate reason) := by
  unfold StateDocument.ensureSchema
  split
  · split <;> nofun
  · nofun

theorem ensureDeclaresAFamily_ne_duplicate {reason : String} :
    document.ensureDeclaresAFamily ≠ .error (.duplicate reason) := by
  unfold StateDocument.ensureDeclaresAFamily
  split <;> nofun

/-- The checks that a document of the right shape still has to pass. -/
theorem fromTomlStr_of_shape (hraw : crate.fromStr text = .ok raw)
    (hdocument : StateDocument.ofToml raw = some document) :
    fromTomlStr crate text = do
      document.state.validateUniqueIdentities.mapError .duplicate
      (document.recordDeclaredFamilies raw).ensureSchema
      (document.recordDeclaredFamilies raw).ensureDeclaresAFamily
      return document.recordDeclaredFamilies raw := by
  rw [← validate_recordDeclaredFamilies raw, fromTomlStr, hraw]
  simp only [Except.mapError, Bind.bind, Except.bind, hdocument, Option.elim_some]

/-- A document is refused for duplicates exactly where the check fails. -/
theorem duplicate_iff_validate (hraw : crate.fromStr text = .ok raw)
    (hdocument : StateDocument.ofToml raw = some document) :
    (∃ reason, fromTomlStr crate text = .error (.duplicate reason)) ↔
      document.state.validateUniqueIdentities ≠ .ok () := by
  rw [fromTomlStr_of_shape hraw hdocument]
  cases document.state.validateUniqueIdentities with
  | error reason => simp [Bind.bind, Except.bind, Except.mapError]
  | ok checked =>
    have hschema := @ensureSchema_ne_duplicate (document.recordDeclaredFamilies raw)
    have hfamily := @ensureDeclaresAFamily_ne_duplicate (document.recordDeclaredFamilies raw)
    simp only [Except.mapError, Bind.bind, Except.bind, ne_eq,
      not_true_eq_false, iff_false, not_exists]
    intro reason
    split
    · rintro ⟨⟩
      exact hschema ‹_›
    · split
      · rintro ⟨⟩
        exact hfamily ‹_›
      · nofun

end Loader

section Duplicates

/-- The pieces of a grant's identity between bars. -/
def AclDecl.parts (grant : AclDecl) : List String :=
  [grant.path, grant.kind, grant.ugid, grant.roleid].flatMap (RustStr.split · '|')

theorem AclDecl.identityText_eq_join (grant : AclDecl) :
    grant.identityText = RustStr.join grant.parts '|' := by
  simp [AclDecl.parts, AclDecl.identityText, join_append,
    split_ne_nil, join_split, String.append_assoc]

theorem AclDecl.split_identityText (grant : AclDecl) :
    RustStr.split grant.identityText '|' = grant.parts := by
  rw [AclDecl.identityText_eq_join]
  apply split_join
  · intro part hpart
    obtain ⟨field, -, hfield⟩ := mem_flatMap.mp hpart
    exact not_mem_of_mem_split hfield
  · simp [AclDecl.parts, split_ne_nil]

theorem AclDecl.identityText_eq_iff {one two : AclDecl} :
    one.identityText = two.identityText ↔ one.parts = two.parts := by
  constructor
  · intro htext
    rw [← one.split_identityText, htext, two.split_identityText]
  · intro hparts
    rw [one.identityText_eq_join, hparts, two.identityText_eq_join]

/-- Two different grants have the same pieces. -/
def ClusterState.LookalikeGrants (state : ClusterState) : Prop :=
  ∃ one ∈ state.acl, ∃ two ∈ state.acl, one.key ≠ two.key ∧ one.parts = two.parts

/-- A network stands twice in one IP set. -/
def ClusterState.RepeatsCidr (state : ClusterState) : Prop :=
  ∃ ipset ∈ state.firewallIpsets, ¬(ipset.cidrs.map FirewallIpsetCidrDecl.cidr).Nodup

/-- Two entries of one family, or two networks of one IP set, have the same
identity. -/
def ClusterState.SharesIdentity (state : ClusterState) : Prop :=
  (∃ family ∈ families, ¬((family.items state).map family.key).Nodup) ∨ state.RepeatsCidr

variable {crate : TomlCrate} {text : String} {raw : Toml}
variable {document : StateDocument} {state : ClusterState}

theorem sharesIdentity_iff :
    state.SharesIdentity ↔ ¬state.DistinctIdentities ∨ state.RepeatsCidr := by
  simp [ClusterState.SharesIdentity, ClusterState.DistinctIdentities]

theorem not_sharesIdentity (hdistinct : state.DistinctIdentities)
    (hipsets : state.firewallIpsets = []) : ¬state.SharesIdentity := by
  rw [sharesIdentity_iff]
  rintro (hshared | ⟨ipset, hipset, -⟩)
  · exact hshared hdistinct
  · simp [hipsets] at hipset

/-- Grants with distinct identities have distinct texts unless two of them look
alike. -/
theorem nodup_identityText_iff (hkeys : (state.acl.map AclDecl.key).Nodup) :
    (state.acl.map AclDecl.identityText).Nodup ↔ ¬state.LookalikeGrants := by
  rw [nodup_map_iff_inj_on (hkeys.of_map _)]
  constructor
  · rintro hinj ⟨one, hone, two, htwo, hne, hparts⟩
    have htext := AclDecl.identityText_eq_iff.mpr hparts
    exact hne (congrArg AclDecl.key (hinj one hone two htwo htext))
  · intro hnone one hone two htwo htext
    apply inj_on_of_nodup_map hkeys hone htwo
    by_contra hne
    exact hnone ⟨one, hone, two, htwo, hne, AclDecl.identityText_eq_iff.mp htext⟩

theorem validate_ne_ok_iff : state.validateUniqueIdentities ≠ .ok () ↔
    ¬state.DistinctIdentities ∨ state.LookalikeGrants := by
  rw [ne_eq, validateUniqueIdentities_eq_ok]
  by_cases hdistinct : state.DistinctIdentities
  · have hkeys : (state.acl.map AclDecl.key).Nodup := hdistinct .acl (by simp [families])
    simp [hdistinct, nodup_identityText_iff hkeys]
  · simp [hdistinct]

/-- The loader refuses a document for duplicates exactly if two entries share
an identity, as long as grants that look alike and networks that are repeated
occur together or not at all, or some family repeats an identity anyway. -/
theorem duplicate_refusal_exact_iff (crate : TomlCrate) (hraw : crate.fromStr text = .ok raw)
    (hdocument : StateDocument.ofToml raw = some document) :
    ((∃ reason, fromTomlStr crate text = .error (.duplicate reason)) ↔
        document.state.SharesIdentity) ↔
      ¬document.state.DistinctIdentities ∨
        (document.state.LookalikeGrants ↔ document.state.RepeatsCidr) := by
  rw [duplicate_iff_validate hraw hdocument, validate_ne_ok_iff, sharesIdentity_iff]
  by_cases hdistinct : document.state.DistinctIdentities <;> simp [hdistinct]

end Duplicates

namespace DuplicateWitness

/-- One IP set with one network twice. -/
def repeatedText : String :=
  "[[firewall_ipsets]]\nname = \"management\"\n\n" ++
    "[[firewall_ipsets.cidrs]]\ncidr = \"10.0.0.0/8\"\n\n" ++
    "[[firewall_ipsets.cidrs]]\ncidr = \"10.0.0.0/8\"\nnomatch = true\n"

def repeatedTree : Toml :=
  .table [("firewall_ipsets", .arr [.table [ ("name", .str "management"), ("cidrs", .arr [
      .table [("cidr", .str "10.0.0.0/8")],
      .table [("cidr", .str "10.0.0.0/8"), ("nomatch", .bool true)]])]])]

def repeatedDocument : StateDocument where
  header := none
  state := { firewallIpsets := [{
    name := "management"
    comment := ""
    cidrs := [
      { cidr := "10.0.0.0/8", comment := "", «nomatch» := false },
      { cidr := "10.0.0.0/8", comment := "", «nomatch» := true }] }] }

/-- Two users with one role each; a bar in the name of the first and in the
role of the second. -/
def lookalikeText : String :=
  "[[acl]]\npath = \"/\"\nkind = \"user\"\nugid = \"ops|admin\"\n" ++
    "roleid = \"Auditor\"\npropagate = true\n\n" ++
    "[[acl]]\npath = \"/\"\nkind = \"user\"\nugid = \"ops\"\n" ++
    "roleid = \"admin|Auditor\"\npropagate = true\n"

def grants : List AclDecl :=
  [{ path := "/", kind := "user", ugid := "ops|admin", roleid := "Auditor", propagate := true },
    { path := "/", kind := "user", ugid := "ops", roleid := "admin|Auditor", propagate := true }]

def lookalikeDocument : StateDocument where
  header := none
  state := { acl := grants }

/-- Reads the two texts. -/
def crate : TomlCrate where
  toStringPretty _ := .error "not used"
  fromStr text :=
    if text = repeatedText then .ok repeatedTree
    else if text = lookalikeText then .ok lookalikeDocument.toToml
    else .error "not used"

theorem fromStr_lookalikeText : crate.fromStr lookalikeText = .ok lookalikeDocument.toToml := by
  have hne : lookalikeText ≠ repeatedText := by decide +kernel
  simp [crate, hne]

theorem ofToml_lookalike : StateDocument.ofToml lookalikeDocument.toToml =
    some lookalikeDocument := by decide +kernel

theorem duplicate_refusal_exact_lookalike :
    crate.fromStr lookalikeText = .ok lookalikeDocument.toToml ∧
      StateDocument.ofToml lookalikeDocument.toToml = some lookalikeDocument ∧
      (((∃ reason, fromTomlStr crate lookalikeText = .error (.duplicate reason)) ↔
          lookalikeDocument.state.SharesIdentity) ↔
        ¬lookalikeDocument.state.DistinctIdentities ∨ (lookalikeDocument.state.LookalikeGrants ↔
            lookalikeDocument.state.RepeatsCidr)) :=
  ⟨fromStr_lookalikeText, ofToml_lookalike,
    duplicate_refusal_exact_iff crate fromStr_lookalikeText ofToml_lookalike⟩

/-- A network that is declared twice is accepted, two different grants are
refused. -/
theorem duplicate_check_diverges : repeatedDocument.state.SharesIdentity ∧
    (fromTomlStr crate repeatedText).toOption =
      some (repeatedDocument.recordDeclaredFamilies repeatedTree) ∧
    ¬lookalikeDocument.state.SharesIdentity ∧
    ∃ reason, fromTomlStr crate lookalikeText = .error (.duplicate reason) := by
  refine ⟨.inr ⟨_, mem_cons_self, by decide⟩, by decide +kernel, ?_, ?_⟩
  · exact not_sharesIdentity (by decide +kernel) rfl
  · rw [duplicate_iff_validate fromStr_lookalikeText ofToml_lookalike]
    decide +kernel

end DuplicateWitness

end Proxxx
