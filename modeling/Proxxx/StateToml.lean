/-
The records of a state document as TOML tables.  A record is written without
the fields that have the value a reader puts in their place, so that reading
gives back what was written.
-/
import Proxxx.ClusterState
import Proxxx.TomlTree

namespace Proxxx

open Toml

def defaultTrue : Bool := true

/-- The schema that is written and understood, and the one of a document that
does not name any. -/
def currentStateSchema : Nat := 1

def u32Limit : Nat := 2 ^ 32

/-- Where a state was exported from. -/
structure StateMeta where
  schemaVersion : Nat
  profile : String
  exportedAt : String
  exportedFromProxxx : String
  pveVersion : String
deriving Repr, DecidableEq

def StateMeta.toToml (header : StateMeta) : Toml :=
  .record [
    ("schema_version", some (.int header.schemaVersion)), ("profile", some (.str header.profile)),
    ("exported_at", some (.str header.exportedAt)),
    ("exported_from_proxxx", some (.str header.exportedFromProxxx)),
    ("pve_version", some (.str header.pveVersion))]

def StateMeta.ofToml (tree : Toml) : Option StateMeta := do
  let field ← fieldsOf ["schema_version", "profile", "exported_at",
    "exported_from_proxxx", "pve_version"] tree
  StateMeta.mk <$> readField currentStateSchema (readNumber u32Limit) (field "schema_version")
    <*> readField "" readText (field "profile")
    <*> readField "" readText (field "exported_at")
    <*> readField "" readText (field "exported_from_proxxx")
    <*> readField "" readText (field "pve_version")

theorem StateMeta.ofToml_toToml {header : StateMeta} (hversion : header.schemaVersion < u32Limit) :
    StateMeta.ofToml header.toToml = some header := by
  simp [StateMeta.ofToml, StateMeta.toToml, readNumber_int hversion]

def PoolDecl.toToml (pool : PoolDecl) : Toml :=
  .record [ ("poolid", some (.str pool.poolid)), ("comment", textUnlessEmpty pool.comment),
    ("members", listUnlessEmpty .str pool.members)]

def PoolDecl.ofToml (tree : Toml) : Option PoolDecl := do
  let field ← fieldsOf ["poolid", "comment", "members"] tree
  PoolDecl.mk <$> readField "" readText (field "poolid") <*> readField "" readText (field "comment")
    <*> readField [] (readList readText) (field "members")

theorem PoolDecl.ofToml_toToml (pool : PoolDecl) : PoolDecl.ofToml pool.toToml = some pool := by
  simp [PoolDecl.ofToml, PoolDecl.toToml]

def AclDecl.toToml (grant : AclDecl) : Toml :=
  .record [ ("path", some (.str grant.path)), ("kind", some (.str grant.kind)),
    ("ugid", some (.str grant.ugid)), ("roleid", some (.str grant.roleid)),
    ("propagate", some (.bool grant.propagate))]

def AclDecl.ofToml (tree : Toml) : Option AclDecl := do
  let field ← fieldsOf ["path", "kind", "ugid", "roleid", "propagate"] tree
  AclDecl.mk <$> readField "" readText (field "path") <*> readField "" readText (field "kind")
    <*> readField "" readText (field "ugid")
    <*> readField "" readText (field "roleid")
    <*> readField defaultTrue readFlag (field "propagate")

theorem AclDecl.ofToml_toToml (grant : AclDecl) : AclDecl.ofToml grant.toToml = some grant := by
  simp [AclDecl.ofToml, AclDecl.toToml]

def StorageDecl.toToml (storage : StorageDecl) : Toml :=
  .record [ ("storage", some (.str storage.storage)), ("type", some (.str storage.storageType)),
    ("content", some (.str storage.content)), ("nodes", textUnlessEmpty storage.nodes),
    ("disable", flagUnless false storage.disable), ("shared", flagUnless false storage.shared),
    ("path", textUnlessEmpty storage.path), ("pool", textUnlessEmpty storage.pool),
    ("server", textUnlessEmpty storage.server), ("export", textUnlessEmpty storage.«export»),
    ("datastore", textUnlessEmpty storage.datastore),
    ("fingerprint", textUnlessEmpty storage.fingerprint),
    ("username", textUnlessEmpty storage.username), ("vgname", textUnlessEmpty storage.vgname),
    ("thinpool", textUnlessEmpty storage.thinpool)]

def StorageDecl.ofToml (tree : Toml) : Option StorageDecl := do
  let field ← fieldsOf ["storage", "type", "content", "nodes", "disable",
    "shared", "path", "pool", "server", "export", "datastore", "fingerprint",
    "username", "vgname", "thinpool"] tree
  StorageDecl.mk <$> readField "" readText (field "storage")
    <*> readField "" readText (field "type")
    <*> readField "" readText (field "content")
    <*> readField "" readText (field "nodes")
    <*> readField false readFlag (field "disable")
    <*> readField false readFlag (field "shared")
    <*> readField "" readText (field "path")
    <*> readField "" readText (field "pool")
    <*> readField "" readText (field "server")
    <*> readField "" readText (field "export")
    <*> readField "" readText (field "datastore")
    <*> readField "" readText (field "fingerprint")
    <*> readField "" readText (field "username")
    <*> readField "" readText (field "vgname")
    <*> readField "" readText (field "thinpool")

theorem StorageDecl.ofToml_toToml (storage : StorageDecl) :
    StorageDecl.ofToml storage.toToml = some storage := by
  simp [StorageDecl.ofToml, StorageDecl.toToml]

def BackupJobDecl.toToml (job : BackupJobDecl) : Toml :=
  .record [ ("id", some (.str job.id)), ("schedule", some (.str job.schedule)),
    ("storage", some (.str job.storage)), ("mode", textUnlessEmpty job.mode),
    ("enabled", flagUnless true job.enabled), ("all", flagUnless false job.all),
    ("vmid", textUnlessEmpty job.vmid), ("node", textUnlessEmpty job.node),
    ("mailto", textUnlessEmpty job.mailto), ("compress", textUnlessEmpty job.compress),
    ("comment", textUnlessEmpty job.comment), ("notes_template", textUnlessEmpty job.notesTemplate),
    ("prune_backups", textUnlessEmpty job.pruneBackups)]

def BackupJobDecl.ofToml (tree : Toml) : Option BackupJobDecl := do
  let field ← fieldsOf ["id", "schedule", "storage", "mode", "enabled", "all",
    "vmid", "node", "mailto", "compress", "comment", "notes_template", "prune_backups"] tree
  BackupJobDecl.mk <$> readField "" readText (field "id")
    <*> readField "" readText (field "schedule")
    <*> readField "" readText (field "storage")
    <*> readField "" readText (field "mode")
    <*> readField defaultTrue readFlag (field "enabled")
    <*> readField false readFlag (field "all")
    <*> readField "" readText (field "vmid")
    <*> readField "" readText (field "node")
    <*> readField "" readText (field "mailto")
    <*> readField "" readText (field "compress")
    <*> readField "" readText (field "comment")
    <*> readField "" readText (field "notes_template")
    <*> readField "" readText (field "prune_backups")

theorem BackupJobDecl.ofToml_toToml (job : BackupJobDecl) :
    BackupJobDecl.ofToml job.toToml = some job := by
  simp [BackupJobDecl.ofToml, BackupJobDecl.toToml, defaultTrue]

def FirewallOptionsDecl.toToml (options : FirewallOptionsDecl) : Toml :=
  .record [ ("enable", options.enable.map .bool), ("policy_in", options.policyIn.map .str),
    ("policy_out", options.policyOut.map .str), ("policy_forward", options.policyForward.map .str),
    ("ebtables", options.ebtables.map .bool), ("log_ratelimit", options.logRatelimit.map .str)]

def FirewallOptionsDecl.ofToml (tree : Toml) : Option FirewallOptionsDecl := do
  let field ← fieldsOf ["enable", "policy_in", "policy_out", "policy_forward",
    "ebtables", "log_ratelimit"] tree
  FirewallOptionsDecl.mk <$> readOption readFlag (field "enable")
    <*> readOption readText (field "policy_in")
    <*> readOption readText (field "policy_out")
    <*> readOption readText (field "policy_forward")
    <*> readOption readFlag (field "ebtables")
    <*> readOption readText (field "log_ratelimit")

theorem FirewallOptionsDecl.ofToml_toToml (options : FirewallOptionsDecl) :
    FirewallOptionsDecl.ofToml options.toToml = some options := by
  simp [FirewallOptionsDecl.ofToml, FirewallOptionsDecl.toToml]

def FirewallAliasDecl.toToml (entry : FirewallAliasDecl) : Toml :=
  .record [ ("name", some (.str entry.name)), ("cidr", some (.str entry.cidr)),
    ("comment", textUnlessEmpty entry.comment)]

def FirewallAliasDecl.ofToml (tree : Toml) : Option FirewallAliasDecl := do
  let field ← fieldsOf ["name", "cidr", "comment"] tree
  FirewallAliasDecl.mk <$> readField "" readText (field "name")
    <*> readField "" readText (field "cidr")
    <*> readField "" readText (field "comment")

theorem FirewallAliasDecl.ofToml_toToml (entry : FirewallAliasDecl) :
    FirewallAliasDecl.ofToml entry.toToml = some entry := by
  simp [FirewallAliasDecl.ofToml, FirewallAliasDecl.toToml]

def FirewallIpsetCidrDecl.toToml (entry : FirewallIpsetCidrDecl) : Toml :=
  .record [ ("cidr", some (.str entry.cidr)), ("comment", textUnlessEmpty entry.comment),
    ("nomatch", flagUnless false entry.«nomatch»)]

def FirewallIpsetCidrDecl.ofToml (tree : Toml) : Option FirewallIpsetCidrDecl := do
  let field ← fieldsOf ["cidr", "comment", "nomatch"] tree
  FirewallIpsetCidrDecl.mk <$> readField "" readText (field "cidr")
    <*> readField "" readText (field "comment")
    <*> readField false readFlag (field "nomatch")

theorem FirewallIpsetCidrDecl.ofToml_toToml (entry : FirewallIpsetCidrDecl) :
    FirewallIpsetCidrDecl.ofToml entry.toToml = some entry := by
  simp [FirewallIpsetCidrDecl.ofToml, FirewallIpsetCidrDecl.toToml]

def FirewallIpsetDecl.toToml (ipset : FirewallIpsetDecl) : Toml :=
  .record [ ("name", some (.str ipset.name)), ("comment", textUnlessEmpty ipset.comment),
    ("cidrs", listUnlessEmpty FirewallIpsetCidrDecl.toToml ipset.cidrs)]

def FirewallIpsetDecl.ofToml (tree : Toml) : Option FirewallIpsetDecl := do
  let field ← fieldsOf ["name", "comment", "cidrs"] tree
  FirewallIpsetDecl.mk <$> readField "" readText (field "name")
    <*> readField "" readText (field "comment")
    <*> readField [] (readList FirewallIpsetCidrDecl.ofToml) (field "cidrs")

theorem FirewallIpsetDecl.ofToml_toToml (ipset : FirewallIpsetDecl) :
    FirewallIpsetDecl.ofToml ipset.toToml = some ipset := by
  have hcidrs := readField_listUnlessEmpty fun entry
      (_ : entry ∈ ipset.cidrs) => FirewallIpsetCidrDecl.ofToml_toToml entry
  simp [FirewallIpsetDecl.ofToml, FirewallIpsetDecl.toToml, hcidrs]

def FirewallGroupDecl.toToml (group : FirewallGroupDecl) : Toml :=
  .record [ ("group", some (.str group.group)), ("comment", textUnlessEmpty group.comment)]

def FirewallGroupDecl.ofToml (tree : Toml) : Option FirewallGroupDecl := do
  let field ← fieldsOf ["group", "comment"] tree
  FirewallGroupDecl.mk <$> readField "" readText (field "group")
    <*> readField "" readText (field "comment")

theorem FirewallGroupDecl.ofToml_toToml (group : FirewallGroupDecl) :
    FirewallGroupDecl.ofToml group.toToml = some group := by
  simp [FirewallGroupDecl.ofToml, FirewallGroupDecl.toToml]

def NotificationMatcherDecl.toToml (matcher : NotificationMatcherDecl) : Toml :=
  .record [ ("name", some (.str matcher.name)), ("comment", textUnlessEmpty matcher.comment),
    ("target", listUnlessEmpty .str matcher.target),
    ("match_field", listUnlessEmpty .str matcher.matchField),
    ("match_severity", listUnlessEmpty .str matcher.matchSeverity),
    ("mode", textUnlessEmpty matcher.mode), ("invert_match", flagUnless false matcher.invertMatch),
    ("disable", flagUnless false matcher.disable)]

def NotificationMatcherDecl.ofToml (tree : Toml) : Option NotificationMatcherDecl := do
  let field ← fieldsOf ["name", "comment", "target", "match_field",
    "match_severity", "mode", "invert_match", "disable"] tree
  NotificationMatcherDecl.mk <$> readField "" readText (field "name")
    <*> readField "" readText (field "comment")
    <*> readField [] (readList readText) (field "target")
    <*> readField [] (readList readText) (field "match_field")
    <*> readField [] (readList readText) (field "match_severity")
    <*> readField "" readText (field "mode")
    <*> readField false readFlag (field "invert_match")
    <*> readField false readFlag (field "disable")

theorem NotificationMatcherDecl.ofToml_toToml (matcher : NotificationMatcherDecl) :
    NotificationMatcherDecl.ofToml matcher.toToml = some matcher := by
  simp [NotificationMatcherDecl.ofToml, NotificationMatcherDecl.toToml]

def HaResourceDecl.toToml (resource : HaResourceDecl) : Toml :=
  .record [ ("sid", some (.str resource.sid)), ("state", textUnlessEmpty resource.state),
    ("max_restart", numberUnlessZero resource.maxRestart),
    ("max_relocate", numberUnlessZero resource.maxRelocate),
    ("failback", flagUnless true resource.failback),
    ("auto-rebalance", flagUnless true resource.autoRebalance),
    ("comment", textUnlessEmpty resource.comment)]

def HaResourceDecl.ofToml (tree : Toml) : Option HaResourceDecl := do
  let field ← fieldsOf ["sid", "state", "max_restart", "max_relocate",
    "failback", "auto-rebalance", "comment"] tree
  HaResourceDecl.mk <$> readField "" readText (field "sid")
    <*> readField "" readText (field "state")
    <*> readField 0 (readNumber u32Limit) (field "max_restart")
    <*> readField 0 (readNumber u32Limit) (field "max_relocate")
    <*> readField defaultTrue readFlag (field "failback")
    <*> readField defaultTrue readFlag (field "auto-rebalance")
    <*> readField "" readText (field "comment")

/-- The numbers are machine words. -/
def HaResourceDecl.Bounded (resource : HaResourceDecl) : Prop :=
  resource.maxRestart < u32Limit ∧ resource.maxRelocate < u32Limit

theorem HaResourceDecl.ofToml_toToml {resource : HaResourceDecl} (hbounded : resource.Bounded) :
    HaResourceDecl.ofToml resource.toToml = some resource := by
  obtain ⟨hrestart, hrelocate⟩ := hbounded
  simp [HaResourceDecl.ofToml, HaResourceDecl.toToml, defaultTrue, readField_numberUnlessZero hrestart,
    readField_numberUnlessZero hrelocate]

def HaRuleDecl.toToml (rule : HaRuleDecl) : Toml :=
  .record [ ("rule", some (.str rule.rule)), ("type", some (.str rule.ruleType)),
    ("resources", listUnlessEmpty .str rule.resources), ("comment", textUnlessEmpty rule.comment),
    ("disable", flagUnless false rule.disable), ("nodes", textUnlessEmpty rule.nodes),
    ("strict", flagUnless false rule.strict), ("affinity", textUnlessEmpty rule.affinity)]

def HaRuleDecl.ofToml (tree : Toml) : Option HaRuleDecl := do
  let field ← fieldsOf ["rule", "type", "resources", "comment", "disable",
    "nodes", "strict", "affinity"] tree
  HaRuleDecl.mk <$> readField "" readText (field "rule") <*> readField "" readText (field "type")
    <*> readField [] (readList readText) (field "resources")
    <*> readField "" readText (field "comment")
    <*> readField false readFlag (field "disable")
    <*> readField "" readText (field "nodes")
    <*> readField false readFlag (field "strict")
    <*> readField "" readText (field "affinity")

theorem HaRuleDecl.ofToml_toToml (rule : HaRuleDecl) :
    HaRuleDecl.ofToml rule.toToml = some rule := by
  simp [HaRuleDecl.ofToml, HaRuleDecl.toToml]

def MappingPciDecl.toToml (mapping : MappingPciDecl) : Toml :=
  .record [ ("id", some (.str mapping.id)), ("description", textUnlessEmpty mapping.description),
    ("mdev", flagUnless false mapping.mdev), ("map", listUnlessEmpty .str mapping.map)]

def MappingPciDecl.ofToml (tree : Toml) : Option MappingPciDecl := do
  let field ← fieldsOf ["id", "description", "mdev", "map"] tree
  MappingPciDecl.mk <$> readField "" readText (field "id")
    <*> readField "" readText (field "description")
    <*> readField false readFlag (field "mdev")
    <*> readField [] (readList readText) (field "map")

theorem MappingPciDecl.ofToml_toToml (mapping : MappingPciDecl) :
    MappingPciDecl.ofToml mapping.toToml = some mapping := by
  simp [MappingPciDecl.ofToml, MappingPciDecl.toToml]

def MappingUsbDecl.toToml (mapping : MappingUsbDecl) : Toml :=
  .record [ ("id", some (.str mapping.id)), ("description", textUnlessEmpty mapping.description),
    ("map", listUnlessEmpty .str mapping.map)]

def MappingUsbDecl.ofToml (tree : Toml) : Option MappingUsbDecl := do
  let field ← fieldsOf ["id", "description", "map"] tree
  MappingUsbDecl.mk <$> readField "" readText (field "id")
    <*> readField "" readText (field "description")
    <*> readField [] (readList readText) (field "map")

theorem MappingUsbDecl.ofToml_toToml (mapping : MappingUsbDecl) :
    MappingUsbDecl.ofToml mapping.toToml = some mapping := by
  simp [MappingUsbDecl.ofToml, MappingUsbDecl.toToml]

end Proxxx
