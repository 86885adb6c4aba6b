/-
The calls that carry the changes of a state document out: the parameters of
each update, and the order of the calls where one update takes several.  A
function that makes calls one after the other and stops at the first that fails
is given by the list of its calls.
-/
import Proxxx.StateDiff

namespace Proxxx

open KeyedDiff

/-- The body of a request, in the order its parameters were pushed. -/
abbrev Params := List (String × String)

/-- The calls of the write side, for the families whose updates are sent. -/
inductive WriteCall where
  | updatePool (poolid : String) (params : Params)
  | updateClusterStorage (storage : String) (params : Params)
  | updateBackupJob (id : String) (params : Params)
  | updateClusterFirewallAlias (name : String) (params : Params)
  | createClusterFirewallIpset (params : Params)
  | deleteClusterFirewallIpset (name : String)
  | addClusterFirewallIpsetCidr (name : String) (params : Params)
  | removeClusterFirewallIpsetCidr (name cidr : String)
  | updateNotificationMatcher (name : String) (params : Params)
  | updateHaRule (rule : String) (params : Params)
  | updateHaResource (sid : String) (params : Params)
deriving Repr, DecidableEq

section Parameters

def pushOptional (key value : String) : Params :=
  if value = "" then [] else [(key, value)]

def flagText (flag : Bool) : String :=
  if flag then "1" else "0"

/-- The `delete` parameters of the endpoints that want one for each field. -/
def deleteEach (names : List String) : Params :=
  names.map fun name => ("delete", name)

end Parameters

section Pools

/-- Split references into the guest ids and the storage names; others are
dropped. -/
def splitPoolMembers (members : List String) : String × String :=
  let vms := members.filterMap fun member =>
    (RustStr.stripPrefix member "qemu/").or (RustStr.stripPrefix member "lxc/")
  let storage := members.filterMap fun member =>
    match (RustStr.stripPrefix member "qemu/").or (RustStr.stripPrefix member "lxc/") with
    | some _ => none
    | none => RustStr.stripPrefix member "storage/"
  (RustStr.join vms ',', RustStr.join storage ',')

/-- What is in the first list and not in the second. -/
def membersDiff (one two : List String) : List String :=
  one.filter fun member => member ∉ two

def memberParams (members : List String) : Params :=
  let (vms, storage) := splitPoolMembers members
  pushOptional "vms" vms ++ pushOptional "storage" storage

def applyPoolUpdate (before after : PoolDecl) : List WriteCall :=
  let comment :=
    if before.comment ≠ after.comment then
      [.updatePool after.poolid [("comment", after.comment)]]
    else []
  let toRemove := membersDiff before.members after.members
  let toAdd := membersDiff after.members before.members
  let removal :=
    if toRemove = [] then []
    else [.updatePool after.poolid (("delete", "1") :: memberParams toRemove)]
  let addition :=
    if toAdd = [] then []
    else [.updatePool after.poolid (memberParams toAdd)]
  comment ++ removal ++ addition

end Pools

section Storages

/-- Lists with commas are compared as sets. -/
def sameText (isCsv : Bool) (before after : String) : Bool :=
  if isCsv then normalizeCsv before = normalizeCsv after
  else before = after

/-- What an update sends for a text field, and whether it lists the field to be
cleared. -/
def updateText (name before after : String) (isCsv : Bool) : Params × List String :=
  if sameText isCsv before after then ([], [])
  else if after = "" then ([], [name])
  else ([(name, after)], [])

def updateFlag (name : String) (before after : Bool) : Params × List String :=
  if before = after then ([], [])
  else if after then ([(name, "1")], [])
  else ([], [name])

/-- The fields that are fixed when a storage is created, where they differ. -/
def immutableChanges (before after : StorageDecl) : List String :=
  ([("type", before.storageType, after.storageType), ("path", before.path, after.path),
    ("export", before.export, after.export), ("datastore", before.datastore, after.datastore),
    ("vgname", before.vgname, after.vgname), ("thinpool", before.thinpool, after.thinpool)].filter
      fun field => field.2.1 ≠ field.2.2).map Prod.fst

/-- The fields that can be changed. -/
def storageFields (before after : StorageDecl) : List (Params × List String) :=
  [updateText "content" before.content after.content true,
    updateText "nodes" before.nodes after.nodes true,
    updateText "pool" before.pool after.pool false,
    updateText "server" before.server after.server false,
    updateText "fingerprint" before.fingerprint after.fingerprint false,
    updateText "username" before.username after.username false,
    updateFlag "disable" before.disable after.disable,
    updateFlag "shared" before.shared after.shared]

/-- What is sent for the fields, and behind it the list of those to be
cleared. -/
def fieldsBody (fields : List (Params × List String)) : Params :=
  let delete := fields.flatMap Prod.snd
  fields.flatMap Prod.fst ++ if delete = [] then [] else [("delete", RustStr.join delete ',')]

/-- The body that turns the one storage into the other, if anything that is
stored differs. -/
def storageUpdateParams (before after : StorageDecl) : Except String (Option Params) :=
  let immutable := immutableChanges before after
  if immutable ≠ [] then
    .error ("storage `" ++ after.storage ++ "`: " ++
      ", ".intercalate immutable ++ " cannot be changed in place (PVE " ++
      "fixes it when the storage is created); recreate the storage to " ++
      "change it")
  else
    let params := fieldsBody (storageFields before after)
    .ok (if params = [] then none else some params)

def applyStorageUpdate (before after : StorageDecl) : Except String (List WriteCall) := do
  match ← storageUpdateParams before after with
  | none => return []
  | some params => return [.updateClusterStorage after.storage params]

end Storages

section BackupJobs

/-- The id stands in the body of a creation only. -/
def backupJobParams (job : BackupJobDecl) (includeId : Bool) : Params :=
  (if includeId then [("id", job.id)] else []) ++
  pushOptional "schedule" job.schedule ++
  pushOptional "storage" job.storage ++
  pushOptional "mode" job.mode ++
  [("enabled", flagText job.enabled)] ++
  (if job.all then [("all", "1")] else pushOptional "vmid" job.vmid) ++
  pushOptional "node" job.node ++
  pushOptional "mailto" job.mailto ++
  pushOptional "compress" job.compress ++
  pushOptional "comment" job.comment ++
  pushOptional "notes-template" job.notesTemplate ++
  pushOptional "prune-backups" job.pruneBackups

def applyBackupjobUpdate (after : BackupJobDecl) : List WriteCall :=
  [.updateBackupJob after.id (backupJobParams after false)]

end BackupJobs

section Firewall

def fwAliasParams (entry : FirewallAliasDecl) (includeName : Bool) : Params :=
  (if includeName then [("name", entry.name)] else []) ++
  [("cidr", entry.cidr)] ++
  pushOptional "comment" entry.comment

def applyFwAliasUpdate (after : FirewallAliasDecl) : List WriteCall :=
  [.updateClusterFirewallAlias after.name (fwAliasParams after false)]

def fwCidrParams (entry : FirewallIpsetCidrDecl) : Params :=
  [("cidr", entry.cidr)] ++
  pushOptional "comment" entry.comment ++
  if entry.nomatch then [("nomatch", "1")] else []

/-- Create the set, then attach its networks. -/
def applyFwIpsetCreate (ipset : FirewallIpsetDecl) : List WriteCall :=
  .createClusterFirewallIpset (("name", ipset.name) :: pushOptional "comment" ipset.comment) ::
  ipset.cidrs.map fun entry =>
    .addClusterFirewallIpsetCidr ipset.name (fwCidrParams entry)

/-- The networks first: a set that has some cannot be deleted. -/
def applyFwIpsetDelete (ipset : FirewallIpsetDecl) : List WriteCall :=
  ipset.cidrs.map (fun entry =>
    .removeClusterFirewallIpsetCidr ipset.name entry.cidr) ++
  [.deleteClusterFirewallIpset ipset.name]

/-- A set cannot be updated: with another comment it is emptied, deleted and
created again.  Otherwise the networks that vanished or changed are removed
and those that are new or changed are added. -/
def applyFwIpsetUpdate (before after : FirewallIpsetDecl) : List WriteCall :=
  let remove (entry : FirewallIpsetCidrDecl) : WriteCall :=
    .removeClusterFirewallIpsetCidr before.name entry.cidr
  let add (entry : FirewallIpsetCidrDecl) : WriteCall :=
    .addClusterFirewallIpsetCidr after.name (fwCidrParams entry)
  if before.comment ≠ after.comment then
    before.cidrs.map remove ++
    [.deleteClusterFirewallIpset before.name, .createClusterFirewallIpset
        (("name", after.name) :: pushOptional "comment" after.comment)] ++
    after.cidrs.map add
  else
    (before.cidrs.filter fun entry =>
      lookup FirewallIpsetCidrDecl.cidr entry.cidr after.cidrs ≠ some entry).map remove ++
    (after.cidrs.filter fun entry =>
      lookup FirewallIpsetCidrDecl.cidr entry.cidr before.cidrs ≠ some entry).map add

/-- The calls of a change of a set, by its kind. -/
def applyFwIpset : Edit FirewallIpsetDecl → List WriteCall
  | .create after => applyFwIpsetCreate after
  | .update before after => applyFwIpsetUpdate before after
  | .delete before => applyFwIpsetDelete before

def applyFwIpsetChange (change : Change) : List WriteCall :=
  match Family.firewallIpsets.editOf change with
  | some edit => applyFwIpset edit
  | none => []

end Firewall

section Notifications

/-- The three lists go as repeated keys. -/
def notifMatcherParams (matcher : NotificationMatcherDecl) (includeName : Bool) : Params :=
  (if includeName then [("name", matcher.name)] else []) ++
  pushOptional "comment" matcher.comment ++
  matcher.target.map (fun target => ("target", target)) ++
  matcher.matchField.map (fun field => ("match-field", field)) ++
  matcher.matchSeverity.map (fun severity => ("match-severity", severity)) ++
  pushOptional "mode" matcher.mode ++
  [("invert-match", flagText matcher.invertMatch), ("disable", flagText matcher.disable)]

/-- The fields that are declared empty. -/
def notifMatcherCleared (matcher : NotificationMatcherDecl) : List String :=
  (if matcher.comment = "" then ["comment"] else []) ++
  (if matcher.target = [] then ["target"] else []) ++
  (if matcher.matchField = [] then ["match-field"] else []) ++
  (if matcher.matchSeverity = [] then ["match-severity"] else []) ++
  (if matcher.mode = "" then ["mode"] else [])

def applyNotifMatcherUpdate (after : NotificationMatcherDecl) : List WriteCall :=
  [.updateNotificationMatcher after.name (notifMatcherParams after false ++
      deleteEach (notifMatcherCleared after))]

end Notifications

section HighAvailability

/-- The type stands in every body, what belongs to one type only in its own. -/
def haRuleParams (rule : HaRuleDecl) (includeRuleId : Bool) : Params :=
  [("type", rule.ruleType)] ++
  (if includeRuleId then [("rule", rule.rule)] else []) ++
  (if rule.resources = [] then []
    else [("resources", RustStr.join rule.resources ',')]) ++
  pushOptional "comment" rule.comment ++
  [("disable", flagText rule.disable)] ++
  (if rule.ruleType = "node-affinity" then
    pushOptional "nodes" rule.nodes ++ [("strict", flagText rule.strict)]
    else []) ++
  (if rule.ruleType = "resource-affinity" then
    pushOptional "affinity" rule.affinity
    else [])

def haRuleCleared (rule : HaRuleDecl) : List String :=
  (if rule.comment = "" then ["comment"] else []) ++
  (if rule.resources = [] then ["resources"] else []) ++
  (if rule.ruleType = "node-affinity" ∧ rule.nodes = "" then ["nodes"]
    else []) ++
  (if rule.ruleType = "resource-affinity" ∧ rule.affinity = "" then
    ["affinity"] else [])

/-- The type of a rule cannot be changed. -/
def applyHaRuleUpdate (before : Option HaRuleDecl) (after : HaRuleDecl) :
    Except String (List WriteCall) :=
  let refused (before : HaRuleDecl) : Bool :=
    before.ruleType ≠ "" && after.ruleType ≠ "" && before.ruleType ≠ after.ruleType
  match before.filter refused with
  | some before =>
    .error ("HA rule '" ++ after.rule ++ "' type change (" ++
      before.ruleType ++ " -> " ++ after.ruleType ++ ") is not supported " ++
      "by PVE — delete + re-create the rule with the new type")
  | none =>
    .ok [.updateHaRule after.rule (haRuleParams after false ++ deleteEach (haRuleCleared after))]

/-- The two flags are sent where they are off, the numbers where they are not
zero. -/
def haResourceParams (resource : HaResourceDecl) (includeSid : Bool) : Params :=
  [("type", ((RustStr.splitOnce resource.sid ":").map Prod.fst).getD "")] ++
  (if includeSid then [("sid", resource.sid)] else []) ++
  pushOptional "state" resource.state ++
  (if resource.maxRestart > 0 then
    [("max_restart", toString resource.maxRestart)] else []) ++
  (if resource.maxRelocate > 0 then
    [("max_relocate", toString resource.maxRelocate)] else []) ++
  (if !resource.failback then [("failback", "0")] else []) ++
  (if !resource.autoRebalance then [("auto-rebalance", "0")] else []) ++
  pushOptional "comment" resource.comment

def haResourceCleared (resource : HaResourceDecl) : List String :=
  (if resource.state = "" then ["state"] else []) ++
  (if resource.comment = "" then ["comment"] else []) ++
  (if resource.maxRestart = 0 then ["max_restart"] else []) ++
  (if resource.maxRelocate = 0 then ["max_relocate"] else [])

def applyHaResourceUpdate (after : HaResourceDecl) : List WriteCall :=
  [.updateHaResource after.sid
    (haResourceParams after false ++ deleteEach (haResourceCleared after))]

end HighAvailability

end Proxxx
