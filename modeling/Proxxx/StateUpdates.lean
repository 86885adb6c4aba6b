/-
Whether an update settles: behind its calls, a fresh export does not differ
from the document in the updated entry.  For the families whose entries are
stored as objects with named fields this comes down to what one body leaves in
one object.
-/
import Proxxx.PveStore

namespace Proxxx

open FieldStore KeyedDiff

/-- The calls succeed, and behind them the difference between the document and
a fresh export has no change of the identity. -/
def PveStore.Settles {Item : Type} (store : PveStore) (other : StateReadView)
    (calls : List WriteCall) (exporter : StateReadView → Except ErrorChain (List Item))
    (differ : List Item → List Item → List Change) (declared : List Item)
    (identity : String) : Prop :=
  ∃ next live, store.run calls = .ok next ∧ exporter (next.view other) = .ok live ∧
    ∀ change ∈ differ declared live, change.identity ≠ identity

/-- The fresh export behind calls. -/
def PveStore.exportBehind {Item : Type} (store : PveStore)
    (other : StateReadView) (calls : List WriteCall)
    (exporter : StateReadView → Except ErrorChain (List Item)) : Except ErrorChain (List Item) := do
  let next ← (store.run calls).mapError ([·])
  exporter (next.view other)

theorem PveStore.not_settles_of_change {Item : Type} {store : PveStore}
    {other : StateReadView} {calls : List WriteCall}
    {exporter : StateReadView → Except ErrorChain (List Item)}
    {differ : List Item → List Item → List Change}
    {declared fresh : List Item} {change : Change}
    (hfresh : store.exportBehind other calls exporter = .ok fresh)
    (hchange : change ∈ differ declared fresh) :
    ¬store.Settles other calls exporter differ declared change.identity := by
  rintro ⟨next, live, hrun, hlive, hquiet⟩
  rw [exportBehind, hrun] at hfresh
  cases hlive.symm.trans hfresh
  exact hquiet change hchange rfl

/-- Nothing is configured. -/
def PveStore.blank : PveStore where
  guests := .empty
  pools := .empty
  storages := .empty
  backupJobs := .empty
  firewallAliases := .empty
  ipsets := .empty
  matchers := .empty
  haResources := .empty
  haRules := .empty
  plainNames := by simp [Collection.empty]

/-- A family whose entries are stored as objects with fields: where they are
stored, the call that sends a body to one, how one is read, and how the entries
are exported and compared. -/
structure StoredFamily (Item : Type) where
  collection : PveStore → Collection String StoredFields
  call : String → Params → WriteCall
  read : String → StoredFields → Item
  key : Item → String
  same : Item → Item → Bool
  changeOf : Edit Item → Change
  exporter : StateReadView → Except ErrorChain (List Item)
  differ : List Item → List Item → List Change
  changeOf_injective : Function.Injective changeOf
  identity_changeOf : ∀ edit, KeepsKey key edit →
    (changeOf edit).identity = edit.keyBy key := by
      intro edit hkeeps
      cases edit <;> first | rfl | exact hkeeps
  differ_eq : ∀ declared live,
    differ declared live = (edits key same declared live).map changeOf := by
      intros
      rfl
  perform_call : ∀ store name params fields,
    (collection store).get name = some fields →
    ∃ next, store.perform (call name params) = .ok next ∧
      collection next = (collection store).modify name (putFields params) := by
        intro store name params fields hfields
        exact ⟨_, by
          simp only [PveStore.perform, PveStore.putObject, hfields]
          rfl, rfl⟩
  exported : ∀ store other, ∃ live, exporter (store.view other) = .ok live ∧
    ∀ name, lookup key name live = ((collection store).get name).map (read name)

theorem Family.change_injective (family : Family) : Function.Injective family.change := by
  intro one two hsame
  have hedits := congrArg family.editOf hsame
  rw [Family.editOf_change, Family.editOf_change] at hedits
  exact Option.some.inj hedits

namespace StoredFamily

variable {Item : Type} {family : StoredFamily Item} {store next : PveStore}
variable {other : StateReadView} {calls : List WriteCall}
variable {declared live : List Item} {before after item : Item}

/-- An entry that both sides have is not reported exactly if the two are the
same. -/
theorem quiet_iff (hafter : lookup family.key (family.key after) declared = some after)
    (hitem : lookup family.key (family.key after) live = some item) :
    (∀ change ∈ family.differ declared live, change.identity ≠ family.key after) ↔
      family.same item after = true := by
  have hat : (∃ edit ∈ edits family.key family.same declared live,
      edit.keyBy family.key = family.key after) ↔ ¬family.same item after = true := by
    rw [exists_mem_edits_at, hafter, hitem]
    by_cases hsame : family.same item after = true <;> simp [expected, hsame]
  rw [← not_iff_not, ← hat, family.differ_eq]
  constructor
  · intro hreported
    obtain ⟨change, hchange, hidentity⟩ : ∃ change ∈ (edits family.key
        family.same declared live).map family.changeOf, change.identity = family.key after := by
      simpa using hreported
    obtain ⟨edit, hedit, rfl⟩ := List.mem_map.mp hchange
    rw [family.identity_changeOf edit (keepsKey_of_mem_edits hedit)] at hidentity
    exact ⟨edit, hedit, hidentity⟩
  · rintro ⟨edit, hedit, hkey⟩ hquiet
    apply hquiet (family.changeOf edit) (List.mem_map_of_mem hedit)
    rw [family.identity_changeOf edit (keepsKey_of_mem_edits hedit), hkey]

/-- What an update in the difference says about the two sides. -/
theorem lookup_of_update (hchange : family.changeOf (.update before after) ∈
      family.differ declared live) :
    lookup family.key (family.key after) declared = some after ∧
      lookup family.key (family.key after) live = some before := by
  rw [family.differ_eq] at hchange
  obtain ⟨edit, hedit, heq⟩ := List.mem_map.mp hchange
  obtain rfl := family.changeOf_injective heq
  have hkey : family.key after = family.key before := keepsKey_of_mem_edits hedit
  have hexpected := mem_edits.mp hedit
  rw [Edit.keyBy, ← hkey] at hexpected
  unfold expected at hexpected
  repeat' split at hexpected
  all_goals cases hexpected
  next hlive hdeclared hdiffer => exact ⟨hdeclared, hlive⟩

/-- The object behind an exported entry. -/
theorem stored_of_exported (hlive : family.exporter (store.view other) = .ok live)
    {name : String} (hbefore : lookup family.key name live = some before) :
    ∃ fields, (family.collection store).get name = some fields ∧
      family.read name fields = before := by
  obtain ⟨exported, hexported, hlookup⟩ := family.exported store other
  cases hexported.symm.trans hlive
  rw [hlookup] at hbefore
  exact Option.map_eq_some_iff.mp hbefore

/-- What a fresh export has behind a body that was sent to an entry's object. -/
theorem exported_of_call {name : String} {fields : StoredFields}
    (params : Params) (other : StateReadView)
    (hfields : (family.collection store).get name = some fields) :
    ∃ next fresh, store.run [family.call name params] = .ok next ∧
      family.exporter (next.view other) = .ok fresh ∧
      lookup family.key name fresh = some (family.read name (putFields params fields)) := by
  obtain ⟨next, hperform, hnext⟩ := family.perform_call store name params fields hfields
  obtain ⟨fresh, hfresh, hlookup⟩ := family.exported next other
  refine ⟨next, fresh, PveStore.run_singleton hperform, hfresh, ?_⟩
  rw [hlookup, hnext, Collection.get_modify, if_pos rfl, hfields]
  rfl

/-- Behind calls that succeed, an update has settled exactly if the fresh
export has a matching entry. -/
theorem settles_iff {fresh : List Item}
    (hafter : lookup family.key (family.key after) declared = some after)
    (hrun : store.run calls = .ok next)
    (hfresh : family.exporter (next.view other) = .ok fresh)
    (hitem : lookup family.key (family.key after) fresh = some item) :
    store.Settles other calls family.exporter family.differ declared (family.key after) ↔
      family.same item after = true := by
  rw [← quiet_iff hafter hitem]
  constructor
  · rintro ⟨last, exported, hlast, hexported, hquiet⟩
    cases hrun.symm.trans hlast
    cases hfresh.symm.trans hexported
    exact hquiet
  · exact fun hquiet => ⟨next, fresh, hrun, hfresh, hquiet⟩

/-- An update that is one body sent to the entry's object. -/
theorem update_settles_iff (params : Params) (hlive : family.exporter (store.view other) = .ok live)
    (hchange : family.changeOf (.update before after) ∈ family.differ declared live) :
    ∃ fields, before = family.read (family.key after) fields ∧
      (store.Settles other [family.call (family.key after) params]
          family.exporter family.differ declared (family.key after) ↔
        family.same (family.read (family.key after) (putFields params fields)) after = true) := by
  obtain ⟨hafter, hbefore⟩ := lookup_of_update hchange
  obtain ⟨fields, hfields, hread⟩ := stored_of_exported hlive hbefore
  obtain ⟨next, fresh, hrun, hfresh, hitem⟩ := exported_of_call params other hfields
  exact ⟨fields, hread.symm, settles_iff hafter hrun hfresh hitem⟩

end StoredFamily

section Families

/-- The comparison of the families that are compared as a whole. -/
def sameRecord {Item : Type} [DecidableEq Item] (live declared : Item) : Bool :=
  live = declared

theorem sameRecord_iff {Item : Type} [DecidableEq Item] {live declared : Item} :
    sameRecord live declared = true ↔ live = declared := by simp [sameRecord]

def storedAliases : StoredFamily FirewallAliasDecl where
  collection := PveStore.firewallAliases
  call := .updateClusterFirewallAlias
  read := readAlias
  key := FirewallAliasDecl.name
  same := sameRecord
  changeOf := Family.firewallAliases.change
  exporter := exportFirewallAliases
  differ := diffFirewallAliases
  changeOf_injective := Family.change_injective _
  exported _ _ := ⟨_, rfl, fun _ => PveStore.lookup_sorted fun _ _ => rfl⟩

def storedBackupJobs : StoredFamily BackupJobDecl where
  collection := PveStore.backupJobs
  call := .updateBackupJob
  read := readBackupJob
  key := BackupJobDecl.id
  same := sameRecord
  changeOf := Family.backupJobs.change
  exporter := exportBackupJobs
  differ := diffBackupJobs
  changeOf_injective := Family.change_injective _
  exported _ _ := ⟨_, rfl, fun _ => PveStore.lookup_sorted fun _ _ => rfl⟩

/-- A storage as the exporter projects it. -/
def exportedStorage (name : String) (fields : StoredFields) : StorageDecl :=
  let storage := readStorage name fields
  { storage with
    content := normalizeCsv storage.content, nodes := normalizeCsv storage.nodes }

def storedStorages : StoredFamily StorageDecl where
  collection := PveStore.storages
  call := .updateClusterStorage
  read := exportedStorage
  key := StorageDecl.storage
  same := storageMatches
  changeOf := Family.storage.change
  exporter := exportStorage
  differ := diffStorage
  changeOf_injective := Family.change_injective _
  exported _ _ := ⟨_, rfl, fun _ => PveStore.lookup_projected (fun _ _ => rfl) fun _ => rfl⟩

/-- A matcher as the exporter projects it. -/
def exportedMatcher (name : String) (fields : StoredFields) : NotificationMatcherDecl :=
  let matcher := readMatcher name fields
  { matcher with
    target := sortTexts matcher.target, matchField := sortTexts matcher.matchField
    matchSeverity := sortTexts matcher.matchSeverity }

def storedMatchers : StoredFamily NotificationMatcherDecl where
  collection := PveStore.matchers
  call := .updateNotificationMatcher
  read := exportedMatcher
  key := NotificationMatcherDecl.name
  same := sameRecord
  changeOf := Family.notificationMatchers.change
  exporter := exportNotificationMatchers
  differ := diffNotificationMatchers
  changeOf_injective := Family.change_injective _
  exported _ _ := ⟨_, rfl, fun _ => PveStore.lookup_projected (fun _ _ => rfl) fun _ => rfl⟩

/-- An HA resource as the exporter projects it. -/
def exportedHaResource (sid : String) (fields : StoredFields) : HaResourceDecl :=
  let resource := readHaResource sid fields
  { sid := sid, state := resource.state, maxRestart := resource.maxRestart.toNat
    maxRelocate := resource.maxRelocate.toNat, failback := true, autoRebalance := true
    comment := resource.comment }

def storedHaResources : StoredFamily HaResourceDecl where
  collection := PveStore.haResources
  call := .updateHaResource
  read := exportedHaResource
  key := HaResourceDecl.sid
  same := sameRecord
  changeOf := Family.haResources.change
  exporter := exportHaResources
  differ := diffHaResources
  changeOf_injective := Family.change_injective _
  exported _ _ := ⟨_, rfl, fun _ => PveStore.lookup_projected (fun _ _ => rfl) fun _ => rfl⟩

/-- The resources of a rule, as the exporter lists them. -/
def exportedResources (resources : String) : List String :=
  (sortTexts (((RustStr.split resources ',').map RustStr.trim).filter (· ≠ ""))).destutter (· ≠ ·)

/-- An HA rule as the exporter projects it. -/
def exportedHaRule (name : String) (fields : StoredFields) : HaRuleDecl :=
  let rule := readHaRule name fields
  { rule := name, ruleType := rule.ruleType, resources := exportedResources rule.resources
    comment := rule.comment, disable := rule.disable, nodes := rule.nodes, strict := rule.strict
    affinity := rule.affinity }

def storedHaRules : StoredFamily HaRuleDecl where
  collection := PveStore.haRules
  call := .updateHaRule
  read := exportedHaRule
  key := HaRuleDecl.rule
  same := sameRecord
  changeOf := Family.haRules.change
  exporter := exportHaRules
  differ := diffHaRules
  changeOf_injective := Family.change_injective _
  exported _ _ := ⟨_, rfl, fun _ => PveStore.lookup_projected (fun _ _ => rfl) fun _ => rfl⟩

end Families

end Proxxx
