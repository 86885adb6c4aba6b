/-
Updates of backup jobs, firewall aliases, notification matchers and HA
resources: exactly when the cluster is left as the document declares.
-/
import Proxxx.StateUpdates

namespace Proxxx

open FieldStore KeyedDiff List

/-- The value of a text that is only sent if it is not empty. -/
def keptText (before after : String) : String :=
  if after = "" then before else after

/-- It arrives unless it had to replace another by nothing. -/
theorem keptText_eq_iff {before after : String} :
    keptText before after = after ↔ (after = "" → before = "") := by
  by_cases hafter : after = "" <;> simp [keptText, hafter]

section Aliases

theorem putFields_fwAlias {after : FirewallAliasDecl} {fields : StoredFields} :
    readAlias after.name (putFields (fwAliasParams after false) fields) = { after with
        comment := keptText (storedText "comment" fields) after.comment } := by
  have hcidr : storedText "cidr" (putFields (fwAliasParams after false) fields) = after.cidr :=
    storedText_set (by simp [fwAliasParams])
  have hcomment : storedText "comment" (putFields (fwAliasParams after false) fields) =
        keptText (storedText "comment" fields) after.comment :=
    storedText_optional (by simp [fwAliasParams]) (by simp [fwAliasParams, listed_eq_nil])
  rw [readAlias, hcidr, hcomment]

/-- An alias is left as declared unless its comment had to be cleared: an empty
comment is neither sent nor listed to be deleted. -/
theorem fw_alias_update_settles_iff (store : PveStore) (other : StateReadView)
    (declared live : List FirewallAliasDecl) (before after : FirewallAliasDecl)
    (hlive : exportFirewallAliases (store.view other) = .ok live)
    (hchange : Family.firewallAliases.change (.update before after) ∈
      diffFirewallAliases declared live) :
    store.Settles other (applyFwAliasUpdate after) exportFirewallAliases
        diffFirewallAliases declared after.name ↔
      (after.comment = "" → before.comment = "") := by
  obtain ⟨fields, hbefore, hsettles⟩ : ∃ fields, before = readAlias after.name fields ∧
      (store.Settles other (applyFwAliasUpdate after) exportFirewallAliases
          diffFirewallAliases declared after.name ↔
        sameRecord (readAlias after.name
          (putFields (fwAliasParams after false) fields)) after = true) :=
    storedAliases.update_settles_iff _ hlive hchange
  have hcomment : before.comment = storedText "comment" fields := by rw [hbefore, readAlias]
  rw [hsettles, sameRecord_iff, putFields_fwAlias, ← hcomment, ← keptText_eq_iff]
  cases after
  simp

end Aliases

namespace AliasWitness

def store : PveStore :=
  { PveStore.blank with
    firewallAliases :=
      ⟨[("lan", [("cidr", "10.0.0.0/24"), ("comment", "office")])], by decide⟩ }

def live : FirewallAliasDecl :=
  { name := "lan", cidr := "10.0.0.0/24", comment := "office" }

def moved : FirewallAliasDecl := { live with cidr := "10.1.0.0/24" }

def cleared : FirewallAliasDecl := { live with comment := "" }

theorem fw_alias_update_settles_moved : store.Settles ExportWitness.view (applyFwAliasUpdate moved)
    exportFirewallAliases diffFirewallAliases [moved] "lan" :=
  (fw_alias_update_settles_iff store ExportWitness.view [moved] [live] live
    moved (by decide +kernel) (by decide +kernel)).mpr (by decide)

/-- The comment is still there, and reported again. -/
theorem fw_alias_update_leaves_comment :
    exportFirewallAliases (store.view ExportWitness.view) = .ok [live] ∧
    diffFirewallAliases [cleared] [live] = [Family.firewallAliases.change (.update live cleared)] ∧
    ¬store.Settles ExportWitness.view (applyFwAliasUpdate cleared)
      exportFirewallAliases diffFirewallAliases [cleared] "lan" := by
  have hfresh : store.exportBehind ExportWitness.view
      (applyFwAliasUpdate cleared) exportFirewallAliases = .ok [live] := by decide +kernel
  have hagain : Family.firewallAliases.change (.update live cleared) ∈
      diffFirewallAliases [cleared] [live] := by decide +kernel
  exact ⟨by decide +kernel, by decide +kernel, PveStore.not_settles_of_change hfresh hagain⟩

end AliasWitness

section BackupJobs

/-- The texts of a job that are sent if they are not empty. -/
def BackupJobDecl.optionalTexts : List (BackupJobDecl → String) :=
  [BackupJobDecl.schedule, BackupJobDecl.storage, BackupJobDecl.mode,
    BackupJobDecl.node, BackupJobDecl.mailto, BackupJobDecl.compress,
    BackupJobDecl.comment, BackupJobDecl.notesTemplate, BackupJobDecl.pruneBackups]

/-- No text has to be cleared, and the selection is not switched: a job for all
guests keeps the list it has, a job for listed guests was not for all. -/
structure BackupJobDecl.NothingToClear (before after : BackupJobDecl) : Prop where
  texts : ∀ text ∈ BackupJobDecl.optionalTexts, text after = "" → text before = ""
  listed : after.all = true → after.vmid = before.vmid
  all : after.all = false → before.all = false ∧ (after.vmid = "" → before.vmid = "")

theorem putFields_backupJob {after : BackupJobDecl} {fields : StoredFields} :
    let before := readBackupJob after.id fields
    readBackupJob after.id (putFields (backupJobParams after false) fields) =
      { id := after.id, schedule := keptText before.schedule after.schedule
        storage := keptText before.storage after.storage, mode := keptText before.mode after.mode
        enabled := after.enabled, all := after.all || before.all
        vmid := if after.all then before.vmid
          else keptText before.vmid after.vmid
        node := keptText before.node after.node, mailto := keptText before.mailto after.mailto
        compress := keptText before.compress after.compress
        comment := keptText before.comment after.comment
        notesTemplate := keptText before.notesTemplate after.notesTemplate
        pruneBackups := keptText before.pruneBackups after.pruneBackups } := by
  intro before
  have hlisted : listed "delete" (backupJobParams after false) = [] :=
    listed_eq_nil (by simp [backupJobParams])
  have htext (name value : String) (hname : name ≠ "delete")
      (hparams : values name (backupJobParams after false) = if value = "" then [] else [value]) :
      storedText name (putFields (backupJobParams after false) fields) =
        keptText (storedText name fields) value :=
    storedText_optional hparams (by simp [hlisted]) hname
  have hall : storedFlag "all" (putFields (backupJobParams after false)
      fields) = (after.all || before.all) := by
    cases hafter : after.all with
    | true => exact storedFlag_set (by simp [backupJobParams, hafter, flagText])
    | false =>
      rw [storedFlag, values_kept (by simp [backupJobParams, hafter]) (by simp [hlisted])]
      rfl
  have hvmid : storedText "vmid" (putFields (backupJobParams after false)
      fields) = if after.all then before.vmid
        else keptText before.vmid after.vmid := by
    cases hafter : after.all with
    | true =>
      rw [storedText, values_kept (by simp [backupJobParams, hafter]) (by simp [hlisted])]
      rfl
    | false => exact htext "vmid" after.vmid (by simp) (by simp [backupJobParams, hafter])
  simp only [readBackupJob, BackupJobDecl.mk.injEq, true_and]
  refine ⟨?_, ?_, ?_, storedFlag_set (by simp [backupJobParams]), hall, hvmid, ?_, ?_, ?_, ?_, ?_, ?_⟩
  all_goals exact htext _ _ (by simp) (by simp [backupJobParams])

theorem nothingToClear_iff {before after : BackupJobDecl} :
    before.NothingToClear after ↔ (∀ text ∈ BackupJobDecl.optionalTexts,
        keptText (text before) (text after) = text after) ∧
      (after.all || before.all) = after.all ∧
      (if after.all then before.vmid else keptText before.vmid after.vmid) = after.vmid := by
  constructor
  · rintro ⟨htexts, hlisted, hall⟩
    refine ⟨fun text htext => keptText_eq_iff.mpr (htexts text htext), ?_⟩
    cases hafter : after.all with
    | true => exact ⟨rfl, (hlisted hafter).symm⟩
    | false =>
      obtain ⟨hbefore, hvmid⟩ := hall hafter
      exact ⟨hbefore, keptText_eq_iff.mpr hvmid⟩
  · rintro ⟨htexts, hall, hvmid⟩
    refine ⟨fun text htext => keptText_eq_iff.mp (htexts text htext), ?_, ?_⟩
    · intro hafter
      rw [if_pos hafter] at hvmid
      exact hvmid.symm
    · intro hafter
      rw [hafter] at hall hvmid
      exact ⟨hall, keptText_eq_iff.mp hvmid⟩

/-- A job is left as declared exactly if nothing of it had to be cleared. -/
theorem backupjob_update_settles_iff (store : PveStore) (other : StateReadView)
    (declared live : List BackupJobDecl) (before after : BackupJobDecl)
    (hlive : exportBackupJobs (store.view other) = .ok live)
    (hchange : Family.backupJobs.change (.update before after) ∈ diffBackupJobs declared live) :
    store.Settles other (applyBackupjobUpdate after) exportBackupJobs
        diffBackupJobs declared after.id ↔
      before.NothingToClear after := by
  obtain ⟨fields, hbefore, hsettles⟩ : ∃ fields, before = readBackupJob after.id fields ∧
      (store.Settles other (applyBackupjobUpdate after) exportBackupJobs
          diffBackupJobs declared after.id ↔
        sameRecord (readBackupJob after.id
          (putFields (backupJobParams after false) fields)) after = true) :=
    storedBackupJobs.update_settles_iff _ hlive hchange
  rw [hsettles, sameRecord_iff, putFields_backupJob, ← hbefore, nothingToClear_iff]
  cases after
  simp only [BackupJobDecl.mk.injEq, BackupJobDecl.optionalTexts,
    forall_mem_cons, not_mem_nil, true_and]
  tauto

end BackupJobs

namespace JobWitness

def store : PveStore :=
  { PveStore.blank with
    backupJobs := ⟨[("nightly", [("schedule", "02:00"), ("storage", "nas"),
      ("mode", "snapshot"), ("enabled", "1"), ("all", "1"),
      ("mailto", "ops@example.org")])], by decide⟩ }

def live : BackupJobDecl where
  id := "nightly"
  schedule := "02:00"
  storage := "nas"
  mode := "snapshot"
  enabled := true
  all := true
  vmid := ""
  node := ""
  mailto := "ops@example.org"
  compress := ""
  comment := ""
  notesTemplate := ""
  pruneBackups := ""

def later : BackupJobDecl := { live with schedule := "03:30" }

def unmailed : BackupJobDecl := { live with mailto := "" }

/-- For one guest instead of all. -/
def selected : BackupJobDecl := { live with all := false, vmid := "100" }

theorem backupjob_update_settles_later :
    store.Settles ExportWitness.view (applyBackupjobUpdate later)
      exportBackupJobs diffBackupJobs [later] "nightly" := by
  have hclear : live.NothingToClear later := ⟨by decide, by decide, by decide⟩
  exact (backupjob_update_settles_iff store ExportWitness.view [later] [live]
    live later (by decide +kernel) (by decide +kernel)).mpr hclear

/-- A cleared address stays, and so does the selection of all guests. -/
theorem backupjob_update_leaves_fields :
    exportBackupJobs (store.view ExportWitness.view) = .ok [live] ∧
    (∀ after ∈ [unmailed, selected], diffBackupJobs [after] [live] =
        [Family.backupJobs.change (.update live after)]) ∧
    ∀ after ∈ [unmailed, selected], ¬store.Settles ExportWitness.view (applyBackupjobUpdate after)
        exportBackupJobs diffBackupJobs [after] "nightly" := by
  have hunmailed : store.exportBehind ExportWitness.view
      (applyBackupjobUpdate unmailed) exportBackupJobs = .ok [live] := by decide +kernel
  have hselected : store.exportBehind ExportWitness.view
      (applyBackupjobUpdate selected) exportBackupJobs = .ok [{ live with vmid := "100" }] := by
    decide +kernel
  have hmailed : Family.backupJobs.change (.update live unmailed) ∈
      diffBackupJobs [unmailed] [live] := by decide +kernel
  have hall : Family.backupJobs.change (.update { live with vmid := "100" } selected) ∈
        diffBackupJobs [selected] [{ live with vmid := "100" }] := by decide +kernel
  refine ⟨by decide +kernel, by decide +kernel, ?_⟩
  simp only [forall_mem_cons, not_mem_nil, false_imp_iff, implies_true, and_true]
  exact ⟨PveStore.not_settles_of_change hunmailed hmailed,
    PveStore.not_settles_of_change hselected hall⟩

end JobWitness

section Matchers

/-- The same matcher, with its lists in any order. -/
structure NotificationMatcherDecl.SameUpToOrder (one two : NotificationMatcherDecl) : Prop where
  others : two = { one with
    target := two.target, matchField := two.matchField, matchSeverity := two.matchSeverity }
  target : one.target.Perm two.target
  matchField : one.matchField.Perm two.matchField
  matchSeverity : one.matchSeverity.Perm two.matchSeverity

/-- What an update of a matcher sends. -/
def notifMatcherBody (after : NotificationMatcherDecl) : Params :=
  notifMatcherParams after false ++ deleteEach (notifMatcherCleared after)

variable {after : NotificationMatcherDecl}

theorem listed_notifMatcher :
    listed "delete" (notifMatcherBody after) = notifMatcherCleared after := by
  apply listed_of_plain
  · simp [notifMatcherBody, notifMatcherParams, values_map_pair]
  · simp [notifMatcherCleared, or_imp, forall_and]

theorem putFields_notifMatcher {fields : StoredFields} :
    exportedMatcher after.name (putFields (notifMatcherBody after) fields) = { after with
        target := sortTexts after.target, matchField := sortTexts after.matchField
        matchSeverity := sortTexts after.matchSeverity
        invertMatch := storedFlag "invert_match" fields } := by
  have hlist (name : String) (list : List String) (hname : name ≠ "delete")
      (hparams : values name (notifMatcherBody after) = list)
      (hcleared : list = [] → name ∈ notifMatcherCleared after) :
      values name (putFields (notifMatcherBody after) fields) = list :=
    values_set hparams (by rwa [listed_notifMatcher]) hname
  have htarget := hlist "target" after.target (by simp)
    (by simp [notifMatcherBody, notifMatcherParams, values_map_pair])
    (by simp +contextual [notifMatcherCleared])
  have hfield := hlist "match-field" after.matchField (by simp)
    (by simp [notifMatcherBody, notifMatcherParams, values_map_pair])
    (by simp +contextual [notifMatcherCleared])
  have hseverity := hlist "match-severity" after.matchSeverity (by simp)
    (by simp [notifMatcherBody, notifMatcherParams, values_map_pair])
    (by simp +contextual [notifMatcherCleared])
  have hcomment : storedText "comment" (putFields (notifMatcherBody after)
      fields) = after.comment :=
    storedText_cleared (by simp [notifMatcherBody, notifMatcherParams, values_map_pair])
      (by simp +contextual [listed_notifMatcher, notifMatcherCleared])
  have hmode : storedText "mode" (putFields (notifMatcherBody after) fields) = after.mode :=
    storedText_cleared (by simp [notifMatcherBody, notifMatcherParams, values_map_pair])
      (by simp +contextual [listed_notifMatcher, notifMatcherCleared])
  have hdisable : storedFlag "disable" (putFields (notifMatcherBody after)
      fields) = after.disable :=
    storedFlag_set (by simp [notifMatcherBody, notifMatcherParams, values_map_pair])
  -- the inversion is sent under another name than it is read from
  have hinvert : storedFlag "invert_match" (putFields
      (notifMatcherBody after) fields) = storedFlag "invert_match" fields := by
    rw [storedFlag, values_kept (by simp [notifMatcherBody, notifMatcherParams, values_map_pair])
      (by simp [listed_notifMatcher, notifMatcherCleared])]
    rfl
  simp only [exportedMatcher, readMatcher, htarget, hfield, hseverity,
    hcomment, hmode, hdisable, hinvert]

/-- A body clears no field that it sets. -/
def ClearsNothingSet (params : Params) : Prop :=
  ∀ name ∈ listed "delete" params, values name params = []

theorem clearsNothingSet_notifMatcher : ClearsNothingSet (notifMatcherBody after) := by
  rw [ClearsNothingSet, listed_notifMatcher]
  simp [notifMatcherCleared, notifMatcherBody, notifMatcherParams, or_imp,
    forall_and, values_map_pair]

theorem sameUpToOrder_sorted {inverted : Bool} : { after with
      target := sortTexts after.target, matchField := sortTexts after.matchField
      matchSeverity := sortTexts after.matchSeverity
      invertMatch := inverted }.SameUpToOrder after ↔ after.invertMatch = inverted := by
  constructor
  · intro hsame
    exact congrArg NotificationMatcherDecl.invertMatch hsame.others
  · rintro rfl
    exact ⟨rfl, perm_insertionSort _ _, perm_insertionSort _ _, perm_insertionSort _ _⟩

/-- The update of a matcher makes a fresh export equal to the declaration, up
to the order of the lists, exactly if it leaves the inversion as it is read. -/
theorem notif_matcher_update_arrives_iff (store : PveStore)
    (other : StateReadView) (declared live : List NotificationMatcherDecl)
    (before after : NotificationMatcherDecl)
    (hlive : exportNotificationMatchers (store.view other) = .ok live)
    (hchange : Family.notificationMatchers.change (.update before after) ∈
      diffNotificationMatchers declared live) :
    ((∃ next fresh matcher, store.run (applyNotifMatcherUpdate after) = .ok next ∧
        exportNotificationMatchers (next.view other) = .ok fresh ∧
        lookup NotificationMatcherDecl.name after.name fresh = some matcher ∧
        matcher.SameUpToOrder after) ∧
      ∀ params, .updateNotificationMatcher after.name params ∈
        applyNotifMatcherUpdate after → ClearsNothingSet params) ↔
      after.invertMatch = before.invertMatch := by
  obtain ⟨-, hlooked⟩ : lookup NotificationMatcherDecl.name after.name declared = some after ∧
        lookup NotificationMatcherDecl.name after.name live = some before :=
    storedMatchers.lookup_of_update hchange
  obtain ⟨fields, hfields, hread⟩ : ∃ fields, store.matchers.get after.name = some fields ∧
        exportedMatcher after.name fields = before :=
    storedMatchers.stored_of_exported hlive hlooked
  obtain ⟨next, fresh, hrun, hfresh, hitem⟩ : ∃ next fresh,
      store.run (applyNotifMatcherUpdate after) = .ok next ∧
      exportNotificationMatchers (next.view other) = .ok fresh ∧
      lookup NotificationMatcherDecl.name after.name fresh =
        some (exportedMatcher after.name (putFields (notifMatcherBody after) fields)) :=
    storedMatchers.exported_of_call (notifMatcherBody after) other hfields
  have hinverted : before.invertMatch = storedFlag "invert_match" fields := by
    rw [← hread]
    rfl
  rw [putFields_notifMatcher, ← hinverted] at hitem
  constructor
  · rintro ⟨⟨last, exported, matcher, hlast, hexported, hmatcher, hsame⟩, -⟩
    cases hrun.symm.trans hlast
    cases hfresh.symm.trans hexported
    cases hitem.symm.trans hmatcher
    exact sameUpToOrder_sorted.mp hsame
  · intro hinvert
    refine ⟨⟨next, fresh, _, hrun, hfresh, hitem, sameUpToOrder_sorted.mpr hinvert⟩, ?_⟩
    intro params hparams
    obtain rfl : params = notifMatcherBody after := by
      simpa [applyNotifMatcherUpdate, notifMatcherBody] using hparams
    exact clearsNothingSet_notifMatcher

end Matchers

namespace MatcherWitness

def store : PveStore :=
  { PveStore.blank with
    matchers := ⟨[("alerts", [("target", "mail"), ("target", "chat"),
      ("mode", "all"), ("comment", "all hands")])], by decide⟩ }

def live : NotificationMatcherDecl where
  name := "alerts"
  comment := "all hands"
  target := ["chat", "mail"]
  matchField := []
  matchSeverity := []
  mode := "all"
  invertMatch := false
  disable := false

/-- Without a comment, with a filter, and its targets in another order. -/
def narrowed : NotificationMatcherDecl :=
  { live with
    comment := "", target := ["mail", "chat"], matchSeverity := ["warning", "error"] }

def inverted : NotificationMatcherDecl := { live with invertMatch := true }

theorem notif_matcher_update_arrives_narrowed : (∃ next fresh matcher,
      store.run (applyNotifMatcherUpdate narrowed) = .ok next ∧
      exportNotificationMatchers (next.view ExportWitness.view) = .ok fresh ∧
      lookup NotificationMatcherDecl.name "alerts" fresh = some matcher ∧
      matcher.SameUpToOrder narrowed) ∧
    ∀ params, .updateNotificationMatcher "alerts" params ∈
      applyNotifMatcherUpdate narrowed → ClearsNothingSet params :=
  (notif_matcher_update_arrives_iff store ExportWitness.view [narrowed] [live]
    live narrowed (by decide +kernel) (by decide +kernel)).mpr rfl

/-- The inversion is sent and not read back. -/
theorem notif_matcher_update_loses_inversion :
    exportNotificationMatchers (store.view ExportWitness.view) = .ok [live] ∧
    diffNotificationMatchers [inverted] [live] =
      [Family.notificationMatchers.change (.update live inverted)] ∧
    store.exportBehind ExportWitness.view (applyNotifMatcherUpdate inverted)
      exportNotificationMatchers = .ok [live] ∧
    ¬live.SameUpToOrder inverted := by
  refine ⟨by decide +kernel, by decide +kernel, by decide +kernel, ?_⟩
  intro hsame
  cases hsame.others

end MatcherWitness


section HaResources

/-- What an update of an HA resource sends. -/
def haResourceBody (after : HaResourceDecl) : Params :=
  haResourceParams after false ++ deleteEach (haResourceCleared after)

theorem listed_haResource {after : HaResourceDecl} :
    listed "delete" (haResourceBody after) = haResourceCleared after := by
  apply listed_of_plain
  · simp [haResourceBody, haResourceParams]
  · simp [haResourceCleared, or_imp, forall_and]

/-- What is exported behind the update: the two flags are taken to be on. -/
theorem putFields_haResource {after : HaResourceDecl} {fields : StoredFields}
    (hbounded : after.Bounded) :
    exportedHaResource after.sid (putFields (haResourceBody after) fields) =
      { after with failback := true, autoRebalance := true } := by
  obtain ⟨hrestart, hrelocate⟩ := hbounded
  have hstate : storedText "state" (putFields (haResourceBody after) fields) = after.state :=
    storedText_cleared (by simp [haResourceBody, haResourceParams])
      (by simp +contextual [listed_haResource, haResourceCleared])
  have hcomment : storedText "comment" (putFields (haResourceBody after) fields) = after.comment :=
    storedText_cleared (by simp [haResourceBody, haResourceParams])
      (by simp +contextual [listed_haResource, haResourceCleared])
  have hrestarts : (storedNumber "max_restart" (putFields
      (haResourceBody after) fields)).toNat = after.maxRestart :=
    storedNumber_cleared hrestart (by simp [haResourceBody, haResourceParams])
      (by simp +contextual [listed_haResource, haResourceCleared])
  have hrelocates : (storedNumber "max_relocate" (putFields
      (haResourceBody after) fields)).toNat = after.maxRelocate :=
    storedNumber_cleared hrelocate (by simp [haResourceBody, haResourceParams])
      (by simp +contextual [listed_haResource, haResourceCleared])
  simp only [exportedHaResource, readHaResource, hstate, hcomment, hrestarts, hrelocates]

/-- An HA resource is left as declared exactly if both flags are declared on,
whatever the cluster has: the exporter does not read them. -/
theorem ha_resource_update_settles_iff (store : PveStore)
    (other : StateReadView) (declared live : List HaResourceDecl)
    (before after : HaResourceDecl) (hbounded : after.Bounded)
    (hlive : exportHaResources (store.view other) = .ok live)
    (hchange : Family.haResources.change (.update before after) ∈ diffHaResources declared live) :
    store.Settles other (applyHaResourceUpdate after) exportHaResources
        diffHaResources declared after.sid ↔
      after.failback = true ∧ after.autoRebalance = true := by
  obtain ⟨fields, -, hsettles⟩ : ∃ fields, before = exportedHaResource after.sid fields ∧
      (store.Settles other (applyHaResourceUpdate after) exportHaResources
          diffHaResources declared after.sid ↔
        sameRecord (exportedHaResource after.sid
          (putFields (haResourceBody after) fields)) after = true) :=
    storedHaResources.update_settles_iff _ hlive hchange
  rw [hsettles, sameRecord_iff, putFields_haResource hbounded]
  cases after
  simp [eq_comm]

end HaResources

namespace ResourceWitness

def store : PveStore :=
  { PveStore.blank with
    haResources := ⟨[("vm:100", [("state", "started"), ("max_restart", "5"),
      ("comment", "web")])], by decide⟩ }

def live : HaResourceDecl where
  sid := "vm:100"
  state := "started"
  maxRestart := 5
  maxRelocate := 0
  failback := true
  autoRebalance := true
  comment := "web"

/-- One number is cleared, the other is set. -/
def relocated : HaResourceDecl :=
  { live with maxRestart := 0, maxRelocate := 2 }

def sticky : HaResourceDecl := { live with failback := false }

theorem ha_resource_update_settles_relocated :
    store.Settles ExportWitness.view (applyHaResourceUpdate relocated)
      exportHaResources diffHaResources [relocated] "vm:100" :=
  (ha_resource_update_settles_iff store ExportWitness.view [relocated] [live]
    live relocated ⟨by decide, by decide⟩ (by decide +kernel)
    (by decide +kernel)).mpr ⟨rfl, rfl⟩

/-- The flag is sent and not read back. -/
theorem ha_resource_update_loses_failback :
    exportHaResources (store.view ExportWitness.view) = .ok [live] ∧
    diffHaResources [sticky] [live] = [Family.haResources.change (.update live sticky)] ∧
    ¬store.Settles ExportWitness.view (applyHaResourceUpdate sticky)
      exportHaResources diffHaResources [sticky] "vm:100" := by
  have hfresh : store.exportBehind ExportWitness.view
      (applyHaResourceUpdate sticky) exportHaResources = .ok [live] := by decide +kernel
  have hagain : Family.haResources.change (.update live sticky) ∈
      diffHaResources [sticky] [live] := by decide +kernel
  exact ⟨by decide +kernel, by decide +kernel, PveStore.not_settles_of_change hfresh hagain⟩

end ResourceWitness

end Proxxx
