/-
Updates of HA rules.  The fields of the other rule type are neither sent nor
cleared though they are compared, and the resources are compared as they are
written though the exporter sorts them: exactly when the cluster is left as the
document declares.
-/
import Proxxx.RustLines
import Proxxx.StateUpdates

namespace Proxxx

open FieldStore KeyedDiff List RustStr

section Resources

/-- Resources in the form the exporter lists them in. -/
structure ExportedForm (resources : List String) : Prop where
  plain : ∀ resource ∈ resources,
    resource ≠ "" ∧ RustStr.trim resource = resource ∧ ',' ∉ resource.toList
  sorted : resources.Pairwise (· < ·)

variable {text resource : String} {resources : List String}

theorem pairwise_lt_of_isChain_ne {α : Type*} [LinearOrder α] {list : List α}
    (hordered : list.Pairwise (· ≤ ·)) (hchain : list.IsChain (· ≠ ·)) :
    list.Pairwise (· < ·) := by
  rw [← isChain_iff_pairwise]
  induction list with
  | nil => exact .nil
  | cons head tail ih =>
    cases tail with
    | nil => exact .singleton head
    | cons next rest =>
      rw [isChain_cons_cons] at hchain ⊢
      obtain ⟨hbelow, hrest⟩ := pairwise_cons.mp hordered
      have hnext : head ≤ next := hbelow next mem_cons_self
      exact ⟨lt_of_le_of_ne hnext hchain.1, ih hrest hchain.2⟩

theorem mem_exportedResources (hresource : resource ∈ exportedResources text) :
    resource ≠ "" ∧ ∃ part ∈ RustStr.split text ',', RustStr.trim part = resource := by
  have hsorted := (destutter_sublist _ _).subset hresource
  have hlisted := (mem_insertionSort _).mp hsorted
  simpa [and_comm] using mem_filter.mp hlisted

theorem sorted_exportedResources : (exportedResources text).Pairwise (· < ·) := by
  have hordered : (exportedResources text).Pairwise (· ≤ ·) :=
    (pairwise_insertionSort _ _).sublist (destutter_sublist _ _)
  have hchain : (exportedResources text).IsChain (· ≠ ·) := isChain_destutter _ _
  exact pairwise_lt_of_isChain_ne hordered hchain

theorem exportedForm_exportedResources : ExportedForm (exportedResources text) := by
  refine ⟨?_, sorted_exportedResources⟩
  intro resource hresource
  obtain ⟨hword, part, hpart, rfl⟩ := mem_exportedResources hresource
  refine ⟨hword, ?_, ?_⟩
  · simp [RustStr.trim, trimList_trimList]
  · intro hcomma
    apply not_mem_of_mem_split hpart
    apply mem_of_mem_trimList
    simpa [RustStr.trim] using hcomma

theorem exportedResources_join (hform : ExportedForm resources) :
    exportedResources (RustStr.join resources ',') = resources := by
  obtain ⟨hplain, hsorted⟩ := hform
  have hlisted : ((RustStr.split (RustStr.join resources ',') ',').map
      RustStr.trim).filter (· ≠ "") = resources := by
    by_cases hempty : resources = []
    · subst hempty
      decide +kernel
    · have hsplit : RustStr.split (RustStr.join resources ',') ',' = resources :=
        split_join (fun part hpart => (hplain part hpart).2.2) hempty
      have htrim : resources.map RustStr.trim = resources := by
        rw [map_congr_left fun part hpart => (hplain part hpart).2.1]
        exact map_id' resources
      rw [hsplit, htrim]
      exact filter_eq_self.mpr fun part hpart => by
        simpa using (hplain part hpart).1
  have hordered : sortTexts resources = resources :=
    List.Pairwise.insertionSort_eq (hsorted.imp le_of_lt)
  have hchain : resources.IsChain (· ≠ ·) := (hsorted.imp ne_of_lt).isChain
  rw [exportedResources, hlisted, hordered]
  exact destutter_of_isChain _ _ hchain

theorem exportedResources_join_iff : exportedResources (RustStr.join resources ',') = resources ↔
    ExportedForm resources := by
  constructor
  · intro hjoin
    rw [← hjoin]
    exact exportedForm_exportedResources
  · exact exportedResources_join

end Resources

section Update

/-- The resources are written as they are exported, and the fields that belong
to another type are those the cluster has. -/
structure HaRuleDecl.Reachable (before after : HaRuleDecl) : Prop where
  resources : ExportedForm after.resources
  nodes : after.ruleType ≠ "node-affinity" →
    before.nodes = after.nodes ∧ before.strict = after.strict
  affinity : after.ruleType ≠ "resource-affinity" → before.affinity = after.affinity

variable {before after : HaRuleDecl} {fields : StoredFields}

/-- What an update of an HA rule sends. -/
def haRuleBody (after : HaRuleDecl) : Params :=
  haRuleParams after false ++ deleteEach (haRuleCleared after)

theorem listed_haRule : listed "delete" (haRuleBody after) = haRuleCleared after := by
  apply listed_of_plain
  · simp [haRuleBody, haRuleParams]
  · simp +contextual [haRuleCleared, or_imp]

theorem haRuleBody_nodes : storedText "nodes" (putFields (haRuleBody after) fields) =
    if after.ruleType = "node-affinity" then after.nodes
    else storedText "nodes" fields :=
  storedText_when (by simp [haRuleBody, haRuleParams, ite_and])
    (by simp [listed_haRule, haRuleCleared])

theorem haRuleBody_strict : storedFlag "strict" (putFields (haRuleBody after) fields) =
    if after.ruleType = "node-affinity" then after.strict
    else storedFlag "strict" fields := by
  by_cases htype : after.ruleType = "node-affinity"
  · rw [if_pos htype]
    exact storedFlag_set (by simp [haRuleBody, haRuleParams, htype])
  · rw [if_neg htype, storedFlag, values_kept (by simp [haRuleBody, haRuleParams, htype])
      (by simp [listed_haRule, haRuleCleared, htype])]
    rfl

theorem haRuleBody_affinity : storedText "affinity" (putFields (haRuleBody after) fields) =
    if after.ruleType = "resource-affinity" then after.affinity
    else storedText "affinity" fields :=
  storedText_when (by simp [haRuleBody, haRuleParams, ite_and])
    (by simp [listed_haRule, haRuleCleared])

theorem haRuleBody_resources : storedText "resources" (putFields (haRuleBody after) fields) =
    RustStr.join after.resources ',' := by
  by_cases hresources : after.resources = []
  · have hcleared : values "resources" (putFields (haRuleBody after) fields) = [] :=
      values_set (by simp [haRuleBody, haRuleParams, hresources])
        (by simp [listed_haRule, haRuleCleared, hresources])
    rw [storedText, hcleared, hresources]
    rfl
  · exact storedText_set (by simp [haRuleBody, haRuleParams, hresources])

/-- What is exported behind the update of a rule. -/
theorem exported_haRuleBody :
    exportedHaRule after.rule (putFields (haRuleBody after) fields) = { after with
        resources := exportedResources (RustStr.join after.resources ',')
        nodes := if after.ruleType = "node-affinity" then after.nodes
          else storedText "nodes" fields
        strict := if after.ruleType = "node-affinity" then after.strict
          else storedFlag "strict" fields
        affinity := if after.ruleType = "resource-affinity" then after.affinity
          else storedText "affinity" fields } := by
  have htype : storedText "type" (putFields (haRuleBody after) fields) = after.ruleType :=
    storedText_set (by simp [haRuleBody, haRuleParams])
  have hcomment : storedText "comment" (putFields (haRuleBody after) fields) = after.comment :=
    storedText_cleared (by simp [haRuleBody, haRuleParams])
      (by simp +contextual [listed_haRule, haRuleCleared])
  have hdisable : storedFlag "disable" (putFields (haRuleBody after) fields) = after.disable :=
    storedFlag_set (by simp [haRuleBody, haRuleParams])
  simp only [exportedHaRule, readHaRule, htype, hcomment, hdisable,
    haRuleBody_nodes, haRuleBody_strict, haRuleBody_affinity,
    haRuleBody_resources]

theorem exported_haRuleBody_eq_iff (hbefore : before = exportedHaRule after.rule fields) :
    exportedHaRule after.rule (putFields (haRuleBody after) fields) = after ↔
      before.Reachable after := by
  subst hbefore
  rw [exported_haRuleBody]
  constructor
  · intro hsame
    have hnodes := ite_eq_left_iff.mp (congrArg HaRuleDecl.nodes hsame)
    have hstrict := ite_eq_left_iff.mp (congrArg HaRuleDecl.strict hsame)
    have haffinity := ite_eq_left_iff.mp (congrArg HaRuleDecl.affinity hsame)
    exact ⟨exportedResources_join_iff.mp (congrArg HaRuleDecl.resources hsame),
      fun htype => ⟨hnodes htype, hstrict htype⟩, haffinity⟩
  · rintro ⟨hresources, hother, haside⟩
    simp only [exportedHaRule, readHaRule] at hother haside
    rw [exportedResources_join hresources, ite_eq_left_iff.mpr fun htype => (hother htype).1,
      ite_eq_left_iff.mpr fun htype => (hother htype).2, ite_eq_left_iff.mpr haside]

theorem applyHaRuleUpdate_sameType (htype : before.ruleType = after.ruleType) :
    applyHaRuleUpdate (some before) after = .ok [.updateHaRule after.rule (haRuleBody after)] := by
  simp [applyHaRuleUpdate, haRuleBody, Option.filter, htype]

end Update

/-- An HA rule is left as declared exactly if its resources are written as the
exporter writes them and the fields of the other type are as they were. -/
theorem ha_rule_update_settles_iff (store : PveStore) (other : StateReadView)
    (declared live : List HaRuleDecl) (before after : HaRuleDecl)
    (hlive : exportHaRules (store.view other) = .ok live)
    (hchange : Family.haRules.change (.update before after) ∈ diffHaRules declared live)
    (htype : before.ruleType = after.ruleType) :
    (∃ calls, applyHaRuleUpdate (some before) after = .ok calls ∧
      store.Settles other calls exportHaRules diffHaRules declared after.rule) ↔
      before.Reachable after := by
  obtain ⟨fields, hbefore, hsettles⟩ : ∃ fields, before = exportedHaRule after.rule fields ∧
      (store.Settles other [.updateHaRule after.rule (haRuleBody after)]
          exportHaRules diffHaRules declared after.rule ↔
        sameRecord (exportedHaRule after.rule
          (putFields (haRuleBody after) fields)) after = true) :=
    storedHaRules.update_settles_iff _ hlive hchange
  rw [applyHaRuleUpdate_sameType htype]
  rw [sameRecord_iff, exported_haRuleBody_eq_iff hbefore] at hsettles
  rw [← hsettles]
  simp

namespace RuleWitness

def store : PveStore :=
  { PveStore.blank with
    haRules := ⟨[("keep-apart", [("type", "resource-affinity"),
      ("resources", "vm:101,vm:100"), ("affinity", "negative"),
      ("comment", "databases")])], by decide⟩ }

def live : HaRuleDecl where
  rule := "keep-apart"
  ruleType := "resource-affinity"
  resources := ["vm:100", "vm:101"]
  comment := "databases"
  disable := false
  nodes := ""
  strict := false
  affinity := "negative"

/-- One more resource, no comment, and the other affinity. -/
def extended : HaRuleDecl :=
  { live with
    resources := ["vm:100", "vm:101", "vm:102"], comment := "", affinity := "positive" }

/-- The same resources in another order. -/
def reordered : HaRuleDecl := { live with resources := ["vm:101", "vm:100"] }

/-- With a field of the other type. -/
def strict : HaRuleDecl := { live with strict := true }

theorem ha_rule_update_settles_extended :
    ∃ calls, applyHaRuleUpdate (some live) extended = .ok calls ∧
      store.Settles ExportWitness.view calls exportHaRules diffHaRules [extended] "keep-apart" := by
  have hreachable : live.Reachable extended :=
    ⟨⟨by decide +kernel, by decide +kernel⟩, fun _ => ⟨rfl, rfl⟩, fun htype => absurd rfl htype⟩
  exact (ha_rule_update_settles_iff store ExportWitness.view [extended] [live]
    live extended (by decide +kernel) (by decide +kernel) rfl).mpr hreachable

/-- Both are reported again, though the rule has the resources in the one case
and the field was never sent in the other. -/
theorem ha_rule_update_reported_again : exportHaRules (store.view ExportWitness.view) = .ok [live] ∧
    ∀ after ∈ [reordered, strict], diffHaRules [after] [live] =
        [Family.haRules.change (.update live after)] ∧
      ∀ calls, applyHaRuleUpdate (some live) after = .ok calls →
        ¬store.Settles ExportWitness.view calls exportHaRules diffHaRules [after] "keep-apart" := by
  have hfresh : ∀ after ∈ [reordered, strict], applyHaRuleUpdate (some live) after =
        .ok [.updateHaRule "keep-apart" (haRuleBody after)] ∧
      store.exportBehind ExportWitness.view
        [.updateHaRule "keep-apart" (haRuleBody after)] exportHaRules = .ok [live] ∧
      diffHaRules [after] [live] = [Family.haRules.change (.update live after)] ∧
      (Family.haRules.change (.update live after)).identity = "keep-apart" := by
    decide +kernel
  refine ⟨by decide +kernel, ?_⟩
  intro after hafter
  obtain ⟨happly, hexport, hdiff, hidentity⟩ := hfresh after hafter
  refine ⟨hdiff, ?_⟩
  intro calls hcalls
  cases happly.symm.trans hcalls
  have hagain : Family.haRules.change (.update live after) ∈ diffHaRules [after] [live] := by
    rw [hdiff]
    exact mem_singleton_self _
  have hreported := PveStore.not_settles_of_change hexport hagain
  rwa [hidentity] at hreported

end RuleWitness

end Proxxx
