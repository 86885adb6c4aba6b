/-
Fields of a state document that list the elements of a set, and what writing
them in another order does to the difference.
-/
import Proxxx.StateDiff

namespace Proxxx

open KeyedDiff List

section Rearranged

/-- The lists have the same elements, in any order and however often. -/
def SameElements {α : Type} (one two : List α) : Prop :=
  ∀ element, element ∈ one ↔ element ∈ two

def PoolDecl.Rearranged (one two : PoolDecl) : Prop :=
  two = { one with members := two.members } ∧ SameElements one.members two.members

def FirewallIpsetDecl.Rearranged (one two : FirewallIpsetDecl) : Prop :=
  two = { one with cidrs := two.cidrs } ∧ SameElements one.cidrs two.cidrs

def NotificationMatcherDecl.Rearranged (one two : NotificationMatcherDecl) : Prop :=
  two = { one with
    target := two.target, matchField := two.matchField, matchSeverity := two.matchSeverity } ∧
  SameElements one.target two.target ∧
  SameElements one.matchField two.matchField ∧
  SameElements one.matchSeverity two.matchSeverity

def HaRuleDecl.Rearranged (one two : HaRuleDecl) : Prop :=
  two = { one with resources := two.resources } ∧ SameElements one.resources two.resources

def MappingPciDecl.Rearranged (one two : MappingPciDecl) : Prop :=
  two = { one with map := two.map } ∧ SameElements one.map two.map

def MappingUsbDecl.Rearranged (one two : MappingUsbDecl) : Prop :=
  two = { one with map := two.map } ∧ SameElements one.map two.map

/-- The same document, with the elements of its sets written in another order
or repeated. -/
structure ClusterState.Rearranged (one two : ClusterState) : Prop where
  pools : List.Forall₂ PoolDecl.Rearranged one.pools two.pools
  firewallIpsets : List.Forall₂ FirewallIpsetDecl.Rearranged
    one.firewallIpsets two.firewallIpsets
  notificationMatchers : List.Forall₂ NotificationMatcherDecl.Rearranged
    one.notificationMatchers two.notificationMatchers
  haRules : List.Forall₂ HaRuleDecl.Rearranged one.haRules two.haRules
  mappingsPci : List.Forall₂ MappingPciDecl.Rearranged one.mappingsPci
    two.mappingsPci
  mappingsUsb : List.Forall₂ MappingUsbDecl.Rearranged one.mappingsUsb
    two.mappingsUsb
  others : two = { one with
    pools := two.pools, firewallIpsets := two.firewallIpsets
    notificationMatchers := two.notificationMatchers, haRules := two.haRules
    mappingsPci := two.mappingsPci, mappingsUsb := two.mappingsUsb }

end Rearranged

section DiffNames

variable {family : Family} {declared arranged live : ClusterState}

/-- The difference has a change of the identity. -/
def DiffNames (declared live : ClusterState) (resource : Resource) (identity : String) : Prop :=
  ∃ change ∈ diff declared live, change.resource = resource ∧ change.identity = identity

def Family.Reports (family : Family) (declared live : ClusterState) (identity : String) : Prop :=
  ∃ change ∈ family.changes declared live, change.identity = identity

/-- An entry that is written differently is, either way, not written as the
live entry is. -/
def Family.Undisturbed (family : Family) (declared arranged live : ClusterState) : Prop :=
  declared.manages family.name = true → ∀ k before after found,
      lookup family.key k (family.items declared) = some before →
      lookup family.key k (family.items arranged) = some after →
      lookup family.key k (family.items live) = some found →
      before = after ∨ found ≠ before ∧ found ≠ after

theorem mem_diff_iff {change : Change} : change ∈ diff declared live ↔
    change ∈ diffFirewallOptions declared.firewallOptions live.firewallOptions ∨
    ∃ family ∈ families, change ∈ family.changes declared live := by
  have hparts : (∃ family ∈ families, change ∈ family.changes declared live) ↔
      (∃ family ∈ families.take 4, change ∈ family.changes declared live) ∨
      ∃ family ∈ families.drop 4, change ∈ family.changes declared live := by
    conv_lhs => rw [← take_append_drop 4 families]
    simp only [mem_append, or_and_right, exists_or]
  rw [diff_eq, mem_append, mem_append, mem_flatMap, mem_flatMap, hparts]
  exact or_assoc.trans or_left_comm

theorem eq_of_resource_eq {other : Family} (hfamily : family ∈ families)
    (hother : other ∈ families) (hresource : other.resource = family.resource) :
    other = family := by
  have hmem : other ∈ families.filter fun candidate =>
      candidate.resource = family.resource :=
    mem_filter.mpr ⟨hother, by simpa using hresource⟩
  rw [filter_families hfamily] at hmem
  exact mem_singleton.mp hmem

theorem Family.resource_of_mem_changes {change : Change}
    (hchange : change ∈ family.changes declared live) :
    change.resource = family.resource := by
  obtain ⟨-, edit, -, rfl⟩ := Family.mem_changes hchange
  exact Family.resource_change edit

theorem Family.change_mem_changes {edit : Edit family.Item}
    (hmanaged : declared.manages family.name = true)
    (hedit : edit ∈ edits family.key family.same (family.items declared) (family.items live)) :
    family.change edit ∈ family.changes declared live := by
  unfold Family.changes
  rw [if_pos hmanaged]
  exact mem_map_of_mem hedit

theorem reported_family (hfamily : family ∈ families) {identity : String} :
    DiffNames declared live family.resource identity ↔ family.Reports declared live identity := by
  constructor
  · rintro ⟨change, hchange, hresource, hidentity⟩
    rcases mem_diff_iff.mp hchange with hoptions | ⟨other, hother, hin⟩
    · have hsame := resource_of_mem_diffFirewallOptions hoptions
      exact absurd (hresource.symm.trans hsame) (resource_ne_firewallOptions hfamily)
    · have heq := eq_of_resource_eq hfamily hother
        ((Family.resource_of_mem_changes hin).symm.trans hresource)
      subst heq
      exact ⟨change, hin, hidentity⟩
  · rintro ⟨change, hin, hidentity⟩
    exact ⟨change, mem_diff_iff.mpr (Or.inr ⟨family, hfamily, hin⟩),
      Family.resource_of_mem_changes hin, hidentity⟩

/-- The reports agree if they agree family by family. -/
theorem reported_iff_families (hoptions : declared.firewallOptions = arranged.firewallOptions) :
    (∀ resource identity, DiffNames declared live resource identity ↔
        DiffNames arranged live resource identity) ↔
      ∀ family ∈ families, ∀ identity, family.Reports declared live identity ↔
          family.Reports arranged live identity := by
  constructor
  · intro hall family hfamily identity
    rw [← reported_family hfamily, ← reported_family hfamily]
    exact hall family.resource identity
  · intro hall resource identity
    have hone : ∀ {one two : ClusterState}, one.firewallOptions = two.firewallOptions →
        (∀ family ∈ families, ∀ identity, family.Reports one live identity →
          family.Reports two live identity) →
        DiffNames one live resource identity →
        DiffNames two live resource identity := by
      rintro one two hsame hreports ⟨change, hchange, hresource, hidentity⟩
      rcases mem_diff_iff.mp hchange with hin | ⟨family, hfamily, hin⟩
      · rw [hsame] at hin
        exact ⟨change, mem_diff_iff.mpr (Or.inl hin), hresource, hidentity⟩
      · rw [← hresource, Family.resource_of_mem_changes hin]
        exact (reported_family hfamily).mpr
          (hreports family hfamily identity ⟨change, hin, hidentity⟩)
    exact ⟨hone hoptions fun family hfamily identity =>
        (hall family hfamily identity).mp,
      hone hoptions.symm fun family hfamily identity => (hall family hfamily identity).mpr⟩

end DiffNames

section Named

variable {Item : Type} [DecidableEq Item] {name : String} {resource : Resource}
variable {items : ClusterState → List Item} {id : Item → String}
variable {payload : Option Item → Option Item → Payload}
variable {sides : Payload → Option (Option Item × Option Item)}
variable {hresource : ∀ before after, (payload before after).resource = resource}
variable {hsides : ∀ before after, sides (payload before after) = some (before, after)}
variable {hother : ∀ other, other.resource ≠ resource → sides other = none}
variable {declared arranged live : ClusterState}

theorem isSome_expected {after found : Item} :
    (expected (fun live declared => decide (live = declared)) (some after)
      (some found)).isSome = true ↔ found ≠ after := by
  by_cases hsame : found = after <;> simp [expected, hsame]

/-- A named family reports a name exactly if something is to be done there. -/
theorem byName_reports {identity : String} :
    (Family.byName name resource items id payload sides hresource hsides
      hother).Reports declared live identity ↔
    declared.manages name = true ∧ (expected (fun live declared => decide (live = declared))
        (lookup id identity (items declared))
        (lookup id identity (items live))).isSome = true := by
  rw [← exists_mem_edits_at]
  constructor
  · rintro ⟨change, hchange, rfl⟩
    obtain ⟨hmanaged, edit, hedit, rfl⟩ := Family.mem_changes hchange
    refine ⟨hmanaged, edit, hedit, ?_⟩
    cases edit with
    | delete before | create after => rfl
    | update before after => exact (keepsKey_of_mem_edits hedit).symm
  · rintro ⟨hmanaged, edit, hedit, rfl⟩
    refine ⟨_, Family.change_mem_changes hmanaged hedit, ?_⟩
    cases edit with
    | delete before | create after => rfl
    | update before after => exact (keepsKey_of_mem_edits hedit :)

/-- Rearranging the entries of a named family is seen exactly at the entries
that are written as the live ones, before or after. -/
theorem byName_reports_iff {related : Item → Item → Prop}
    (hrelated : List.Forall₂ related (items declared) (items arranged))
    (hid : ∀ one two, related one two → id one = id two)
    (hmanages : arranged.manages name = declared.manages name) :
    (∀ identity, (Family.byName name resource items id payload sides hresource hsides
        hother).Reports declared live identity ↔
      (Family.byName name resource items id payload sides hresource hsides
        hother).Reports arranged live identity) ↔
    (Family.byName name resource items id payload sides hresource hsides
      hother).Undisturbed declared arranged live := by
  simp only [byName_reports, hmanages]
  constructor
  · intro hall hmanaged (k : String) (before : Item) (after : Item)
      (found : Item) (hbefore : lookup id k (items declared) = some before)
      (hafter : lookup id k (items arranged) = some after)
      (hfound : lookup id k (items live) = some found)
    have hk := and_congr_right_iff.mp (hall k) hmanaged
    rw [hbefore, hafter, hfound, isSome_expected, isSome_expected] at hk
    by_cases hone : found = before
    · exact Or.inl (hone.symm.trans (not_imp_not.mp hk.mpr hone))
    · exact Or.inr ⟨hone, hk.mp hone⟩
  · intro hundisturbed k
    refine and_congr_right fun hmanaged => ?_
    have hlookups := rel_lookup (k := k) hrelated hid
    generalize hbefore : lookup id k (items declared) = one at hlookups ⊢
    generalize hafter : lookup id k (items arranged) = two at hlookups ⊢
    cases hlookups with
    | none => rfl
    | @some before after hentry =>
      cases hfound : lookup id k (items live) with
      | none => rfl
      | some found =>
        rcases hundisturbed hmanaged k before after found hbefore
          hafter hfound with hsame | ⟨hone, htwo⟩
        · rw [hsame]
        · rw [isSome_expected, isSome_expected]
          exact iff_of_true hone htwo

end Named

section Documents

variable {family : Family} {declared arranged live : ClusterState}

/-- A family whose entries are written as before. -/
theorem Family.reports_iff_of_items_eq (hitems : family.items arranged = family.items declared)
    (hmanages : arranged.manages family.name = declared.manages family.name) :
    (∀ identity, family.Reports declared live identity ↔ family.Reports arranged live identity) ↔
      family.Undisturbed declared arranged live := by
  have hchanges : family.changes arranged live = family.changes declared live := by
    unfold Family.changes
    rw [hitems, hmanages]
  refine iff_of_true ?_ ?_
  · intro identity
    unfold Family.Reports
    rw [hchanges]
  · intro _ k before after found hbefore hafter _
    rw [hitems, hbefore] at hafter
    exact Or.inl (Option.some.inj hafter)

theorem ClusterState.Rearranged.manages
    (hrearranged : declared.Rearranged arranged) (name : String) :
    arranged.manages name = declared.manages name := by
  have hsame : arranged.declaredFamilies = declared.declaredFamilies :=
    (congrArg ClusterState.declaredFamilies hrearranged.others :)
  unfold ClusterState.manages
  rw [hsame]

theorem ClusterState.Rearranged.reports_iff (hrearranged : declared.Rearranged arranged)
    (hfamily : family ∈ families) :
    (∀ identity, family.Reports declared live identity ↔ family.Reports arranged live identity) ↔
      family.Undisturbed declared arranged live := by
  have hothers := hrearranged.others
  have hmanages := hrearranged.manages
  simp only [families, mem_cons, not_mem_nil, or_false] at hfamily
  rcases hfamily with rfl | rfl | rfl | rfl | rfl | rfl | rfl | rfl | rfl |
    rfl | rfl | rfl
  · exact byName_reports_iff hrearranged.pools
      (fun _ _ hentry => (congrArg PoolDecl.poolid hentry.1 :).symm)
      (hmanages _)
  · exact Family.reports_iff_of_items_eq (congrArg ClusterState.acl hothers :) (hmanages _)
  · exact Family.reports_iff_of_items_eq (congrArg ClusterState.storage hothers :) (hmanages _)
  · exact Family.reports_iff_of_items_eq (congrArg ClusterState.backupJobs hothers :) (hmanages _)
  · exact Family.reports_iff_of_items_eq
      (congrArg ClusterState.firewallAliases hothers :) (hmanages _)
  · exact byName_reports_iff hrearranged.firewallIpsets
      (fun _ _ hentry => (congrArg FirewallIpsetDecl.name hentry.1 :).symm)
      (hmanages _)
  · exact Family.reports_iff_of_items_eq
      (congrArg ClusterState.firewallGroups hothers :) (hmanages _)
  · exact byName_reports_iff hrearranged.notificationMatchers (fun _ _ hentry =>
        (congrArg NotificationMatcherDecl.name hentry.1 :).symm) (hmanages _)
  · exact Family.reports_iff_of_items_eq (congrArg ClusterState.haResources hothers :) (hmanages _)
  · exact byName_reports_iff hrearranged.haRules
      (fun _ _ hentry => (congrArg HaRuleDecl.rule hentry.1 :).symm)
      (hmanages _)
  · exact byName_reports_iff hrearranged.mappingsPci
      (fun _ _ hentry => (congrArg MappingPciDecl.id hentry.1 :).symm)
      (hmanages _)
  · exact byName_reports_iff hrearranged.mappingsUsb
      (fun _ _ hentry => (congrArg MappingUsbDecl.id hentry.1 :).symm)
      (hmanages _)

/-- Writing the elements of the declared sets in another order, or repeating
them, leaves the reported identities alone exactly if no managed entry that is
written differently stands in the live state as it is written before or
after. -/
theorem rearranged_reports_iff (hrearranged : declared.Rearranged arranged) :
    (∀ resource identity, DiffNames declared live resource identity ↔
        DiffNames arranged live resource identity) ↔
      ∀ family ∈ families, family.Undisturbed declared arranged live := by
  have hoptions : arranged.firewallOptions = declared.firewallOptions :=
    (congrArg ClusterState.firewallOptions hrearranged.others :)
  rw [reported_iff_families hoptions.symm]
  exact forall₂_congr fun family hfamily => hrearranged.reports_iff hfamily

end Documents

namespace OrderWitness

def rule (resources : List String) : HaRuleDecl :=
  { rule := "web", ruleType := "resource-affinity", resources, comment := ""
    disable := false, nodes := "", strict := false, affinity := "negative" }

def state (resources : List String) : ClusterState :=
  { haRules := [rule resources] }

theorem rearranged_swap (one two : String) : (state [one, two]).Rearranged (state [two, one]) := by
  refine ⟨.nil, .nil, .nil, .cons ⟨rfl, ?_⟩ .nil, .nil, .nil, rfl⟩
  intro element
  simp [rule, or_comm]

/-- A rule that is not live yet is reported in either order. -/
theorem new_rule_reported :
    DiffNames (state ["vm:100", "ct:200"]) {} .haRule "web" ↔
      DiffNames (state ["ct:200", "vm:100"]) {} .haRule "web" := by
  refine (rearranged_reports_iff (rearranged_swap _ _)).mpr ?_ .haRule "web"
  intro family hfamily _ k before after found _ _ hfound
  simp only [families, mem_cons, not_mem_nil, or_false] at hfamily
  rcases hfamily with rfl | rfl | rfl | rfl | rfl | rfl | rfl | rfl | rfl |
    rfl | rfl | rfl <;> cases hfound

/-- A live rule is reported as changed once its resources are declared in
another order. -/
theorem swapped_rule_reported :
    (state ["ct:200", "vm:100"]).Rearranged (state ["vm:100", "ct:200"]) ∧
      ¬ DiffNames (state ["ct:200", "vm:100"]) (state ["ct:200", "vm:100"]) .haRule "web" ∧
      DiffNames (state ["vm:100", "ct:200"]) (state ["ct:200", "vm:100"]) .haRule "web" := by
  refine ⟨rearranged_swap _ _, ?_, ?_⟩
  · have hnone : diff (state ["ct:200", "vm:100"])
        (state ["ct:200", "vm:100"]) = [] := by decide +kernel
    simp [DiffNames, hnone]
  · have hone : diff (state ["vm:100", "ct:200"]) (state ["ct:200", "vm:100"]) =
        [{ kind := .update, identity := "web", payload := .haRule (some (rule ["ct:200", "vm:100"]))
             (some (rule ["vm:100", "ct:200"])) }] := by decide +kernel
    refine ⟨_, by rw [hone]; exact mem_singleton_self _, rfl, rfl⟩

end OrderWitness

end Proxxx
