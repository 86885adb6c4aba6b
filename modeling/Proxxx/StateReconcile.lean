/-
What the difference of two states is for: carried out on the live state, entry
by entry, it gives the declared one.
-/
import Proxxx.StateDiff

namespace Proxxx

open KeyedDiff List

/-- What it means for two entries of a family to be equal, and what the export
promises of the live ones. -/
structure FamilySpec where
  family : Family
  Equal : family.Item → family.Item → Prop
  Exported : family.Item → Prop
  equal_refl : ∀ item, Equal item item
  same_iff : ∀ live declared, family.key live = family.key declared →
    Exported live → (family.same live declared = true ↔ Equal live declared)

/-- The entries list the same tokens, whatever their order, and agree in
everything else. -/
structure StorageDecl.EqualUpToOrder (one two : StorageDecl) : Prop where
  content : (RustStr.split one.content ',').Perm
    (RustStr.split two.content ',')
  nodes : (RustStr.split one.nodes ',').Perm (RustStr.split two.nodes ',')
  rest : { one with content := "", nodes := "" } = { two with content := "", nodes := "" }

/-- The export sorts both lists. -/
structure StorageDecl.Normalized (storage : StorageDecl) : Prop where
  content : normalizeCsv storage.content = storage.content
  nodes : normalizeCsv storage.nodes = storage.nodes

theorem storageMatches_iff {live declared : StorageDecl} (hlive : live.Normalized) :
    storageMatches live declared = true ↔ live.EqualUpToOrder declared := by
  constructor
  · intro hmatches
    have hsame := of_decide_eq_true hmatches
    have hcontent : live.content = normalizeCsv declared.content := by rw [hsame]
    have hnodes : live.nodes = normalizeCsv declared.nodes := by rw [hsame]
    constructor
    · exact normalizeCsv_eq_iff.mp (hlive.content.trans hcontent)
    · exact normalizeCsv_eq_iff.mp (hlive.nodes.trans hnodes)
    · rw [hsame]
  · intro hequal
    have hcontent : live.content = normalizeCsv declared.content :=
      hlive.content.symm.trans (normalizeCsv_eq_iff.mpr hequal.content)
    have hnodes : live.nodes = normalizeCsv declared.nodes :=
      hlive.nodes.symm.trans (normalizeCsv_eq_iff.mpr hequal.nodes)
    have hrest := hequal.rest
    cases live
    cases declared
    simp_all [storageMatches]

namespace FamilySpec

/-- Entries that are compared as a whole. -/
def whole (family : Family) (hsame : family.same = fun live declared => decide (live = declared)) :
    FamilySpec where
  family := family
  Equal := Eq
  Exported _ := True
  equal_refl _ := rfl
  same_iff live declared _ _ := by
    rw [hsame]
    exact decide_eq_true_iff

def storage : FamilySpec where
  family := .storage
  Equal := StorageDecl.EqualUpToOrder
  Exported := StorageDecl.Normalized
  equal_refl _ := ⟨.refl _, .refl _, rfl⟩
  same_iff _ _ _ hlive := storageMatches_iff hlive

/-- The comment of a security group does not count. -/
def firewallGroups : FamilySpec where
  family := .firewallGroups
  Equal one two := one.group = two.group
  Exported _ := True
  equal_refl _ := rfl
  same_iff _ _ hkey _ := ⟨fun _ => hkey, fun _ => rfl⟩

end FamilySpec

def familySpecs : List FamilySpec :=
  [.whole .pools rfl, .whole .acl rfl, .storage, .whole .backupJobs rfl,
    .whole .firewallAliases rfl, .whole .firewallIpsets rfl, .firewallGroups,
    .whole .notificationMatchers rfl, .whole .haResources rfl,
    .whole .haRules rfl, .whole .mappingsPci rfl, .whole .mappingsUsb rfl]

theorem familySpecs_families : familySpecs.map (·.family) = families := rfl

/-- The entries of a family after the changes. -/
def Family.patched (family : Family) (changes : List Change)
    (entries : List family.Item) : List family.Item :=
  patch family.key entries (changes.filterMap family.editOf)

/-- The options after the changes. -/
def patchedOptions (changes : List Change)
    (live : Option FirewallOptionsDecl) : Option FirewallOptionsDecl :=
  changes.foldl (fun options change =>
      match change.payload with
      | .firewallOptions _ (some after) => some after
      | _ => options) live

/-- The live state with the changes carried out. -/
def ClusterState.patched (live : ClusterState) (changes : List Change) : ClusterState :=
  { live with
    pools := Family.pools.patched changes live.pools, acl := Family.acl.patched changes live.acl
    storage := Family.storage.patched changes live.storage
    backupJobs := Family.backupJobs.patched changes live.backupJobs
    firewallOptions := patchedOptions changes live.firewallOptions
    firewallAliases :=
      Family.firewallAliases.patched changes live.firewallAliases
    firewallIpsets := Family.firewallIpsets.patched changes live.firewallIpsets
    firewallGroups := Family.firewallGroups.patched changes live.firewallGroups
    notificationMatchers :=
      Family.notificationMatchers.patched changes live.notificationMatchers
    haResources := Family.haResources.patched changes live.haResources
    haRules := Family.haRules.patched changes live.haRules
    mappingsPci := Family.mappingsPci.patched changes live.mappingsPci
    mappingsUsb := Family.mappingsUsb.patched changes live.mappingsUsb }

theorem items_patched {family : Family} (hfamily : family ∈ families)
    (live : ClusterState) (changes : List Change) :
    family.items (live.patched changes) = family.patched changes (family.items live) := by
  simp only [families, mem_cons, not_mem_nil, or_false] at hfamily
  rcases hfamily with rfl | rfl | rfl | rfl | rfl | rfl | rfl | rfl | rfl |
    rfl | rfl | rfl <;> rfl

/-- No family has two entries of one identity. -/
def ClusterState.DistinctIdentities (state : ClusterState) : Prop :=
  ∀ family ∈ families, ((family.items state).map family.key).Nodup

instance (state : ClusterState) : Decidable state.DistinctIdentities :=
  inferInstanceAs (Decidable (∀ family ∈ families, ((family.items state).map family.key).Nodup))

section Validated

variable {α : Type} {family : String} {id : α → String} {entries : List α}
variable {seen : List String}

theorem checkUnique_eq_ok : checkUnique family id seen entries = .ok () ↔
    (entries.map id).Nodup ∧ ∀ entry ∈ entries, id entry ∉ seen := by
  induction entries generalizing seen with
  | nil => simp [checkUnique]
  | cons head tail ih =>
    by_cases hhead : id head ∈ seen
    · simp [checkUnique, hhead]
    · rw [checkUnique, if_neg hhead, ih]
      simp only [map_cons, nodup_cons, mem_map, mem_cons, not_or, not_exists, not_and]
      grind

/-- Grants with different identity texts have different identities. -/
theorem nodup_aclKeys {grants : List AclDecl} (hnodup : (grants.map AclDecl.identityText).Nodup) :
    (grants.map AclDecl.key).Nodup := by
  have htexts : grants.map AclDecl.identityText = (grants.map AclDecl.key).map fun key =>
        key.1 ++ "|" ++ key.2.1 ++ "|" ++ key.2.2.1 ++ "|" ++ key.2.2.2 := by
    rw [map_map]
    rfl
  rw [htexts] at hnodup
  exact hnodup.of_map _

/-- The identities are distinct, and so are the texts that stand for those of
the grants. -/
theorem validateUniqueIdentities_eq_ok {state : ClusterState} :
    state.validateUniqueIdentities = .ok () ↔ state.DistinctIdentities ∧
        (state.acl.map AclDecl.identityText).Nodup := by
  simp only [ClusterState.validateUniqueIdentities, RustStr.andThen_eq_ok,
    checkUnique_eq_ok, not_mem_nil, not_false_eq_true, implies_true,
    and_true]
  constructor
  · rintro ⟨hpools, hacl, hstorage, hjobs, haliases, hipsets, hgroups,
      hmatchers, hresources, hrules, hpci, husb⟩
    simp only [ClusterState.DistinctIdentities, families, forall_mem_cons]
    exact ⟨⟨hpools, nodup_aclKeys hacl, hstorage, hjobs, haliases, hipsets, hgroups,
      hmatchers, hresources, hrules, hpci, husb, forall_mem_nil _⟩, hacl⟩
  · rintro ⟨hdistinct, hacl⟩
    simp only [ClusterState.DistinctIdentities, families, forall_mem_cons] at hdistinct
    obtain ⟨hpools, -, hstorage, hjobs, haliases, hipsets, hgroups,
      hmatchers, hresources, hrules, hpci, husb, -⟩ := hdistinct
    exact ⟨hpools, hacl, hstorage, hjobs, haliases, hipsets, hgroups,
      hmatchers, hresources, hrules, hpci, husb⟩

/-- A document that is accepted has no identity twice. -/
theorem distinctIdentities_of_validate {state : ClusterState}
    (hvalid : state.validateUniqueIdentities = .ok ()) :
    state.DistinctIdentities :=
  (validateUniqueIdentities_eq_ok.mp hvalid).1

end Validated

section Reconciled

variable (spec : FamilySpec) (declared live : ClusterState)

/-- The edits a list of changes holds for one entry of a family. -/
def Family.editsAt (family : Family) (changes : List Change)
    (k : family.Key) : List (Edit family.Item) :=
  (changes.filterMap family.editOf).filter fun edit => edit.keyBy family.key = k

/-- The changes hold exactly one edit for each identity whose entries differ,
and lead from the live entries to the declared ones. -/
structure FamilySpec.Reconciled (changes : List Change) : Prop where
  created : ∀ after ∈ spec.family.items declared,
    (∀ before ∈ spec.family.items live, spec.family.key before ≠ spec.family.key after) →
    spec.family.editsAt changes (spec.family.key after) = [.create after]
  deleted : ∀ before ∈ spec.family.items live,
    (∀ after ∈ spec.family.items declared, spec.family.key after ≠ spec.family.key before) →
    spec.family.editsAt changes (spec.family.key before) = [.delete before]
  updated : ∀ after ∈ spec.family.items declared,
    ∀ before ∈ spec.family.items live,
    spec.family.key before = spec.family.key after →
    ¬spec.Equal before after →
    spec.family.editsAt changes (spec.family.key after) = [.update before after]
  equal : ∀ after ∈ spec.family.items declared,
    ∀ before ∈ spec.family.items live,
    spec.family.key before = spec.family.key after →
    spec.Equal before after →
    spec.family.editsAt changes (spec.family.key after) = []
  absent : ∀ k,
    (∀ after ∈ spec.family.items declared, spec.family.key after ≠ k) →
    (∀ before ∈ spec.family.items live, spec.family.key before ≠ k) →
    spec.family.editsAt changes k = []
  distinct : ((spec.family.items (live.patched changes)).map spec.family.key).Nodup
  complete : ∀ after ∈ spec.family.items declared,
    ∃ entry ∈ spec.family.items (live.patched changes),
      spec.family.key entry = spec.family.key after ∧ spec.Equal entry after
  sound : ∀ entry ∈ spec.family.items (live.patched changes),
    ∃ after ∈ spec.family.items declared,
      spec.family.key entry = spec.family.key after ∧ spec.Equal entry after

end Reconciled

section Families

variable {spec : FamilySpec} {declared live : ClusterState}

theorem mem_families (hspec : spec ∈ familySpecs) : spec.family ∈ families := by
  rw [← familySpecs_families]
  exact mem_map_of_mem hspec

variable (hspec : spec ∈ familySpecs) (hmanaged : declared.manages spec.family.name = true)
include hspec hmanaged

/-- The edits at a key, by the entries under it. -/
theorem editsAt_diff (k : spec.family.Key) :
    spec.family.editsAt (diff declared live) k = (expected spec.family.same
        (lookup spec.family.key k (spec.family.items declared))
        (lookup spec.family.key k (spec.family.items live))).toList := by
  rw [Family.editsAt, editsOf_diff (mem_families hspec), if_pos hmanaged, edits_at]

theorem items_patched_diff :
    spec.family.items (live.patched (diff declared live)) =
      patch spec.family.key (spec.family.items live)
        (edits spec.family.key spec.family.same (spec.family.items declared)
          (spec.family.items live)) := by
  rw [items_patched (mem_families hspec), Family.patched,
    editsOf_diff (mem_families hspec), if_pos hmanaged]

variable (hexported : ∀ before ∈ spec.family.items live, spec.Exported before)
include hexported

/-- A patched entry is the declared one, up to what does not count. -/
theorem lookup_patched {k : spec.family.Key} {after : spec.family.Item}
    (hafter : lookup spec.family.key k (spec.family.items declared) = some after) :
    ∃ entry, lookup spec.family.key k
        (spec.family.items (live.patched (diff declared live))) = some entry ∧
      spec.Equal entry after := by
  rw [items_patched_diff hspec hmanaged, lookup_patch_edits, hafter]
  rcases hbefore : lookup spec.family.key k (spec.family.items live) with
    _ | before
  · exact ⟨after, rfl, spec.equal_refl after⟩
  · dsimp only
    split
    next hsame =>
      refine ⟨before, rfl, ?_⟩
      refine (spec.same_iff before after ?_ ?_).mp hsame
      · exact (key_of_lookup hbefore).trans (key_of_lookup hafter).symm
      · exact hexported before (mem_of_lookup hbefore)
    next => exact ⟨after, rfl, spec.equal_refl after⟩

theorem reconciled_diff (hdeclared : ((spec.family.items declared).map spec.family.key).Nodup)
    (hlive : ((spec.family.items live).map spec.family.key).Nodup) :
    spec.Reconciled declared live (diff declared live) := by
  have hat := fun k => @editsAt_diff spec declared live hspec hmanaged k
  have hdistinct : ((spec.family.items
      (live.patched (diff declared live))).map spec.family.key).Nodup := by
    rw [items_patched_diff hspec hmanaged]
    exact nodup_patch_edits hlive
  constructor
  · intro after hafter hnone
    rw [hat, lookup_of_mem hdeclared hafter, lookup_eq_none.mpr hnone]
    rfl
  · intro before hbefore hnone
    rw [hat, lookup_of_mem hlive hbefore, lookup_eq_none.mpr hnone]
    rfl
  · intro after hafter before hbefore hkey hdiffer
    have hsame := (spec.same_iff before after hkey (hexported before hbefore)).not.mpr hdiffer
    rw [hat, lookup_of_mem hdeclared hafter, ← hkey, lookup_of_mem hlive hbefore]
    simp [expected, hsame]
  · intro after hafter before hbefore hkey hequal
    have hsame := (spec.same_iff before after hkey (hexported before hbefore)).mpr hequal
    rw [hat, lookup_of_mem hdeclared hafter, ← hkey, lookup_of_mem hlive hbefore]
    simp [expected, hsame]
  · intro k hafter hbefore
    rw [hat, lookup_eq_none.mpr hafter, lookup_eq_none.mpr hbefore]
    rfl
  · exact hdistinct
  · intro after hafter
    obtain ⟨entry, hentry, hequal⟩ := lookup_patched hspec hmanaged hexported
      (lookup_of_mem hdeclared hafter)
    exact ⟨entry, mem_of_lookup hentry, key_of_lookup hentry, hequal⟩
  · intro entry hentry
    have hfound := lookup_of_mem hdistinct hentry
    rcases hafter : lookup spec.family.key (spec.family.key entry)
      (spec.family.items declared) with _ | after
    · rw [items_patched_diff hspec hmanaged, lookup_patch_edits, hafter] at hfound
      cases hfound
    · obtain ⟨other, hother, hequal⟩ := lookup_patched hspec hmanaged hexported hafter
      obtain rfl := Option.some.inj (hfound.symm.trans hother)
      exact ⟨after, mem_of_lookup hafter, (key_of_lookup hafter).symm, hequal⟩

end Families

section Options

/-- Every option that is declared has its declared value. -/
structure FirewallOptionsDecl.SetIn (declared live : FirewallOptionsDecl) : Prop where
  enable : ∀ value, declared.enable = some value → live.enable = some value
  policyIn : ∀ value, declared.policyIn = some value → live.policyIn = some value
  policyOut : ∀ value, declared.policyOut = some value → live.policyOut = some value
  policyForward : ∀ value, declared.policyForward = some value → live.policyForward = some value
  ebtables : ∀ value, declared.ebtables = some value → live.ebtables = some value
  logRatelimit : ∀ value, declared.logRatelimit = some value → live.logRatelimit = some value

theorem isNone_or_eq_iff {α : Type} [DecidableEq α] {declared live : Option α} :
    (declared.isNone || decide (declared = live)) = true ↔
      ∀ value, declared = some value → live = some value := by
  cases declared with
  | none => simp
  | some value => simp [eq_comm]

theorem satisfiedBy_iff {declared live : FirewallOptionsDecl} :
    declared.satisfiedBy live = true ↔ declared.SetIn live := by
  simp only [FirewallOptionsDecl.satisfiedBy, Bool.and_eq_true, isNone_or_eq_iff]
  constructor
  · rintro ⟨⟨⟨⟨⟨henable, hin⟩, hout⟩, hforward⟩, hebtables⟩, hlimit⟩
    exact ⟨henable, hin, hout, hforward, hebtables, hlimit⟩
  · rintro ⟨henable, hin, hout, hforward, hebtables, hlimit⟩
    exact ⟨⟨⟨⟨⟨henable, hin⟩, hout⟩, hforward⟩, hebtables⟩, hlimit⟩

/-- The options are changed at most once, and then to the declared ones. -/
structure OptionsReconciled (declared live : ClusterState) (changes : List Change) : Prop where
  undeclared : declared.firewallOptions = none →
    changes.filter (·.resource = .firewallOptions) = [] ∧
    (live.patched changes).firewallOptions = live.firewallOptions
  satisfied : ∀ options before, declared.firewallOptions = some options →
    live.firewallOptions = some before → options.SetIn before →
    changes.filter (·.resource = .firewallOptions) = []
  updated : ∀ options, declared.firewallOptions = some options →
    (∀ before, live.firewallOptions = some before → ¬options.SetIn before) →
    changes.filter (·.resource = .firewallOptions) =
      [{ kind := .update, identity := "cluster"
         payload := .firewallOptions live.firewallOptions (some options) }]
  patched : ∀ options, declared.firewallOptions = some options →
    ∃ after, (live.patched changes).firewallOptions = some after ∧ options.SetIn after

variable {declared live : ClusterState}

/-- Only the option changes change the options. -/
theorem patchedOptions_filter (changes : List Change) (options : Option FirewallOptionsDecl) :
    patchedOptions changes options = patchedOptions (changes.filter (·.resource = .firewallOptions))
        options := by
  induction changes generalizing options with
  | nil => rfl
  | cons change rest ih =>
    rw [filter_cons]
    split
    · exact ih _
    next hother =>
      obtain ⟨kind, identity, payload⟩ := change
      cases payload with
      | firewallOptions before after => exact absurd rfl hother
      | _ => exact ih options

theorem filter_flatMap_changes {listed : List Family}
    (hlisted : ∀ family ∈ listed, family ∈ families) :
    (listed.flatMap fun family => family.changes declared live).filter
      (·.resource = .firewallOptions) = [] := by
  rw [filter_eq_nil_iff]
  intro change hchange
  obtain ⟨family, hfamily, hin⟩ := mem_flatMap.mp hchange
  obtain ⟨-, edit, -, rfl⟩ := Family.mem_changes hin
  rw [Family.resource_change]
  simpa using resource_ne_firewallOptions (hlisted family hfamily)

theorem filter_diff : (diff declared live).filter (·.resource = .firewallOptions) =
    diffFirewallOptions declared.firewallOptions live.firewallOptions := by
  have hoptions : (diffFirewallOptions declared.firewallOptions
      live.firewallOptions).filter (·.resource = .firewallOptions) =
        diffFirewallOptions declared.firewallOptions live.firewallOptions := by
    rw [filter_eq_self]
    intro change hchange
    simpa using resource_of_mem_diffFirewallOptions hchange
  rw [diff_eq, filter_append, filter_append, hoptions,
    filter_flatMap_changes fun _ => mem_of_mem_take,
    filter_flatMap_changes fun _ => mem_of_mem_drop, nil_append,
    append_nil]

theorem optionsReconciled_diff : OptionsReconciled declared live (diff declared live) := by
  have hpatched : (live.patched (diff declared live)).firewallOptions =
      patchedOptions (diffFirewallOptions declared.firewallOptions
        live.firewallOptions) live.firewallOptions := by
    rw [← filter_diff, ← patchedOptions_filter]
    rfl
  constructor
  · intro hnone
    rw [filter_diff, hpatched, hnone]
    exact ⟨rfl, rfl⟩
  · intro options before hoptions hbefore hset
    rw [filter_diff, hoptions, hbefore]
    simp [diffFirewallOptions, satisfiedBy_iff.mpr hset]
  · intro options hoptions hdiffer
    rw [filter_diff, hoptions]
    cases hbefore : live.firewallOptions with
    | none => rfl
    | some before =>
      have hunset := satisfiedBy_iff.not.mpr (hdiffer before hbefore)
      simp [diffFirewallOptions, hunset]
  · intro options hoptions
    have hself : options.SetIn options :=
      ⟨fun _ => id, fun _ => id, fun _ => id, fun _ => id, fun _ => id, fun _ => id⟩
    rw [hpatched, hoptions]
    cases live.firewallOptions with
    | none => exact ⟨options, rfl, hself⟩
    | some before =>
      by_cases hset : options.satisfiedBy before = true
      · refine ⟨before, ?_, satisfiedBy_iff.mp hset⟩
        simp [diffFirewallOptions, hset, patchedOptions]
      · refine ⟨options, ?_, hself⟩
        simp [diffFirewallOptions, hset, patchedOptions]

end Options

section Main

variable {declared live : ClusterState}

/-- Only storage entries are sorted by the export. -/
theorem exported_of_normalized {spec : FamilySpec} (hspec : spec ∈ familySpecs)
    (hexported : ∀ storage ∈ live.storage, storage.Normalized) :
    ∀ before ∈ spec.family.items live, spec.Exported before := by
  simp only [familySpecs, mem_cons, not_mem_nil, or_false] at hspec
  rcases hspec with rfl | rfl | rfl | rfl | rfl | rfl | rfl | rfl | rfl | rfl |
    rfl | rfl
  case inr.inr.inl => exact hexported
  all_goals exact fun _ _ => trivial

/-- The changes are exactly those that the declared state asks for, and carried
out on the exported live state they give the declared one. -/
theorem diff_reconciles (hdeclared : declared.DistinctIdentities) (hlive : live.DistinctIdentities)
    (hexported : ∀ storage ∈ live.storage, storage.Normalized) :
    let changes := diff declared live
    (∀ spec ∈ familySpecs, declared.manages spec.family.name = true →
      spec.Reconciled declared live changes) ∧
    (∀ spec ∈ familySpecs, declared.manages spec.family.name = false →
      changes.filterMap spec.family.editOf = [] ∧
      spec.family.items (live.patched changes) = spec.family.items live) ∧
    (∀ change ∈ changes, change.resource = .firewallOptions ∨
      ∃ spec ∈ familySpecs, declared.manages spec.family.name = true ∧
        ∃ edit, spec.family.change edit = change) ∧
    OptionsReconciled declared live changes := by
  intro changes
  refine ⟨?_, ?_, ?_, optionsReconciled_diff⟩
  · intro spec hspec hmanaged
    have hfamily := mem_families hspec
    exact reconciled_diff hspec hmanaged (exported_of_normalized hspec hexported)
      (hdeclared spec.family hfamily) (hlive spec.family hfamily)
  · intro spec hspec hunmanaged
    have hnone : changes.filterMap spec.family.editOf = [] := by
      rw [editsOf_diff (mem_families hspec), hunmanaged]
      rfl
    refine ⟨hnone, ?_⟩
    rw [items_patched (mem_families hspec), Family.patched, hnone]
    rfl
  · intro change hchange
    rcases mem_diff hchange with hoptions | ⟨family, hfamily, hmanaged, hedit⟩
    · exact .inl (resource_of_mem_diffFirewallOptions hoptions)
    · rw [← familySpecs_families] at hfamily
      obtain ⟨spec, hspec, rfl⟩ := mem_map.mp hfamily
      exact .inr ⟨spec, hspec, hmanaged, hedit⟩

end Main

namespace ReconcileWitness

def noOptions : FirewallOptionsDecl :=
  { enable := none, policyIn := none, policyOut := none, policyForward := none, ebtables := none
    logRatelimit := none }

def storage (content : String) : StorageDecl :=
  { storage := "local", storageType := "dir"
    content
    nodes := "", disable := false, shared := false, path := "/var/lib/vz", pool := "", server := ""
    «export» := "", datastore := "", fingerprint := "", username := "", vgname := ""
    thinpool := "" }

def declared : ClusterState :=
  { declaredFamilies := some ["pools", "storage"]
    pools := [{ poolid := "web", comment := "", members := ["qemu/100"] }]
    storage := [storage "iso,images"] }

def live : ClusterState :=
  { pools := [{ poolid := "old", comment := "", members := [] }]
    storage := [storage "images,iso"] }

/-- One pool is deleted and one created; the storage only lists its contents in
another order. -/
theorem diff_reconciles_pools :
    (diff declared live).map (fun change => (change.kind, change.identity)) =
      [(.delete, "old"), (.create, "web")] ∧
    (FamilySpec.whole .pools rfl).Reconciled declared live (diff declared live) := by
  have hdeclared : declared.DistinctIdentities := distinctIdentities_of_validate rfl
  have hlive : live.DistinctIdentities := distinctIdentities_of_validate rfl
  have hexported : ∀ storage ∈ live.storage, storage.Normalized := by
    intro storage hstorage
    rw [mem_singleton.mp hstorage]
    exact ⟨by decide +kernel, by decide +kernel⟩
  refine ⟨by decide +kernel, ?_⟩
  exact (diff_reconciles hdeclared hlive hexported).1 _ (by simp [familySpecs]) (by decide)

def enabled : ClusterState :=
  { declaredFamilies := some ["firewall_options"]
    firewallOptions := some { noOptions with enable := some true } }

def restricted : ClusterState :=
  { firewallOptions :=
      some { noOptions with enable := some true, policyIn := some "DROP" } }

def unsorted : ClusterState :=
  { storage := [storage "iso,images"] }

/-- Options the document does not set are left as they are, and a storage entry
that is not in the export's order is updated even to itself. -/
theorem diff_leaves_options : (enabled.DistinctIdentities ∧ restricted.DistinctIdentities ∧
      enabled.manages "firewall_options" = true ∧
      enabled.firewallOptions ≠ restricted.firewallOptions ∧
      diff enabled restricted = [] ∧
      (restricted.patched (diff enabled restricted)).firewallOptions ≠ enabled.firewallOptions) ∧
    unsorted.DistinctIdentities ∧ (diff unsorted unsorted).map (·.kind) = [.update] := by
  refine ⟨⟨distinctIdentities_of_validate rfl,
    distinctIdentities_of_validate rfl, by decide, by decide,
    by decide +kernel, by decide +kernel⟩,
    distinctIdentities_of_validate rfl, by decide +kernel⟩

end ReconcileWitness

end Proxxx
