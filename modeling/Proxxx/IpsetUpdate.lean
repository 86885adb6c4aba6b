/-
Updates of firewall IP sets.  A set has no update of its own, so an update is a
list of calls that remove and add networks, or empty the set and create it
again: each call can be carried out when its turn comes, the set ends as
declared, and from wherever the calls stop a fresh export and the changes
against it still reach the declaration.
-/
import Proxxx.StateUpdates

namespace Proxxx

open FieldStore KeyedDiff
open List hiding lookup

namespace PveStore

/-- The set a call is about. -/
def ipsetOf : WriteCall → Option String
  | .createClusterFirewallIpset params => some (storedText "name" params)
  | .deleteClusterFirewallIpset name => some name
  | .addClusterFirewallIpsetCidr name _ => some name
  | .removeClusterFirewallIpsetCidr name _ => some name
  | _ => none

/-- What a call about a set presupposes: a network is added only where it is
absent and removed only where it is present, a set is created only if there is
none and deleted only if it is empty. -/
def Admits (store : PveStore) : WriteCall → Prop
  | .createClusterFirewallIpset params => store.ipsets.get (storedText "name" params) = none
  | .deleteClusterFirewallIpset name =>
    ∃ ipset, store.ipsets.get name = some ipset ∧ ipset.cidrs.objects = []
  | .addClusterFirewallIpsetCidr name params =>
    ∃ ipset, store.ipsets.get name = some ipset ∧ ipset.cidrs.get (storedText "cidr" params) = none
  | .removeClusterFirewallIpsetCidr name cidr =>
    ∃ ipset, store.ipsets.get name = some ipset ∧ (ipset.cidrs.get cidr).isSome = true
  | _ => True

section Calls

variable {store next : PveStore} {call : WriteCall} {calls : List WriteCall}
variable {name other cidr : String} {ipset : StoredIpset} {params : Params}

theorem admits_of_perform (hperform : store.perform call = .ok next) : store.Admits call := by
  revert hperform
  fun_cases store.perform call <;> intro hperform
  any_goals exact trivial
  any_goals cases hperform
  next hset _ => exact hset
  next hset hempty => exact ⟨_, hset, by simpa using hempty⟩
  next hset hentry => exact ⟨_, hset, hentry⟩
  next hset _ hentry => exact ⟨_, hset, by simp [hentry]⟩

/-- A call changes no set but the one it is about. -/
theorem perform_frame (hperform : store.perform call = .ok next)
    (hother : ipsetOf call ≠ some other) :
    next.ipsets.get other = store.ipsets.get other := by
  have hname (name : String) (hcall : ipsetOf call = some name) : other ≠ name :=
    fun hname => hother (hname ▸ hcall)
  revert hperform hname
  fun_cases store.perform call <;> intro hperform hname
  any_goals cases hperform
  case case2 =>
    obtain ⟨guests, -, hrest⟩ := RustStr.bind_eq_ok hperform
    obtain ⟨storages, -, hdone⟩ := RustStr.bind_eq_ok hrest
    cases hdone
    rfl
  case case4 => rfl
  case case8 => exact (Collection.get_insert ..).trans (if_neg (hname _ rfl))
  case case10 => exact (Collection.get_erase ..).trans (if_neg (hname _ rfl))
  case case14 => exact (Collection.get_modify ..).trans (if_neg (hname _ rfl))
  case case17 => exact (Collection.get_modify ..).trans (if_neg (hname _ rfl))
  all_goals
    obtain ⟨objects, -, hdone⟩ := RustStr.bind_eq_ok hperform
    cases hdone
    rfl

theorem run_frame (hrun : store.run calls = .ok next)
    (hother : ∀ call ∈ calls, ipsetOf call ≠ some other) :
    next.ipsets.get other = store.ipsets.get other := by
  induction calls generalizing store with
  | nil =>
    cases hrun
    rfl
  | cons call rest ih =>
    obtain ⟨hcall, hrest⟩ := forall_mem_cons.mp hother
    obtain ⟨mid, hperform, hlater⟩ := run_cons_eq_ok.mp hrun
    rw [ih hlater hrest, perform_frame hperform hcall]

/-- Remove networks that a set has. -/
theorem run_removals {cidrs : List String}
    (hset : store.ipsets.get name = some ipset) (hnodup : cidrs.Nodup)
    (hpresent : ∀ cidr ∈ cidrs, (ipset.cidrs.get cidr).isSome = true) :
    ∃ next left, store.run (cidrs.map (.removeClusterFirewallIpsetCidr name ·)) = .ok next ∧
      next.ipsets.get name = some left ∧ left.comment = ipset.comment ∧
      ∀ cidr, left.cidrs.get cidr = if cidr ∈ cidrs then none else ipset.cidrs.get cidr := by
  induction cidrs generalizing store ipset with
  | nil => exact ⟨store, ipset, rfl, hset, rfl, by simp⟩
  | cons head tail ih =>
    obtain ⟨hfresh, hrest⟩ := nodup_cons.mp hnodup
    obtain ⟨hhead, htail⟩ := forall_mem_cons.mp hpresent
    obtain ⟨fields, hfields⟩ := Option.isSome_iff_exists.mp hhead
    let mid : PveStore := { store with
      ipsets := store.ipsets.modify name fun ipset =>
        { ipset with cidrs := ipset.cidrs.erase head } }
    have hperform : store.perform (.removeClusterFirewallIpsetCidr name head) = .ok mid := by
      simp only [perform, hset, hfields]
      rfl
    have hmid : mid.ipsets.get name = some { ipset with cidrs := ipset.cidrs.erase head } := by
      simp [mid, Collection.get_modify, hset]
    obtain ⟨next, left, hrun, hleft, hcomment, hcidrs⟩ := ih hmid hrest (by
      intro cidr hcidr
      have hne : cidr ≠ head := fun heq => hfresh (heq ▸ hcidr)
      simpa [Collection.get_erase, hne] using htail cidr hcidr)
    refine ⟨next, left, run_cons_eq_ok.mpr ⟨mid, hperform, hrun⟩, hleft, hcomment, ?_⟩
    intro cidr
    rw [hcidrs, Collection.get_erase]
    by_cases hcidr : cidr = head <;> simp [hcidr]

/-- Add networks that a set does not have. -/
theorem run_additions {entries : List FirewallIpsetCidrDecl}
    (hset : store.ipsets.get name = some ipset)
    (hnodup : (entries.map FirewallIpsetCidrDecl.cidr).Nodup)
    (habsent : ∀ entry ∈ entries, ipset.cidrs.get entry.cidr = none) :
    ∃ next full, store.run (entries.map fun entry =>
        .addClusterFirewallIpsetCidr name (fwCidrParams entry)) = .ok next ∧
      next.ipsets.get name = some full ∧ full.comment = ipset.comment ∧
      ∀ cidr, full.cidrs.get cidr = ((lookup FirewallIpsetCidrDecl.cidr cidr entries).map
          fwCidrParams).or (ipset.cidrs.get cidr) := by
  induction entries generalizing store ipset with
  | nil => exact ⟨store, ipset, rfl, hset, rfl, by simp [lookup]⟩
  | cons head tail ih =>
    obtain ⟨hfresh, hrest⟩ := nodup_cons.mp hnodup
    obtain ⟨hhead, htail⟩ := forall_mem_cons.mp habsent
    let mid : PveStore := { store with
      ipsets := store.ipsets.modify name fun ipset =>
        { ipset with
          cidrs := ipset.cidrs.insert head.cidr (fwCidrParams head) } }
    have hcidr : storedText "cidr" (fwCidrParams head) = head.cidr := by
      simp [storedText, fwCidrParams]
    have hperform : store.perform (.addClusterFirewallIpsetCidr name (fwCidrParams head)) =
          .ok mid := by
      simp only [perform, hset, hcidr, hhead]
      rfl
    have hmid : mid.ipsets.get name = some { ipset with
        cidrs := ipset.cidrs.insert head.cidr (fwCidrParams head) } := by
      simp [mid, Collection.get_modify, hset]
    obtain ⟨next, full, hrun, hfull, hcomment, hcidrs⟩ := ih hmid hrest (by
      intro entry hentry
      have hne : entry.cidr ≠ head.cidr := by
        intro heq
        apply hfresh
        rw [mem_map]
        exact ⟨entry, hentry, heq⟩
      simpa [Collection.get_insert, hne] using htail entry hentry)
    refine ⟨next, full, run_cons_eq_ok.mpr ⟨mid, hperform, hrun⟩, hfull, hcomment, ?_⟩
    intro cidr
    rw [hcidrs, Collection.get_insert, KeyedDiff.lookup_cons]
    cases lookup FirewallIpsetCidrDecl.cidr cidr tail with
    | some entry => simp
    | none =>
      by_cases hne : cidr = head.cidr
      · simp [hne]
      · simp [hne, Ne.symm hne]

end Calls

end PveStore

/-- A declaration names every network once. -/
def FirewallIpsetDecl.Distinct (ipset : FirewallIpsetDecl) : Prop :=
  (ipset.cidrs.map FirewallIpsetCidrDecl.cidr).Nodup

/-- A stored set has the comment and the networks of a declaration. -/
structure StoredIpset.Holds (ipset : StoredIpset) (decl : FirewallIpsetDecl) : Prop where
  comment : ipset.comment = decl.comment
  cidrs : ∀ cidr, (ipset.cidrs.get cidr).map (readCidr cidr) =
    lookup FirewallIpsetCidrDecl.cidr cidr decl.cidrs

namespace PveStore

section Operations

variable {store : PveStore} {ipset : StoredIpset}
variable {before after decl : FirewallIpsetDecl} {cidr : String}

theorem readCidr_fwCidrParams {entry : FirewallIpsetCidrDecl} :
    readCidr entry.cidr (fwCidrParams entry) = entry := by
  have hcomment : storedText "comment" (fwCidrParams entry) = entry.comment := by
    by_cases hempty : entry.comment = "" <;> simp [storedText, fwCidrParams, hempty]
  have hnomatch : storedFlag "nomatch" (fwCidrParams entry) = entry.nomatch := by
    cases hflag : entry.nomatch with
    | false | true => simp [storedFlag, fwCidrParams, hflag]
  rw [readCidr, hcomment, hnomatch]

/-- What a network that was added is read as. -/
theorem map_readCidr_added {entries : List FirewallIpsetCidrDecl} :
    ((lookup FirewallIpsetCidrDecl.cidr cidr entries).map fwCidrParams).map (readCidr cidr) =
      lookup FirewallIpsetCidrDecl.cidr cidr entries := by
  cases hfound : lookup FirewallIpsetCidrDecl.cidr cidr entries with
  | none => rfl
  | some entry =>
    rw [Option.map_some, Option.map_some, ← key_of_lookup hfound, readCidr_fwCidrParams]

/-- The networks of a set that holds a declaration are those declared. -/
theorem isSome_of_holds (hholds : ipset.Holds decl) : (ipset.cidrs.get cidr).isSome = true ↔
    cidr ∈ decl.cidrs.map FirewallIpsetCidrDecl.cidr := by
  rw [← lookup_isSome, ← hholds.cidrs, Option.isSome_map]

/-- Create a set that is not there. -/
theorem run_create (habsent : store.ipsets.get after.name = none) (hdistinct : after.Distinct) :
    ∃ next full, store.run (applyFwIpsetCreate after) = .ok next ∧
      next.ipsets.get after.name = some full ∧ full.Holds after := by
  let params := ("name", after.name) :: pushOptional "comment" after.comment
  have hname : storedText "name" params = after.name := by simp [params, storedText]
  have hcomment : storedText "comment" params = after.comment := by
    by_cases hempty : after.comment = "" <;> simp [params, storedText, hempty]
  let created : StoredIpset := { comment := after.comment, cidrs := .empty }
  let mid : PveStore :=
    { store with ipsets := store.ipsets.insert after.name created }
  have hperform : store.perform (.createClusterFirewallIpset params) = .ok mid := by
    simp only [perform, hname, hcomment, habsent]
    rfl
  have hmid : mid.ipsets.get after.name = some created := by simp [mid, Collection.get_insert]
  obtain ⟨next, full, hrun, hfull, hsame, hcidrs⟩ := run_additions hmid hdistinct fun entry _ => rfl
  refine ⟨next, full, run_cons_eq_ok.mpr ⟨mid, hperform, hrun⟩, hfull, hsame, ?_⟩
  intro cidr
  rw [hcidrs]
  simpa [created] using map_readCidr_added

/-- Empty a set and delete it. -/
theorem run_delete (hset : store.ipsets.get before.name = some ipset)
    (hholds : ipset.Holds before) (hdistinct : before.Distinct) :
    ∃ next, store.run (applyFwIpsetDelete before) = .ok next ∧
      next.ipsets.get before.name = none := by
  obtain ⟨mid, left, hrun, hleft, -, hcidrs⟩ := run_removals hset hdistinct
    fun cidr hcidr => (isSome_of_holds hholds).mpr hcidr
  have hnone : ∀ cidr, left.cidrs.get cidr = none := by
    intro cidr
    rw [hcidrs]
    by_cases hcidr : cidr ∈ before.cidrs.map FirewallIpsetCidrDecl.cidr
    · rw [if_pos hcidr]
    · rw [if_neg hcidr, ← Option.not_isSome_iff_eq_none, isSome_of_holds hholds]
      exact hcidr
  have hempty : left.cidrs.objects = [] := by
    rw [eq_nil_iff_forall_not_mem]
    rintro ⟨cidr, fields⟩ hmem
    have hsome := Collection.get_eq_some.mpr hmem
    rw [hnone] at hsome
    cases hsome
  let last : PveStore := { mid with ipsets := mid.ipsets.erase before.name }
  have hperform : mid.perform (.deleteClusterFirewallIpset before.name) = .ok last := by
    simp only [perform, hleft, hempty]
    rfl
  refine ⟨last, ?_, by simp [last, Collection.get_erase]⟩
  rw [applyFwIpsetDelete, run_append_eq_ok]
  refine ⟨mid, ?_, run_singleton hperform⟩
  simpa [Function.comp_def] using hrun

theorem applyFwIpsetUpdate_recreates (hcomment : before.comment ≠ after.comment) :
    applyFwIpsetUpdate before after = applyFwIpsetDelete before ++ applyFwIpsetCreate after := by
  simp [applyFwIpsetUpdate, applyFwIpsetDelete, applyFwIpsetCreate, hcomment]

/-- The networks that vanish or change. -/
def removedCidrs (before after : FirewallIpsetDecl) : List String :=
  (before.cidrs.filter fun entry =>
    lookup FirewallIpsetCidrDecl.cidr entry.cidr after.cidrs ≠
      some entry).map FirewallIpsetCidrDecl.cidr

/-- The networks that are new or change. -/
def addedCidrs (before after : FirewallIpsetDecl) : List FirewallIpsetCidrDecl :=
  after.cidrs.filter fun entry =>
    lookup FirewallIpsetCidrDecl.cidr entry.cidr before.cidrs ≠ some entry

theorem applyFwIpsetUpdate_adjusts (hcomment : before.comment = after.comment)
    (hname : before.name = after.name) :
    applyFwIpsetUpdate before after = (removedCidrs before after).map
        (.removeClusterFirewallIpsetCidr after.name ·) ++
      (addedCidrs before after).map fun entry =>
        .addClusterFirewallIpsetCidr after.name (fwCidrParams entry) := by
  simp [applyFwIpsetUpdate, removedCidrs, addedCidrs, hcomment, hname, Function.comp_def]

theorem mem_removedCidrs (hdistinct : before.Distinct) : cidr ∈ removedCidrs before after ↔
    ∃ entry, lookup FirewallIpsetCidrDecl.cidr cidr before.cidrs = some entry ∧
      lookup FirewallIpsetCidrDecl.cidr cidr after.cidrs ≠ some entry :=
  mem_map_changed hdistinct

/-- What the set has of a network once the changed ones are removed. -/
theorem left_of_removed {left : StoredIpset} (hholds : ipset.Holds before)
    (hbefore : before.Distinct)
    (hremoved : ∀ cidr, left.cidrs.get cidr = if cidr ∈ removedCidrs before after then none
      else ipset.cidrs.get cidr) (cidr : String) :
    (left.cidrs.get cidr).map (readCidr cidr) =
      if lookup FirewallIpsetCidrDecl.cidr cidr before.cidrs =
          lookup FirewallIpsetCidrDecl.cidr cidr after.cidrs then
        lookup FirewallIpsetCidrDecl.cidr cidr after.cidrs
      else none := by
  rw [hremoved]
  by_cases hsame : lookup FirewallIpsetCidrDecl.cidr cidr before.cidrs =
      lookup FirewallIpsetCidrDecl.cidr cidr after.cidrs
  · have hkept : cidr ∉ removedCidrs before after := by
      rw [mem_removedCidrs hbefore]
      rintro ⟨entry, hentry, hchanged⟩
      exact hchanged (hsame.symm.trans hentry)
    rw [if_neg hkept, if_pos hsame, hholds.cidrs, hsame]
  · rw [if_neg hsame]
    by_cases hlisted : cidr ∈ removedCidrs before after
    · rw [if_pos hlisted]
      rfl
    · rw [if_neg hlisted, hholds.cidrs]
      cases hfound : lookup FirewallIpsetCidrDecl.cidr cidr before.cidrs with
      | none => rfl
      | some entry =>
        rw [hfound] at hsame
        exact absurd ((mem_removedCidrs hbefore).mpr ⟨entry, hfound, Ne.symm hsame⟩) hlisted

/-- Turn a set that holds the one declaration into one that holds the other. -/
theorem run_update (hname : before.name = after.name)
    (hset : store.ipsets.get after.name = some ipset)
    (hholds : ipset.Holds before) (hbefore : before.Distinct)
    (hafter : after.Distinct) :
    ∃ next full, store.run (applyFwIpsetUpdate before after) = .ok next ∧
      next.ipsets.get after.name = some full ∧ full.Holds after := by
  by_cases hcomment : before.comment = after.comment
  · have hunlisted : (removedCidrs before after).Nodup :=
      hbefore.sublist (filter_sublist.map _)
    obtain ⟨mid, left, hremove, hleft, hkept, hremoved⟩ := run_removals hset hunlisted (by
        intro cidr hcidr
        obtain ⟨entry, hentry, -⟩ := (mem_removedCidrs hbefore).mp hcidr
        rw [isSome_of_holds hholds, ← lookup_isSome, hentry]
        rfl)
    have hleftover := left_of_removed hholds hbefore hremoved
    have hlisted : ((addedCidrs before after).map FirewallIpsetCidrDecl.cidr).Nodup :=
      hafter.sublist (filter_sublist.map _)
    obtain ⟨next, full, hadd, hfull, hsame, hadded⟩ := run_additions hleft hlisted (by
        intro entry hentry
        obtain ⟨hmem, hchanged⟩ := mem_filter.mp hentry
        have hfound := lookup_of_mem hafter hmem
        have hgone := hleftover entry.cidr
        rw [hfound, if_neg (of_decide_eq_true hchanged)] at hgone
        exact Option.map_eq_none_iff.mp hgone)
    refine ⟨next, full, ?_, hfull, ?_, ?_⟩
    · rw [applyFwIpsetUpdate_adjusts hcomment hname, run_append_eq_ok]
      exact ⟨mid, hremove, hadd⟩
    · rw [hsame, hkept, hholds.comment, hcomment]
    · intro cidr
      rw [hadded, Option.map_or, map_readCidr_added, hleftover, addedCidrs, lookup_changed hafter]
      by_cases hunchanged : lookup FirewallIpsetCidrDecl.cidr cidr
          before.cidrs = lookup FirewallIpsetCidrDecl.cidr cidr after.cidrs
      · simp [hunchanged]
      · simp [hunchanged]
  · rw [← hname] at hset
    obtain ⟨mid, hdelete, hmid⟩ := run_delete hset hholds hbefore
    rw [hname] at hmid
    obtain ⟨next, full, hcreate, hfull, hdone⟩ := run_create hmid hafter
    refine ⟨next, full, ?_, hfull, hdone⟩
    rw [applyFwIpsetUpdate_recreates hcomment, run_append_eq_ok]
    exact ⟨mid, hdelete, hcreate⟩

end Operations

section Exported

variable {store : PveStore} {ipset : StoredIpset} {name : String}
variable {decl : FirewallIpsetDecl} {other : StateReadView}

/-- A set as the exporter projects it. -/
def exportedIpset (name : String) (ipset : StoredIpset) : FirewallIpsetDecl where
  name := name
  comment := ipset.comment
  cidrs := sortBy FirewallIpsetCidrDecl.cidr (listObjects readCidr ipset.cidrs)

theorem distinct_exportedIpset : (exportedIpset name ipset).Distinct := by
  have hsorted : (exportedIpset name ipset).cidrs.Perm
      (listObjects readCidr ipset.cidrs) := perm_insertionSort _ _
  rw [FirewallIpsetDecl.Distinct, (hsorted.map _).nodup_iff]
  simpa [listObjects, readCidr, Function.comp_def] using ipset.cidrs.distinct

theorem holds_exportedIpset : ipset.Holds (exportedIpset name ipset) :=
  ⟨rfl, fun _ => (lookup_sorted fun _ _ => rfl).symm⟩

/-- What the exporter has under each name. -/
theorem exported_ipsets (store : PveStore) (other : StateReadView) :
    ∃ live, exportFirewallIpsets (store.view other) = .ok live ∧
      ∀ name, lookup FirewallIpsetDecl.name name live =
        (store.ipsets.get name).map (exportedIpset name) := by
  let cidrsOf (name : String) : List FirewallIpsetCidrDecl :=
    ((store.ipsets.get name).map fun ipset => listObjects readCidr ipset.cidrs).getD []
  let project (wire : FirewallIpset) : FirewallIpsetDecl :=
    { name := wire.name, comment := wire.comment
      cidrs := sortBy FirewallIpsetCidrDecl.cidr (cidrsOf wire.name) }
  let read (name : String) (ipset : StoredIpset) : FirewallIpset :=
    { name, comment := ipset.comment }
  refine ⟨(sortBy FirewallIpset.name (listObjects read store.ipsets)).map project, ?_, ?_⟩
  · refine RustStr.mapM_eq_ok ?_
    intro wire hwire
    have hlisted := (mem_insertionSort _).mp hwire
    obtain ⟨⟨name, ipset⟩, hobject, rfl⟩ := mem_map.mp hlisted
    have hset := Collection.get_eq_some.mpr hobject
    simp only [view, project, cidrsOf, hset]
    rfl
  · intro name
    have hprojected : lookup FirewallIpsetDecl.name name
        ((sortBy FirewallIpset.name (listObjects read store.ipsets)).map project) =
        (store.ipsets.get name).map fun ipset => project (read name ipset) :=
      lookup_projected (fun _ _ => rfl) fun _ => rfl
    rw [hprojected]
    cases hset : store.ipsets.get name with
    | none => rfl
    | some ipset => simp [project, cidrsOf, read, hset, exportedIpset]

/-- A fresh export shows the set as declared. -/
def ShowsIpset (store : PveStore) (other : StateReadView) (decl : FirewallIpsetDecl) : Prop :=
  ∃ live ipset, exportFirewallIpsets (store.view other) = .ok live ∧
    lookup FirewallIpsetDecl.name decl.name live = some ipset ∧
    ipset.comment = decl.comment ∧ ipset.cidrs.Perm decl.cidrs

theorem showsIpset_of_holds (hset : store.ipsets.get decl.name = some ipset)
    (hholds : ipset.Holds decl) (hdistinct : decl.Distinct) :
    store.ShowsIpset other decl := by
  obtain ⟨live, hlive, hlookup⟩ := exported_ipsets store other
  refine ⟨live, exportedIpset decl.name ipset, hlive, ?_, hholds.comment, ?_⟩
  · rw [hlookup, hset]
    rfl
  · apply perm_of_lookup distinct_exportedIpset hdistinct
    intro cidr
    rw [← holds_exportedIpset.cidrs, hholds.cidrs]

end Exported

section Edits

variable {store last : PveStore} {other : StateReadView} {name : String}
variable {edit : Edit FirewallIpsetDecl}
variable {changes : List (Edit FirewallIpsetDecl)}

/-- An edit fits what the store has under its name. -/
def Ready (store : PveStore) : Edit FirewallIpsetDecl → Prop
  | .delete before => ∃ ipset, store.ipsets.get before.name = some ipset ∧
      ipset.Holds before ∧ before.Distinct
  | .update before after => before.name = after.name ∧
      ∃ ipset, store.ipsets.get before.name = some ipset ∧
        ipset.Holds before ∧ before.Distinct ∧ after.Distinct
  | .create after => store.ipsets.get after.name = none ∧ after.Distinct

/-- An edit has done what it says. -/
def Done (store : PveStore) : Edit FirewallIpsetDecl → Prop
  | .delete before => store.ipsets.get before.name = none
  | .update _ after | .create after => ∃ ipset,
      store.ipsets.get after.name = some ipset ∧ ipset.Holds after

theorem run_edit (hready : store.Ready edit) :
    ∃ next, store.run (applyFwIpset edit) = .ok next ∧ next.Done edit := by
  cases edit with
  | delete before =>
    obtain ⟨ipset, hset, hholds, hdistinct⟩ := hready
    exact run_delete hset hholds hdistinct
  | update before after =>
    obtain ⟨hname, ipset, hset, hholds, hbefore, hafter⟩ := hready
    rw [hname] at hset
    obtain ⟨next, full, hrun, hfull, hdone⟩ := run_update hname hset hholds hbefore hafter
    exact ⟨next, hrun, full, hfull, hdone⟩
  | create after =>
    obtain ⟨habsent, hdistinct⟩ := hready
    obtain ⟨next, full, hrun, hfull, hdone⟩ := run_create habsent hdistinct
    exact ⟨next, hrun, full, hfull, hdone⟩

/-- Readiness is about the set under the edit's name. -/
theorem Ready.congr {mid : PveStore} (hsame : mid.ipsets.get (edit.keyBy FirewallIpsetDecl.name) =
      store.ipsets.get (edit.keyBy FirewallIpsetDecl.name))
    (hready : store.Ready edit) : mid.Ready edit := by
  cases edit with
  | delete before =>
    obtain ⟨ipset, hset, hrest⟩ := hready
    exact ⟨ipset, hsame.trans hset, hrest⟩
  | update before after =>
    obtain ⟨hname, ipset, hset, hrest⟩ := hready
    exact ⟨hname, ipset, hsame.trans hset, hrest⟩
  | create after => exact ⟨hsame.trans hready.1, hready.2⟩

/-- So is what an edit has done. -/
theorem Done.congr {mid : PveStore} (hkeeps : KeepsKey FirewallIpsetDecl.name edit)
    (hsame : mid.ipsets.get (edit.keyBy FirewallIpsetDecl.name) =
      store.ipsets.get (edit.keyBy FirewallIpsetDecl.name))
    (hdone : store.Done edit) : mid.Done edit := by
  cases edit with
  | delete before => exact hsame.trans hdone
  | update before after =>
    obtain ⟨ipset, hset, hholds⟩ := hdone
    rw [Edit.keyBy, ← hkeeps] at hsame
    exact ⟨ipset, hsame.trans hset, hholds⟩
  | create after =>
    obtain ⟨ipset, hset, hholds⟩ := hdone
    exact ⟨ipset, hsame.trans hset, hholds⟩

theorem ipsetOf_applyFwIpsetCreate {after : FirewallIpsetDecl}
    {call : WriteCall} (hcall : call ∈ applyFwIpsetCreate after) :
    ipsetOf call = some after.name := by
  rcases mem_cons.mp hcall with rfl | hadd
  · simp [ipsetOf, storedText]
  · obtain ⟨entry, -, rfl⟩ := mem_map.mp hadd
    rfl

theorem ipsetOf_applyFwIpsetDelete {before : FirewallIpsetDecl}
    {call : WriteCall} (hcall : call ∈ applyFwIpsetDelete before) :
    ipsetOf call = some before.name := by
  rcases mem_append.mp hcall with hremove | hdelete
  · obtain ⟨entry, -, rfl⟩ := mem_map.mp hremove
    rfl
  · rw [mem_singleton.mp hdelete]
    rfl

/-- The calls of an edit are about the set under its name. -/
theorem ipsetOf_applyFwIpset (hkeeps : KeepsKey FirewallIpsetDecl.name edit)
    {call : WriteCall} (hcall : call ∈ applyFwIpset edit) :
    ipsetOf call = some (edit.keyBy FirewallIpsetDecl.name) := by
  cases edit with
  | delete before => exact ipsetOf_applyFwIpsetDelete hcall
  | create after => exact ipsetOf_applyFwIpsetCreate hcall
  | update before after =>
    have hname : after.name = before.name := hkeeps
    rw [applyFwIpset] at hcall
    by_cases hcomment : before.comment = after.comment
    · rw [applyFwIpsetUpdate_adjusts hcomment hname.symm, hname] at hcall
      rcases mem_append.mp hcall with hremove | hadd
      · obtain ⟨cidr, -, rfl⟩ := mem_map.mp hremove
        rfl
      · obtain ⟨entry, -, rfl⟩ := mem_map.mp hadd
        rfl
    · rw [applyFwIpsetUpdate_recreates hcomment] at hcall
      rcases mem_append.mp hcall with hdelete | hcreate
      · exact ipsetOf_applyFwIpsetDelete hdelete
      · rw [Edit.keyBy, ← hname]
        exact ipsetOf_applyFwIpsetCreate hcreate

/-- Edits leave the sets under other names alone. -/
theorem run_edits_frame (hkeeps : ∀ edit ∈ changes, KeepsKey FirewallIpsetDecl.name edit)
    (hrun : store.run (changes.flatMap applyFwIpset) = .ok last)
    (hother : ∀ edit ∈ changes, edit.keyBy FirewallIpsetDecl.name ≠ name) :
    last.ipsets.get name = store.ipsets.get name := by
  apply run_frame hrun
  intro call hcall
  obtain ⟨edit, hedit, hmem⟩ := mem_flatMap.mp hcall
  rw [ipsetOf_applyFwIpset (hkeeps edit hedit) hmem]
  exact fun hname => hother edit hedit (Option.some.inj hname)

/-- An edit that fits at the beginning is done behind all of them. -/
theorem done_of_run_edits (hkeeps : ∀ edit ∈ changes, KeepsKey FirewallIpsetDecl.name edit)
    (hnodup : (changes.map (Edit.keyBy FirewallIpsetDecl.name)).Nodup)
    (hrun : store.run (changes.flatMap applyFwIpset) = .ok last)
    (hedit : edit ∈ changes) (hready : store.Ready edit) : last.Done edit := by
  obtain ⟨front, back, rfl⟩ := append_of_mem hedit
  rw [flatMap_append, flatMap_cons, run_append_eq_ok] at hrun
  obtain ⟨start, hfront, hlater⟩ := hrun
  obtain ⟨done, hdone, hback⟩ := run_append_eq_ok.mp hlater
  simp only [map_append, map_cons, nodup_append, nodup_cons, mem_cons, mem_map] at hnodup
  have hstart : start.ipsets.get (edit.keyBy FirewallIpsetDecl.name) =
      store.ipsets.get (edit.keyBy FirewallIpsetDecl.name) := by
    apply run_edits_frame (fun one hone => hkeeps one (by simp [hone])) hfront
    intro one hone
    exact hnodup.2.2 _ ⟨one, hone, rfl⟩ _ (.inl rfl)
  have hend : last.ipsets.get (edit.keyBy FirewallIpsetDecl.name) =
      done.ipsets.get (edit.keyBy FirewallIpsetDecl.name) := by
    apply run_edits_frame (fun one hone => hkeeps one (by simp [hone])) hback
    intro one hone hname
    exact hnodup.2.1.1 ⟨one, hone, hname⟩
  obtain ⟨next, hnext, heffect⟩ := run_edit (hready.congr hstart)
  cases hdone.symm.trans hnext
  exact heffect.congr (hkeeps edit hedit) hend

/-- Edits that fit can all be carried out. -/
theorem exists_run_edits (hkeeps : ∀ edit ∈ changes, KeepsKey FirewallIpsetDecl.name edit)
    (hnodup : (changes.map (Edit.keyBy FirewallIpsetDecl.name)).Nodup)
    (hready : ∀ edit ∈ changes, store.Ready edit) :
    ∃ last, store.run (changes.flatMap applyFwIpset) = .ok last := by
  induction changes generalizing store with
  | nil => exact ⟨store, rfl⟩
  | cons head tail ih =>
    obtain ⟨hfresh, hrest⟩ := nodup_cons.mp hnodup
    obtain ⟨hkept, hkeptTail⟩ := forall_mem_cons.mp hkeeps
    obtain ⟨hhead, htail⟩ := forall_mem_cons.mp hready
    obtain ⟨mid, hmid, -⟩ := run_edit hhead
    have hframe : ∀ edit ∈ tail, mid.Ready edit := by
      intro edit hedit
      apply (htail edit hedit).congr
      apply run_frame hmid
      intro call hcall hname
      rw [ipsetOf_applyFwIpset hkept hcall, Option.some.injEq] at hname
      exact hfresh (hname ▸ mem_map_of_mem hedit)
    obtain ⟨last, hlast⟩ := ih hkeptTail hrest hframe
    exact ⟨last, run_append_eq_ok.mpr ⟨mid, hmid, hlast⟩⟩

end Edits

section Recovery

variable {store last : PveStore} {other : StateReadView}
variable {declared fresh : List FirewallIpsetDecl}
variable {after : FirewallIpsetDecl} {edit : Edit FirewallIpsetDecl}

/-- The calls for all the changes of sets. -/
def ipsetCalls (declared live : List FirewallIpsetDecl) : List WriteCall :=
  (diffFirewallIpsets declared live).flatMap applyFwIpsetChange

theorem ipsetCalls_eq : ipsetCalls declared fresh =
    (edits FirewallIpsetDecl.name sameRecord declared fresh).flatMap applyFwIpset := by
  let change : Edit FirewallIpsetDecl → Change := Family.firewallIpsets.change
  have hdiff : diffFirewallIpsets declared fresh =
      (edits FirewallIpsetDecl.name sameRecord declared fresh).map change :=
    rfl
  have hcalls (edit : Edit FirewallIpsetDecl) :
      applyFwIpsetChange (change edit) = applyFwIpset edit := by cases edit <;> rfl
  rw [ipsetCalls, hdiff, flatMap_map]
  simp only [hcalls]

/-- What the exporter shows is what the store holds. -/
theorem lookup_fresh (hfresh : exportFirewallIpsets (store.view other) = .ok fresh)
    (name : String) : lookup FirewallIpsetDecl.name name fresh =
      (store.ipsets.get name).map (exportedIpset name) := by
  obtain ⟨exported, hexported, hlookup⟩ := exported_ipsets store other
  cases hexported.symm.trans hfresh
  exact hlookup name

theorem stored_of_fresh {name : String} {before : FirewallIpsetDecl}
    (hfresh : exportFirewallIpsets (store.view other) = .ok fresh)
    (hbefore : lookup FirewallIpsetDecl.name name fresh = some before) :
    before.Distinct ∧ ∃ ipset, store.ipsets.get name = some ipset ∧ ipset.Holds before := by
  rw [lookup_fresh hfresh] at hbefore
  obtain ⟨ipset, hset, rfl⟩ := Option.map_eq_some_iff.mp hbefore
  exact ⟨distinct_exportedIpset, ipset, hset, holds_exportedIpset⟩

/-- A change against a fresh export fits the store. -/
theorem ready_of_mem_edits (hfresh : exportFirewallIpsets (store.view other) = .ok fresh)
    (hedit : edit ∈ edits FirewallIpsetDecl.name sameRecord declared fresh)
    (hdistinct : ∀ after, lookup FirewallIpsetDecl.name
      (edit.keyBy FirewallIpsetDecl.name) declared = some after → after.Distinct) :
    store.Ready edit := by
  have hexpected := mem_edits.mp hedit
  have hkeeps := keepsKey_of_mem_edits hedit
  cases hbefore : lookup FirewallIpsetDecl.name (edit.keyBy FirewallIpsetDecl.name) fresh with
  | none =>
    have habsent := hbefore
    rw [lookup_fresh hfresh, Option.map_eq_none_iff] at habsent
    cases hafter : lookup FirewallIpsetDecl.name (edit.keyBy FirewallIpsetDecl.name) declared with
    | none => simp [hbefore, hafter, expected] at hexpected
    | some after =>
      rw [hbefore, hafter, expected, Option.some.injEq] at hexpected
      subst hexpected
      exact ⟨habsent, hdistinct after hafter⟩
  | some before =>
    obtain ⟨hbeforeDistinct, ipset, hset, hholds⟩ := stored_of_fresh hfresh hbefore
    cases hafter : lookup FirewallIpsetDecl.name (edit.keyBy FirewallIpsetDecl.name) declared with
    | none =>
      rw [hbefore, hafter, expected, Option.some.injEq] at hexpected
      subst hexpected
      exact ⟨ipset, hset, hholds, hbeforeDistinct⟩
    | some after =>
      rw [hbefore, hafter, expected] at hexpected
      split at hexpected
      · cases hexpected
      · cases hexpected
        exact ⟨hkeeps.symm, ipset, hset, hholds, hbeforeDistinct, hdistinct after hafter⟩

/-- From any store, the changes against a fresh export reach a declared set. -/
theorem shows_of_ipsetCalls
    (hafter : lookup FirewallIpsetDecl.name after.name declared = some after)
    (hdistinct : after.Distinct)
    (hfresh : exportFirewallIpsets (store.view other) = .ok fresh)
    (hrun : store.run (ipsetCalls declared fresh) = .ok last) :
    last.ShowsIpset other after := by
  rw [ipsetCalls_eq] at hrun
  have hdone (edit : Edit FirewallIpsetDecl) (hkey : edit.keyBy FirewallIpsetDecl.name = after.name)
      (hedit : edit ∈ edits FirewallIpsetDecl.name sameRecord declared fresh) : last.Done edit := by
    apply done_of_run_edits (fun edit => keepsKey_of_mem_edits) nodup_edits hrun hedit
    apply ready_of_mem_edits hfresh hedit
    intro found hfound
    rw [hkey, hafter] at hfound
    cases hfound
    exact hdistinct
  cases hbefore : lookup FirewallIpsetDecl.name after.name fresh with
  | none =>
    have hedit : .create after ∈ edits FirewallIpsetDecl.name sameRecord declared fresh :=
      mem_edits.mpr (by rw [Edit.keyBy, hafter, hbefore, expected])
    obtain ⟨ipset, hset, hholds⟩ := hdone (.create after) rfl hedit
    exact showsIpset_of_holds hset hholds hdistinct
  | some before =>
    have hname : before.name = after.name := key_of_lookup hbefore
    by_cases hsame : before = after
    · obtain ⟨-, ipset, hset, hholds⟩ := stored_of_fresh hfresh hbefore
      have hkept : last.ipsets.get after.name = store.ipsets.get after.name := by
        apply run_edits_frame (fun edit => keepsKey_of_mem_edits) hrun
        intro edit hedit hkey
        have hexpected := mem_edits.mp hedit
        rw [hkey, hafter, hbefore, expected, if_pos (sameRecord_iff.mpr hsame)] at hexpected
        cases hexpected
      rw [hsame] at hholds
      exact showsIpset_of_holds (hkept.trans hset) hholds hdistinct
    · have hedit : .update before after ∈ edits FirewallIpsetDecl.name sameRecord declared fresh :=
        mem_edits.mpr (by
          rw [Edit.keyBy, hname, hafter, hbefore, expected, if_neg (mt sameRecord_iff.mp hsame)])
      obtain ⟨ipset, hset, hholds⟩ := hdone (.update before after) hname hedit
      exact showsIpset_of_holds hset hholds hdistinct

/-- They can be carried out if every declared set names its networks once. -/
theorem exists_run_ipsetCalls (hdistinct : ∀ after ∈ declared, after.Distinct)
    (hfresh : exportFirewallIpsets (store.view other) = .ok fresh) :
    ∃ last, store.run (ipsetCalls declared fresh) = .ok last := by
  rw [ipsetCalls_eq]
  apply exists_run_edits (fun edit => keepsKey_of_mem_edits) nodup_edits
  intro edit hedit
  apply ready_of_mem_edits hfresh hedit
  intro after hafter
  exact hdistinct after (mem_of_lookup hafter)

end Recovery

end PveStore

/-- The update of a set: every call can be carried out in its turn, the set
ends as declared, and if the calls stop anywhere, carried out or not, the
changes against a fresh export reach the declared set. -/
theorem fw_ipset_update_reaches (store : PveStore) (other : StateReadView)
    (declared live : List FirewallIpsetDecl) (before after : FirewallIpsetDecl)
    (hlive : exportFirewallIpsets (store.view other) = .ok live)
    (hbefore : lookup FirewallIpsetDecl.name after.name live = some before)
    (hafter : lookup FirewallIpsetDecl.name after.name declared = some after)
    (hdistinct : after.Distinct) :
    (∀ done call rest, applyFwIpsetUpdate before after = done ++ call :: rest →
      ∃ mid, store.run done = .ok mid ∧ mid.Admits call) ∧
    (∃ next, store.run (applyFwIpsetUpdate before after) = .ok next ∧ next.ShowsIpset other after) ∧
    ∀ done mid, done <+: applyFwIpsetUpdate before after → store.run done = .ok mid →
      ∃ fresh, exportFirewallIpsets (mid.view other) = .ok fresh ∧
        (∀ last, mid.run (PveStore.ipsetCalls declared fresh) = .ok last →
          last.ShowsIpset other after) ∧
        ((∀ ipset ∈ declared, ipset.Distinct) →
          ∃ last, mid.run (PveStore.ipsetCalls declared fresh) = .ok last) := by
  obtain ⟨hbeforeDistinct, ipset, hset, hholds⟩ := PveStore.stored_of_fresh hlive hbefore
  obtain ⟨next, full, hrun, hfull, hdone⟩ := PveStore.run_update
    (key_of_lookup hbefore) hset hholds hbeforeDistinct hdistinct
  refine ⟨?_, ?_, ?_⟩
  · intro done call rest hsplit
    rw [hsplit] at hrun
    obtain ⟨mid, hmid, hlater⟩ := PveStore.run_append_eq_ok.mp hrun
    obtain ⟨later, hperform, -⟩ := PveStore.run_cons_eq_ok.mp hlater
    exact ⟨mid, hmid, PveStore.admits_of_perform hperform⟩
  · exact ⟨next, hrun, PveStore.showsIpset_of_holds hfull hdone hdistinct⟩
  · intro done mid _ _
    obtain ⟨fresh, hfresh, -⟩ := PveStore.exported_ipsets mid other
    refine ⟨fresh, hfresh, ?_, ?_⟩
    · intro last hlast
      exact PveStore.shows_of_ipsetCalls hafter hdistinct hfresh hlast
    · intro hall
      exact PveStore.exists_run_ipsetCalls hall hfresh

namespace IpsetWitness

def store : PveStore :=
  { PveStore.blank with
    ipsets := ⟨[("blocked", {
      comment := "abuse"
      cidrs := ⟨[("10.0.0.0/8", [("cidr", "10.0.0.0/8")]),
        ("192.0.2.7", [("cidr", "192.0.2.7"), ("comment", "scanner")])],
        by decide⟩ })], by decide⟩ }

def live : FirewallIpsetDecl where
  name := "blocked"
  comment := "abuse"
  cidrs := [{ cidr := "10.0.0.0/8", comment := "", «nomatch» := false },
    { cidr := "192.0.2.7", comment := "scanner", «nomatch» := false }]

/-- With another comment, one network changed and one replaced. -/
def renamed : FirewallIpsetDecl where
  name := "blocked"
  comment := "abuse and scans"
  cidrs := [{ cidr := "192.0.2.7", comment := "scanner", «nomatch» := true },
    { cidr := "198.51.100.0/24", comment := "", «nomatch» := false }]

theorem fw_ipset_update_reaches_renamed :
    ∃ next, store.run (applyFwIpsetUpdate live renamed) = .ok next ∧
      next.ShowsIpset ExportWitness.view renamed := by
  have hlive : exportFirewallIpsets (store.view ExportWitness.view) = .ok [live] := by
    decide +kernel
  exact (fw_ipset_update_reaches store ExportWitness.view [renamed] [live]
    live renamed hlive (by decide +kernel) (by decide +kernel)
    (by simp [FirewallIpsetDecl.Distinct, renamed])).2.1

end IpsetWitness

end Proxxx
