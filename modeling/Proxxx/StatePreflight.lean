/-
The risk gate of a state apply: what each change is assessed as, and the
refusal of a run with a severe risk.
-/
import Proxxx.GuestPreflight
import Proxxx.StateDiff

namespace Proxxx

open RustStr List

inductive StateRisk where
  | poolDeleteNonEmpty (poolid : String) (memberCount : Nat)
  | aclDeleteRootRole (path ugid role : String)
  | aclDeleteAuditor (path ugid role : String)
  | storageDeleteShared (storage : String)
  | storagePropertyChange (storage what : String)
  | aclPropagateFlip (path ugid : String) (newValue : Bool)
  | backupJobDelete (id : String)
  | firewallDisabled
  | firewallPolicyLoosened (direction : String)
  | firewallAliasDelete (name : String)
  | firewallIpsetDelete (name : String)
  | firewallGroupDelete (group : String)
  | mappingPciDelete (id : String)
  | mappingUsbDelete (id : String)
  | notificationMatcherDelete (name : String)
  | haRuleDelete (rule : String)
  | haRuleStrictChange (rule : String)
  | haResourceDelete (sid : String)
  | haResourceStateChange (sid before after : String)
  | bulkChangeCount (n : Nat)
deriving Repr, DecidableEq

def StateRisk.level : StateRisk → RiskLevel
  | .poolDeleteNonEmpty _ _ | .aclDeleteRootRole _ _ _
  | .storageDeleteShared _ | .firewallDisabled | .firewallGroupDelete _
  | .mappingPciDelete _ | .mappingUsbDelete _ | .haRuleStrictChange _
  | .haResourceDelete _ => .severe
  | .storagePropertyChange _ _ | .aclPropagateFlip _ _ _
  | .aclDeleteAuditor _ _ _ | .backupJobDelete _ | .firewallPolicyLoosened _
  | .firewallAliasDelete _ | .firewallIpsetDelete _
  | .notificationMatcherDelete _ | .haRuleDelete _
  | .haResourceStateChange _ _ _ => .warning
  | .bulkChangeCount n => if 50 ≤ n then .severe else if 10 ≤ n then .warning else .notice

def rootLikeRoles : List String := ["Administrator", "PVEAdmin", "Root"]

def auditorLikeRoles : List String := ["PVEAuditor", "Auditor"]

def isRootLike (role : String) : Bool :=
  rootLikeRoles.any fun known => RustStr.eqIgnoreAsciiCase known role

def isAuditorLike (role : String) : Bool :=
  auditorLikeRoles.any fun known => RustStr.eqIgnoreAsciiCase known role

/-- The four parts of a grant's display identity, as they are read back from
it. -/
structure AclIdentity where
  path : String
  kind : String
  ugid : String
  role : String
deriving Repr, DecidableEq

def parseAclIdentity (identity : String) : Option AclIdentity := do
  let (path, rest) ← RustStr.splitOnce identity " "
  let rest := RustStr.trimStartMatches rest '['
  let (kindUgid, role) ← RustStr.splitOnce rest "] "
  let (kind, ugid) ← RustStr.splitOnce kindUgid "/"
  return { path, kind, ugid, role }

def AclIdentity.names (identity : AclIdentity) (grant : AclDecl) : Bool :=
  grant.path = identity.path && grant.kind = identity.kind &&
    grant.ugid = identity.ugid && grant.roleid = identity.role

def findAclByIdentity (identity : String) (grants : List AclDecl) : Option AclDecl :=
  (parseAclIdentity identity).bind fun parts => grants.find? parts.names

def findAclByIdentityIn (identity : String) (value : Option AclDecl) : Option AclDecl :=
  value.bind fun grant =>
    (parseAclIdentity identity).bind fun parts => if parts.names grant then some grant else none

namespace StatePreflight

/-- What the deletion of a grant is assessed as. -/
def assessAclDelete (identity : String) (live : ClusterState) : List StateRisk :=
  match findAclByIdentity identity live.acl with
  | none => []
  | some grant =>
    if isRootLike grant.roleid then
      [.aclDeleteRootRole grant.path grant.ugid grant.roleid]
    else if isAuditorLike grant.roleid then
      [.aclDeleteAuditor grant.path grant.ugid grant.roleid]
    else []

def assessAclUpdate (identity : String) (after : Option AclDecl)
    (live : ClusterState) : List StateRisk :=
  match findAclByIdentityIn identity after, findAclByIdentity identity live.acl with
  | some declared, some current =>
    if declared.propagate ≠ current.propagate then
      [.aclPropagateFlip current.path current.ugid declared.propagate]
    else []
  | _, _ => []

/-- A field that guests may rely on is changed. -/
def assessStorageUpdate (identity : String) (before after : StorageDecl) : List StateRisk :=
  let changed {α : Type} [DecidableEq α] (field : String)
      (get : StorageDecl → α) : List StateRisk :=
    if get before ≠ get after then [.storagePropertyChange identity field]
    else []
  changed "content" (·.content) ++ changed "path" (·.path) ++
    changed "server" (·.server) ++ changed "shared" (·.shared)

def assessOptionsUpdate (before after : FirewallOptionsDecl) : List StateRisk :=
  let loosened (direction : String)
      (policy : FirewallOptionsDecl → Option String) : List StateRisk :=
    if policy after = some "ACCEPT" ∧ policy before ≠ some "ACCEPT" then
      [.firewallPolicyLoosened direction]
    else []
  (if before.enable = some true ∧ after.enable = some false then
    [.firewallDisabled] else []) ++
  loosened "policy_in" (·.policyIn) ++ loosened "policy_out" (·.policyOut)

/-- States in which the manager does not keep a resource running. -/
def lessEnforced (state : String) : Bool :=
  state = "disabled" || state = "ignored" || state = "stopped"

def assessOne (change : Change) (live : ClusterState) : List StateRisk :=
  let identity := change.identity
  match change.kind, change.payload with
  | .delete, .pool _ _ =>
    match live.pools.find? fun pool => pool.poolid = identity with
    | some pool =>
      if pool.members.isEmpty then []
      else [.poolDeleteNonEmpty pool.poolid pool.members.length]
    | none => []
  | .delete, .acl _ _ => assessAclDelete identity live
  | .update, .acl _ after => assessAclUpdate identity after live
  | .delete, .storage _ _ =>
    match live.storage.find? fun storage => storage.storage = identity with
    | some storage => if storage.shared then [.storageDeleteShared storage.storage] else []
    | none => []
  | .update, .storage (some before) (some after) => assessStorageUpdate identity before after
  | .delete, .backupJob _ _ => [.backupJobDelete identity]
  | .update, .firewallOptions (some before) (some after) => assessOptionsUpdate before after
  | .delete, .firewallAlias _ _ => [.firewallAliasDelete identity]
  | .delete, .firewallIpset _ _ => [.firewallIpsetDelete identity]
  | .delete, .firewallGroup _ _ => [.firewallGroupDelete identity]
  | .delete, .mappingPci _ _ => [.mappingPciDelete identity]
  | .delete, .mappingUsb _ _ => [.mappingUsbDelete identity]
  | .delete, .notificationMatcher _ _ => [.notificationMatcherDelete identity]
  | .delete, .haRule _ _ => [.haRuleDelete identity]
  | .update, .haRule (some before) (some after) =>
    if after.ruleType = "node-affinity" ∧ before.strict ≠ after.strict then
      [.haRuleStrictChange identity]
    else []
  | .delete, .haResource _ _ => [.haResourceDelete identity]
  | .update, .haResource (some before) (some after) =>
    if lessEnforced after.state ∧ ¬lessEnforced before.state then
      [.haResourceStateChange identity before.state after.state]
    else []
  | _, _ => []

def assess (changes : List Change) (live : ClusterState) : List StateRisk :=
  (if 10 ≤ changes.length then [.bulkChangeCount changes.length] else []) ++
    changes.flatMap fun change => assessOne change live

end StatePreflight

/-- A run that was refused. -/
structure PreflightRefusal where
deriving Repr, DecidableEq

/-- Without `prune`, apply reports a deletion as skipped. -/
def dispatchedByApply (change : Change) (prune : Bool) : Bool :=
  prune || change.kind ≠ .delete

/-- Refuse a run with a severe risk among the changes it would send. -/
def enforceStatePreflight (changes : List Change) (live : ClusterState)
    (force prune : Bool) : Except PreflightRefusal Unit :=
  let dispatched := changes.filter fun change => dispatchedByApply change prune
  let risks := StatePreflight.assess dispatched live
  if risks.isEmpty then .ok ()
  else if highestLevel (risks.map StateRisk.level) = .severe ∧ !force then
    .error {}
  else .ok ()

section Identity

variable {grant : AclDecl}

/-- The grant's parts do not hold the separators of its display identity. -/
structure AclDecl.Separable (grant : AclDecl) : Prop where
  path : ' ' ∉ grant.path.toList
  kind : '/' ∉ grant.kind.toList
  subject : ¬[']', ' '] <:+: grant.kind.toList ++ '/' :: grant.ugid.toList

/-- The kind, as it is read back. -/
def AclDecl.readKind (grant : AclDecl) : String :=
  RustStr.trimStartMatches grant.kind '['

theorem AclDecl.toList_display : grant.display.toList =
    grant.path.toList ++ ' ' :: ('[' :: (grant.kind.toList ++
      '/' :: (grant.ugid.toList ++ ']' :: ' ' :: grant.roleid.toList))) := by
  simp [AclDecl.display]

/-- What is left of the identity behind the path, without its brackets. -/
theorem AclDecl.toList_trimmed (rest : String) (hrest : rest.toList = '[' :: (grant.kind.toList ++
      '/' :: (grant.ugid.toList ++ ']' :: ' ' :: grant.roleid.toList))) :
    (RustStr.trimStartMatches rest '[').toList =
      (grant.readKind.toList ++ '/' :: grant.ugid.toList) ++ ']' :: ' ' :: grant.roleid.toList := by
  simp [RustStr.trimStartMatches, AclDecl.readKind, hrest, dropWhile_append_cons]

theorem AclDecl.subject_readKind :
    [']', ' '] <:+: grant.readKind.toList ++ '/' :: grant.ugid.toList ↔
      [']', ' '] <:+: grant.kind.toList ++ '/' :: grant.ugid.toList := by
  simp only [AclDecl.readKind, RustStr.trimStartMatches, String.toList_ofList]
  exact infix_dropWhile_append (by decide)

theorem AclDecl.mem_readKind : '/' ∈ grant.readKind.toList ↔ '/' ∈ grant.kind.toList := by
  have hsame := @infix_dropWhile_append Char _ '[' '/' (by decide) [] grant.kind.toList []
  simpa [AclDecl.readKind, RustStr.trimStartMatches, singleton_infix_iff] using hsame

/-- The identity of such a grant reads back. -/
theorem parseAclIdentity_display (hgrant : grant.Separable) : parseAclIdentity grant.display =
      some { path := grant.path, kind := grant.readKind, ugid := grant.ugid,
             role := grant.roleid } := by
  obtain ⟨rest, hrest⟩ : ∃ rest : String, rest.toList = '[' :: (grant.kind.toList ++
        '/' :: (grant.ugid.toList ++ ']' :: ' ' :: grant.roleid.toList)) :=
    ⟨String.ofList _, String.toList_ofList⟩
  obtain ⟨subject, hsubject⟩ : ∃ subject : String, subject.toList =
      grant.readKind.toList ++ '/' :: grant.ugid.toList :=
    ⟨String.ofList _, String.toList_ofList⟩
  have hpath : RustStr.splitOnce grant.display " " = some (grant.path, rest) := by
    rw [splitOnce_eq_some, AclDecl.toList_display, hrest]
    exact splitOnceList_singleton hgrant.path
  have hrole : RustStr.splitOnce (RustStr.trimStartMatches rest '[') "] " =
      some (subject, grant.roleid) := by
    rw [splitOnce_eq_some, AclDecl.toList_trimmed rest hrest, hsubject]
    exact splitOnceList_pair (by decide) (AclDecl.subject_readKind.not.mpr hgrant.subject)
  have hkind : RustStr.splitOnce subject "/" = some (grant.readKind, grant.ugid) := by
    rw [splitOnce_eq_some, hsubject]
    exact splitOnceList_singleton (AclDecl.mem_readKind.not.mpr hgrant.kind)
  simp [parseAclIdentity, hpath, hrole, hkind]

/-- If an identity reads back, it is that of such a grant. -/
theorem separable_of_parseAclIdentity {kind : String} (hparse : parseAclIdentity grant.display =
      some { path := grant.path, kind, ugid := grant.ugid, role := grant.roleid }) :
    grant.Separable ∧ kind = grant.readKind := by
  obtain ⟨⟨path, rest⟩, hpath, hparse⟩ := Option.bind_eq_some_iff.mp hparse
  obtain ⟨⟨subject, role⟩, hrole, hparse⟩ := Option.bind_eq_some_iff.mp hparse
  obtain ⟨⟨read, ugid⟩, hkind, hparse⟩ := Option.bind_eq_some_iff.mp hparse
  cases hparse
  rw [splitOnce_eq_some] at hpath hrole hkind
  -- each part is where the split found it, so the rest is what stands behind it
  have hrest : rest.toList = '[' :: (grant.kind.toList ++
      '/' :: (grant.ugid.toList ++ ']' :: ' ' :: grant.roleid.toList)) := by
    have hjoin := append_of_splitOnceList hpath
    rw [AclDecl.toList_display] at hjoin
    simpa using hjoin.symm
  have hsubject : subject.toList = grant.readKind.toList ++ '/' :: grant.ugid.toList := by
    have hjoin := append_of_splitOnceList hrole
    rw [AclDecl.toList_trimmed rest hrest] at hjoin
    have hparts : (grant.readKind.toList ++ '/' :: grant.ugid.toList) ++
        ']' :: ' ' :: grant.roleid.toList =
          subject.toList ++ ']' :: ' ' :: grant.roleid.toList := by
      rw [hjoin]
      simp
    exact (append_cancel_right hparts).symm
  have hread : kind.toList = grant.readKind.toList := by
    have hjoin := append_of_splitOnceList hkind
    rw [hsubject] at hjoin
    simpa using hjoin.symm
  refine ⟨⟨?_, ?_, ?_⟩, String.toList_injective hread⟩
  · exact not_mem_of_splitOnceList hpath
  · rw [← AclDecl.mem_readKind, ← hread]
    exact not_mem_of_splitOnceList hkind
  · rw [← AclDecl.subject_readKind, ← hsubject]
    exact not_infix_of_splitOnceList (by simp) hrole

end Identity

section RootGrants

variable {declared live : ClusterState} {grant : AclDecl}

/-- The grant under which the gate looks a deleted grant up is live. -/
def AclDecl.ReadBack (grant : AclDecl) (grants : List AclDecl) : Prop :=
  ∃ found ∈ grants, found.path = grant.path ∧ found.kind = grant.readKind ∧
    found.ugid = grant.ugid ∧ found.roleid = grant.roleid

theorem AclIdentity.names_iff {parts : AclIdentity} : parts.names grant = true ↔
      parts = { path := grant.path, kind := grant.kind, ugid := grant.ugid,
                role := grant.roleid } := by
  obtain ⟨path, kind, ugid, role⟩ := parts
  simp only [AclIdentity.names, Bool.and_eq_true, decide_eq_true_eq, AclIdentity.mk.injEq]
  grind

/-- A grant with a root-like role is reported exactly if its identity reads
back and names a live grant. -/
theorem aclDeleteRootRole_mem_iff (hrole : isRootLike grant.roleid = true) :
    .aclDeleteRootRole grant.path grant.ugid grant.roleid ∈
        StatePreflight.assessAclDelete grant.display live ↔
      grant.Separable ∧ grant.ReadBack live.acl := by
  unfold StatePreflight.assessAclDelete
  constructor
  · intro hrisk
    split at hrisk
    · simp at hrisk
    next found hfound =>
    split at hrisk
    next =>
      obtain ⟨hpath, hugid, hroleid⟩ : grant.path = found.path ∧
          grant.ugid = found.ugid ∧ grant.roleid = found.roleid := by simpa using hrisk
      obtain ⟨parts, hparse, hfind⟩ := Option.bind_eq_some_iff.mp hfound
      have hparts := AclIdentity.names_iff.mp (List.find?_some hfind)
      rw [hparts, ← hpath, ← hugid, ← hroleid] at hparse
      obtain ⟨hseparable, hkind⟩ := separable_of_parseAclIdentity hparse
      exact ⟨hseparable, found, List.mem_of_find?_eq_some hfind, hpath.symm,
        hkind, hugid.symm, hroleid.symm⟩
    next => split at hrisk <;> simp at hrisk
  · rintro ⟨hseparable, found, hlive, hpath, hkind, hugid, hroleid⟩
    have hparse := parseAclIdentity_display hseparable
    have hnames : AclIdentity.names ⟨grant.path, grant.readKind, grant.ugid, grant.roleid⟩ found =
          true := by rw [AclIdentity.names_iff, hpath, hkind, hugid, hroleid]
    -- the first grant with the identity may be another one, with the same parts
    obtain ⟨first, hfirst⟩ := Option.isSome_iff_exists.mp
      (List.find?_isSome.mpr ⟨found, hlive, hnames⟩)
    have hparts := AclIdentity.names_iff.mp (List.find?_some hfirst)
    rw [AclIdentity.mk.injEq] at hparts
    obtain ⟨hfirstPath, -, hfirstUgid, hfirstRole⟩ := hparts
    have hfind : findAclByIdentity grant.display live.acl = some first := by
      rw [findAclByIdentity, hparse]
      exact hfirst
    simp [hfind, ← hfirstPath, ← hfirstUgid, ← hfirstRole, hrole]

/-- A kind without a leading bracket is read back as it is. -/
theorem AclDecl.readKind_eq (hkind : grant.kind.toList.head? ≠ some '[') :
    grant.readKind = grant.kind := by
  apply String.toList_injective
  rw [AclDecl.readKind, RustStr.trimStartMatches, String.toList_ofList]
  cases hchars : grant.kind.toList with
  | nil => rfl
  | cons head tail =>
    rw [hchars] at hkind
    exact dropWhile_cons_of_neg (by simpa using hkind)

/-- Every list of changes with the deletion of the grant is assessed with the
root-role risk of this grant, exactly if the identity of the grant reads back
and names a live grant. -/
theorem root_deletion_reported_iff
    (hdeleted : Family.acl.change (.delete grant) ∈ diff declared live)
    (hrole : isRootLike grant.roleid = true) :
    (∀ changes, Family.acl.change (.delete grant) ∈ changes →
      .aclDeleteRootRole grant.path grant.ugid grant.roleid ∈ StatePreflight.assess changes live) ↔
      grant.Separable ∧ (grant.kind.toList.head? ≠ some '[' ∨ grant.ReadBack live.acl) := by
  have hlive : grant ∈ live.acl := by
    have hedit : .delete grant ∈ (diff declared live).filterMap Family.acl.editOf :=
      mem_filterMap.mpr ⟨_, hdeleted, Family.editOf_change _⟩
    rw [editsOf_diff (by simp [families])] at hedit
    split at hedit
    · exact KeyedDiff.mem_of_delete_mem_edits hedit
    · simp at hedit
  have hone : StatePreflight.assessOne (Family.acl.change (.delete grant))
      live = StatePreflight.assessAclDelete grant.display live := rfl
  constructor
  · intro hreported
    have hrisk := hreported [Family.acl.change (.delete grant)] (by simp)
    simp only [StatePreflight.assess, flatMap_cons, hone] at hrisk
    have hfound := (aclDeleteRootRole_mem_iff hrole).mp (by simpa using hrisk)
    exact ⟨hfound.1, .inr hfound.2⟩
  · rintro ⟨hseparable, hkind⟩ changes hmem
    have hback : grant.ReadBack live.acl := by
      rcases hkind with hplain | hback
      · exact ⟨grant, hlive, rfl, (AclDecl.readKind_eq hplain).symm, rfl, rfl⟩
      · exact hback
    apply mem_append_right
    rw [mem_flatMap]
    refine ⟨_, hmem, ?_⟩
    rw [hone]
    exact (aclDeleteRootRole_mem_iff hrole).mpr ⟨hseparable, hback⟩

end RootGrants

namespace PreflightWitness

def grant (path : String) : AclDecl :=
  { path
    kind := "user"
    ugid := "ops@pve"
    roleid := "pveadmin"
    propagate := true }

def declared : ClusterState :=
  { declaredFamilies := some ["acl"] }

def live (path : String) : ClusterState :=
  { acl := [grant path] }

/-- The last grant on the root path is reported, whatever the spelling of its
role. -/
theorem root_deletion_reported_root : .aclDeleteRootRole "/" "ops@pve" "pveadmin" ∈
    StatePreflight.assess (diff declared (live "/")) (live "/") := by
  have hdeleted : Family.acl.change (.delete (grant "/")) ∈ diff declared (live "/") := by
    decide +kernel
  have hrole : isRootLike (grant "/").roleid = true := by decide +kernel
  have hseparable : (grant "/").Separable := ⟨by decide, by decide, by decide +kernel⟩
  exact (root_deletion_reported_iff hdeleted hrole).mpr ⟨hseparable, .inl (by decide)⟩ _ hdeleted

/-- A grant on a path with a space is deleted without any risk. -/
theorem root_deletion_missed : Family.acl.change (.delete (grant "/pool/team a")) ∈
      diff declared (live "/pool/team a") ∧
    isRootLike (grant "/pool/team a").roleid = true ∧
    StatePreflight.assess (diff declared (live "/pool/team a")) (live "/pool/team a") = [] ∧
    enforceStatePreflight (diff declared (live "/pool/team a"))
      (live "/pool/team a") false true = .ok () := by
  refine ⟨by decide +kernel, by decide +kernel, by decide +kernel, ?_⟩
  have hnone : StatePreflight.assess ((diff declared (live "/pool/team a")).filter fun change =>
        dispatchedByApply change true) (live "/pool/team a") = [] := by decide +kernel
  simp [enforceStatePreflight, hnone]

end PreflightWitness

end Proxxx
