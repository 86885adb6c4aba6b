/-
The unmanned converge of the daemon.  The drift is narrowed to the allowed
families, counted against the cap, assessed, and only then applied; a watch
does this tick after tick under the configuration each tick reads.
-/
import Proxxx.StateApply
import Proxxx.StateExport

namespace Proxxx

open List

structure ReconcileConfig where
  source : String
  path : String := "state.toml"
  autoConverge : Bool := false
  convergePrune : Bool := false
  allowedFamilies : Option (List String) := none
  maxUnmannedChanges : Option UInt32 := none
deriving Repr, DecidableEq

/-- What a drift is computed from besides the cluster: how the source is
loaded, how the cluster answers, and the stamps of an export. -/
structure ReconcileEnv (σ : Type) where
  crate : TomlCrate
  loadDesiredToml : (source path : String) → Except ErrorChain String
  observe : σ → StateReadView
  exportedAt : String
  version : String

section Drift

def StateDocument.checkProfileMatch (document : StateDocument)
    (targetProfile sourceDesc : String) (enforceMatch allowMismatch : Bool) :
    Except ErrorChain Unit :=
  match document.header with
  | none => .ok ()
  | some header =>
    if header.profile.isEmpty || header.profile = targetProfile then .ok ()
    else if enforceMatch && !allowMismatch then
      .error ["refusing to apply state from `" ++ sourceDesc ++
        "`: [meta] declares profile '" ++ header.profile ++
        "', but the active target profile is '" ++ targetProfile ++
        "'. Pass `--profile " ++ header.profile ++
        "` to target that cluster, or `--allow-profile-mismatch` if " ++
        "applying across profiles is intentional."]
    else .ok ()

variable {σ : Type} (env : ReconcileEnv σ) (profile source path : String)

/-- The drift, and the live state it was computed against. -/
def computeDriftChecked (enforceProfileMatch allowProfileMismatch : Bool)
    (cluster : σ) : Except ErrorChain (List Change × ClusterState) := do
  let text ← env.loadDesiredToml source path
  let declared ← (fromTomlStr env.crate text).mapError fun error =>
    ["parsing desired state from `" ++ source ++
      "` — is it the output of `proxxx state export`?", error.text]
  declared.checkProfileMatch profile source enforceProfileMatch allowProfileMismatch
  let live ← exportState (env.observe cluster) ExportResource.all profile
    env.exportedAt env.version
  return (diff declared.state live.state, live.state)

def computeDrift (cluster : σ) : Except ErrorChain (List Change) :=
  (computeDriftChecked env profile source path false false cluster).map Prod.fst

def computeDriftWithLive (cluster : σ) : Except ErrorChain (List Change × ClusterState) :=
  computeDriftChecked env profile source path true false cluster

end Drift

section Restrictions

def retainAllowedFamilies (changes : List Change) (allowed : Option (List String)) : List Change :=
  match allowed with
  | some list =>
    if list.isEmpty then changes
    else changes.filter fun change => list.any fun family => family = change.resource.text
  | none => changes

def unmannedDispatchCount (changes : List Change) (prune : Bool) : Nat :=
  (changes.filter (dispatchedByApply · prune)).length

def exceedsUnmannedCap (count : Nat) : Option UInt32 → Bool
  | some max => count > max.toNat
  | none => false

/-- Deletions need a bound besides the switch. -/
def effectiveUnmannedPrune (convergePrune : Bool) (cap : Option UInt32) : Bool :=
  convergePrune && cap.isSome

/-- What a tick would send of a drift. -/
def ReconcileConfig.planned (config : ReconcileConfig) (changes : List Change) : List Change :=
  (retainAllowedFamilies changes config.allowedFamilies).filter
    (dispatchedByApply · (effectiveUnmannedPrune config.convergePrune config.maxUnmannedChanges))

end Restrictions

section Report

structure ConvergeReport where
  applied : Nat
  failed : Nat
  skipped : Nat
deriving Repr, DecidableEq

def ConvergeReport.fromOutcomes (outcomes : List ApplyOutcome) : ConvergeReport where
  applied := outcomes.countP (·.result = .applied)
  failed := outcomes.countP (·.result.isFailed)
  skipped := outcomes.countP (·.result.isSkipped)

def ConvergeReport.auditResult (report : ConvergeReport) : String :=
  s!"applied {report.applied} / failed {report.failed} / " ++ s!"skipped {report.skipped}"

end Report

/-- A finished tick: what was sent, the cluster behind it, the texts handed to
Telegram, and the drift that was persisted again. -/
structure AutoRun (σ : Type) where
  dispatched : List Change := []
  cluster : σ
  alerts : List String := []
  repersisted : Option (List Change) := none

section Tick

variable {σ : Type} (env : ReconcileEnv σ) (writer : StateWriter σ)
variable (profileLabel : String)

def convergeAlerts (report : ConvergeReport) : List String :=
  if report.failed > 0 then
    ["⚠️ proxxx converge PARTIAL on `" ++ profileLabel ++ "` — " ++ report.auditResult]
  else if report.applied > 0 then
    ["✅ proxxx converged `" ++ profileLabel ++ "` — " ++ report.auditResult]
  else []

/-- The drift of a tick, behind the family filter and the cap. -/
def convergeFiltered (config : ReconcileConfig) (filtered : List Change)
    (live : ClusterState) (cluster : σ) : AutoRun σ :=
  let opts : ApplyOptions :=
    { dryRun := false
      prune := effectiveUnmannedPrune config.convergePrune config.maxUnmannedChanges
      continueOnError := false }
  match convergeWithChanges writer opts filtered live false cluster with
  | (.error _, after) =>
    { cluster := after, alerts := ["🛑 proxxx `" ++ profileLabel ++
        "`: drift needs human review (Severe risk) — auto-converge " ++
        "refused. Run `reconcile converge --allow-risk` after review."] }
  | (.ok run, after) =>
    { dispatched := run.dispatched, cluster := after
      alerts := convergeAlerts profileLabel (ConvergeReport.fromOutcomes run.outcomes)
      repersisted := (computeDrift env profileLabel config.source config.path after).toOption }

def runAutoConverge (config : ReconcileConfig) (cluster : σ) : AutoRun σ :=
  match computeDriftWithLive env profileLabel config.source config.path cluster with
  | .error _ => { cluster }
  | .ok (changes, live) =>
    let filtered := retainAllowedFamilies changes config.allowedFamilies
    let dispatched := unmannedDispatchCount filtered
      (effectiveUnmannedPrune config.convergePrune config.maxUnmannedChanges)
    if exceedsUnmannedCap dispatched config.maxUnmannedChanges then
      let cap := config.maxUnmannedChanges.getD 0
      { cluster
        alerts := ["🛑 proxxx `" ++ profileLabel ++ "`: " ++
          s!"{dispatched} changes exceed max_unmanned_changes={cap} — " ++
          "auto-converge refused, needs human review."] }
    else convergeFiltered env writer profileLabel config filtered live cluster

inductive ConvergeDecision where
  | disabled
  | skipLocked
  | proceed
deriving Repr, DecidableEq

/-- The switches and write locks a tick reads besides the configuration. -/
structure ConvergeGates where
  enableConverge : Bool
  noConvergeEnv : Bool
  readOnly : Bool
  frozen : Bool
deriving Repr, DecidableEq

def convergeDecision (gates : ConvergeGates) (autoConverge : Bool) : ConvergeDecision :=
  if !gates.enableConverge || !autoConverge || gates.noConvergeEnv then
    .disabled
  else if gates.readOnly || gates.frozen then .skipLocked
  else .proceed

/-- One turn of the watch; `none` when a reload removed the section. -/
def reconcileTick (gates : ConvergeGates) (config : Option ReconcileConfig)
    (cluster : σ) : AutoRun σ :=
  match config with
  | none => { cluster }
  | some config =>
    match computeDrift env profileLabel config.source config.path cluster with
    | .error _ | .ok [] => { cluster }
    | .ok (_ :: _) =>
      match convergeDecision gates config.autoConverge with
      | .disabled | .skipLocked => { cluster }
      | .proceed => runAutoConverge env writer profileLabel config cluster

end Tick

section Bounds

variable {σ : Type} {env : ReconcileEnv σ} {writer : StateWriter σ}
variable {profileLabel : String} {config : ReconcileConfig}
variable {changes : List Change} {live : ClusterState} {cluster : σ}

theorem mem_retainAllowedFamilies {change : Change} {list : List String} (hlist : list ≠ [])
    (hchange : change ∈ retainAllowedFamilies changes (some list)) :
    change.resource.text ∈ list := by
  rw [retainAllowedFamilies, if_neg (by simpa using hlist)] at hchange
  obtain ⟨family, hfamily, heq⟩ := any_eq_true.mp (mem_filter.mp hchange).2
  rw [← of_decide_eq_true heq]
  exact hfamily

/-- The count the cap is compared with is that of the planned changes. -/
theorem unmannedDispatchCount_eq :
    unmannedDispatchCount (retainAllowedFamilies changes config.allowedFamilies)
      (effectiveUnmannedPrune config.convergePrune config.maxUnmannedChanges) =
      (config.planned changes).length := rfl

/-- The bounds a configuration puts on what one tick sends, and that nothing
else touches the cluster. -/
structure AutoRun.Within (config : ReconcileConfig) (writer : StateWriter σ)
    (before : σ) (run : AutoRun σ) : Prop where
  family : ∀ list, config.allowedFamilies = some list → list ≠ [] →
    ∀ change ∈ run.dispatched, change.resource.text ∈ list
  cap : ∀ max, config.maxUnmannedChanges = some max → run.dispatched.length ≤ max.toNat
  deletion : ∀ change ∈ run.dispatched, change.kind = .delete →
    config.convergePrune = true ∧ config.maxUnmannedChanges.isSome = true
  cluster : run.cluster = run.dispatched.foldl
    (fun cluster change => (writer.write change cluster).2) before

/-- A tick that leaves the cluster alone is within every bound. -/
theorem AutoRun.Within.of_idle {run : AutoRun σ} {before : σ}
    (hsent : run.dispatched = []) (hcluster : run.cluster = before) :
    run.Within config writer before where
  family := by simp [hsent]
  cap := by simp [hsent]
  deletion := by simp [hsent]
  cluster := by rw [hsent, hcluster, foldl_nil]

/-- A tick that sends a part of the planned changes, which fit the cap. -/
theorem AutoRun.Within.of_planned {run : AutoRun σ} {before : σ}
    (hpart : run.dispatched <+: config.planned changes)
    (hfits : ∀ max, config.maxUnmannedChanges = some max →
      (config.planned changes).length ≤ max.toNat)
    (hcluster : run.cluster = run.dispatched.foldl
      (fun cluster change => (writer.write change cluster).2) before) :
    run.Within config writer before where
  family list hlist hsome change hsent := by
    have hplanned := (mem_filter.mp (hpart.subset hsent)).1
    rw [hlist] at hplanned
    exact mem_retainAllowedFamilies hsome hplanned
  cap max hmax := hpart.length_le.trans (hfits max hmax)
  deletion change hsent hdelete := by
    have hplanned := (mem_filter.mp (hpart.subset hsent)).2
    simpa [dispatchedByApply, hdelete, effectiveUnmannedPrune] using hplanned
  cluster := hcluster

/-- A severe risk among the planned changes, of one of them or of their
number. -/
def ReconcileConfig.Severe (config : ReconcileConfig) (changes : List Change)
    (live : ClusterState) : Prop :=
  ∃ risk ∈ StatePreflight.assess (config.planned changes) live, risk.level = .severe

theorem exceedsUnmannedCap_iff {count : Nat} {cap : Option UInt32} :
    exceedsUnmannedCap count cap = true ↔ ∃ max, cap = some max ∧ max.toNat < count := by
  cases cap <;> simp [exceedsUnmannedCap]

/-- Behind the filter and the cap: a severe plan is refused, and of any other a
part from the start is sent. -/
theorem convergeFiltered_within (env : ReconcileEnv σ)
    (writer : StateWriter σ) (profileLabel : String) (live : ClusterState)
    (cluster : σ)
    (hfits : ∀ max, config.maxUnmannedChanges = some max →
      (config.planned changes).length ≤ max.toNat) :
    let run := convergeFiltered env writer profileLabel config
      (retainAllowedFamilies changes config.allowedFamilies) live cluster
    run.Within config writer cluster ∧ run.dispatched <+: config.planned changes ∧
      (config.Severe changes live → run.dispatched = [] ∧ run.cluster = cluster) := by
  intro run
  dsimp only [run]
  unfold convergeFiltered convergeWithChanges
  dsimp only
  cases hgate : enforceStatePreflight
    (retainAllowedFamilies changes config.allowedFamilies) live false
    (effectiveUnmannedPrune config.convergePrune config.maxUnmannedChanges) with
  | error refusal => exact ⟨.of_idle rfl rfl, nil_prefix, fun _ => ⟨rfl, rfl⟩⟩
  | ok =>
    refine ⟨.of_planned applyFrom_dispatched hfits applyFrom_cluster, applyFrom_dispatched, ?_⟩
    rintro ⟨risk, hrisk, hsevere⟩
    rw [enforceStatePreflight_assessed hrisk hsevere] at hgate
    cases hgate

theorem runAutoConverge_ok (hdrift : computeDriftWithLive env profileLabel config.source config.path
      cluster = .ok (changes, live)) :
    let run := runAutoConverge env writer profileLabel config cluster
    run.Within config writer cluster ∧ run.dispatched <+: config.planned changes ∧
      ((∃ max, config.maxUnmannedChanges = some max ∧ max.toNat < (config.planned changes).length) →
        run.dispatched = [] ∧ run.cluster = cluster) ∧
      (config.Severe changes live → run.dispatched = [] ∧ run.cluster = cluster) := by
  intro run
  dsimp only [run]
  unfold runAutoConverge
  rw [hdrift]
  dsimp only
  rw [unmannedDispatchCount_eq]
  by_cases hcap : exceedsUnmannedCap (config.planned changes).length
      config.maxUnmannedChanges = true
  · rw [if_pos hcap]
    exact ⟨.of_idle rfl rfl, nil_prefix, fun _ => ⟨rfl, rfl⟩, fun _ => ⟨rfl, rfl⟩⟩
  · rw [if_neg hcap]
    rw [exceedsUnmannedCap_iff] at hcap
    have hfits : ∀ max, config.maxUnmannedChanges = some max →
        (config.planned changes).length ≤ max.toNat :=
      fun max hmax => Nat.le_of_not_lt fun hover => hcap ⟨max, hmax, hover⟩
    obtain ⟨hwithin, hpart, hsevere⟩ :=
      convergeFiltered_within env writer profileLabel live cluster hfits
    exact ⟨hwithin, hpart, fun hover => absurd hover hcap, hsevere⟩

theorem runAutoConverge_within (env : ReconcileEnv σ) (writer : StateWriter σ)
    (profileLabel : String) (config : ReconcileConfig) (cluster : σ) :
    (runAutoConverge env writer profileLabel config cluster).Within config writer cluster := by
  cases hdrift : computeDriftWithLive env profileLabel config.source config.path cluster with
  | error error =>
    rw [runAutoConverge, hdrift]
    exact .of_idle rfl rfl
  | ok drift => exact (runAutoConverge_ok hdrift).1

/-- For every drift and configuration, an unmanned run sends only changes of
allowed families, as many as the cap admits and none of a plan beyond it,
deletions only with both the switch and a cap, and nothing of a severe plan. -/
theorem auto_converge_bounded (env : ReconcileEnv σ) (writer : StateWriter σ)
    (profileLabel : String) (config : ReconcileConfig) (cluster : σ) :
    let run := runAutoConverge env writer profileLabel config cluster
    run.Within config writer cluster ∧ ∀ changes live,
        computeDriftWithLive env profileLabel config.source config.path
          cluster = .ok (changes, live) →
        run.dispatched <+: config.planned changes ∧
        ((∃ max, config.maxUnmannedChanges = some max ∧
            max.toNat < (config.planned changes).length) →
          run.dispatched = [] ∧ run.cluster = cluster) ∧
        (config.Severe changes live → run.dispatched = [] ∧ run.cluster = cluster) := by
  refine ⟨runAutoConverge_within env writer profileLabel config cluster, ?_⟩
  intro changes live hdrift
  exact (runAutoConverge_ok hdrift).2

end Bounds

section Watch

variable {σ : Type}

/-- A turn of the watch, with what others have done to the cluster since the
last one. -/
structure WatchTurn (σ : Type) where
  others : σ → σ
  gates : ConvergeGates
  config : Option ReconcileConfig

/-- The ticks of a watch, each with the cluster it found. -/
def reconcileLoop (env : ReconcileEnv σ) (writer : StateWriter σ)
    (profileLabel : String) : List (WatchTurn σ) → σ → List (σ × AutoRun σ)
  | [], _ => []
  | turn :: rest, cluster =>
    let found := turn.others cluster
    let run := reconcileTick env writer profileLabel turn.gates turn.config
      found
    (found, run) :: reconcileLoop env writer profileLabel rest run.cluster

/-- A tick keeps to the configuration it read, and does nothing unless its
gates let it proceed. -/
structure WatchTurn.Keeps (writer : StateWriter σ) (turn : WatchTurn σ)
    (tick : σ × AutoRun σ) : Prop where
  within : ∀ config, turn.config = some config → tick.2.Within config writer tick.1
  idle : (∀ config, turn.config = some config →
      convergeDecision turn.gates config.autoConverge ≠ .proceed) →
    tick.2.dispatched = [] ∧ tick.2.cluster = tick.1

theorem WatchTurn.Keeps.of_idle {writer : StateWriter σ} {turn : WatchTurn σ}
    (found : σ) : turn.Keeps writer (found, { cluster := found }) where
  within _ _ := .of_idle rfl rfl
  idle _ := ⟨rfl, rfl⟩

theorem reconcileTick_keeps (env : ReconcileEnv σ) (writer : StateWriter σ)
    (profileLabel : String) (turn : WatchTurn σ) (found : σ) :
    turn.Keeps writer (found, reconcileTick env writer profileLabel turn.gates
      turn.config found) := by
  unfold reconcileTick
  cases hconfig : turn.config with
  | none => exact .of_idle found
  | some config =>
    dsimp only
    -- Without a drift, or with a gate closed, nothing runs.
    split <;> try exact .of_idle found
    split <;> try exact .of_idle found
    next hproceed =>
      constructor
      · intro read hread
        obtain rfl : config = read := Option.some.inj (hconfig.symm.trans hread)
        exact runAutoConverge_within env writer profileLabel config found
      · intro hclosed
        exact absurd hproceed (hclosed config hconfig)

/-- Over a whole watch, with the configuration and the cluster changing between
the ticks, every tick keeps to the configuration it read. -/
theorem reconcileLoop_keeps (env : ReconcileEnv σ) (writer : StateWriter σ)
    (profileLabel : String) (turns : List (WatchTurn σ)) (cluster : σ) :
    List.Forall₂ (WatchTurn.Keeps writer) turns
      (reconcileLoop env writer profileLabel turns cluster) := by
  induction turns generalizing cluster with
  | nil => exact .nil
  | cons turn rest ih => exact .cons (reconcileTick_keeps env writer profileLabel turn _) (ih _)

end Watch

namespace AutoConvergeWitness

/-- A cluster that has its pools only. -/
def view (pools : List String) : StateReadView where
  listPools := .ok pools
  getPool _ := .ok { comment := "", members := [] }
  listAcl := .ok []
  listClusterStorages := .ok []
  listBackupJobs := .ok []
  getClusterFirewallOptions := .ok ReconcileWitness.noOptions
  listClusterFirewallAliases := .ok []
  listClusterFirewallIpsets := .ok []
  listClusterFirewallIpsetCidrs _ := .ok []
  listClusterFirewallGroups := .ok []
  listNotificationMatchers := .ok []
  listHaResources := .ok []
  listHaRules := .ok []
  listClusterMappingPci := .ok []
  listClusterMappingUsb := .ok []
  getApiVersion := .ok "9.1.9"

def declared : StateDocument where
  header := none
  state := { pools := ["a", "c"].map fun poolid =>
    { poolid, comment := "", members := [] } }

def env : ReconcileEnv (List String) where
  crate := ExportWitness.crateOf declared.toToml
  loadDesiredToml _ _ := .ok ""
  observe := view
  exportedAt := "2026-01-01T00:00:00Z"
  version := "0.14.0"

def config : ReconcileConfig where
  source := "state.toml"
  autoConverge := true
  allowedFamilies := some ["pool"]
  maxUnmannedChanges := some 1

def live : ClusterState :=
  { firewallOptions := some ReconcileWitness.noOptions }

theorem computeDriftWithLive_declared :
    computeDriftWithLive env "lab" "state.toml" "state.toml" [] =
      .ok ([ApplyWitness.pool "a", ApplyWitness.pool "c"], live) := by decide +kernel

/-- Two pools are missing and one change is allowed: nothing is sent. -/
theorem auto_converge_beyond_cap :
    (runAutoConverge env ApplyWitness.writer "lab" config []).dispatched = [] ∧
      (runAutoConverge env ApplyWitness.writer "lab" config []).cluster = [] := by
  have hbounded := (auto_converge_bounded env ApplyWitness.writer "lab" config
    []).2 _ live computeDriftWithLive_declared
  exact hbounded.2.1 ⟨1, rfl, by decide +kernel⟩

end AutoConvergeWitness

end Proxxx
