/-
Applying a list of changes, and the gate in front of it.  The calls that carry
one change out are those of a writer over the cluster, so what is proved about
the loop holds for every way they succeed, fail and change the cluster.
-/
import Proxxx.StatePreflight

namespace Proxxx

open List

structure ApplyOptions where
  dryRun : Bool
  prune : Bool
  continueOnError : Bool
deriving Repr, DecidableEq

inductive SkipReason where
  | dryRun
  | prunePolicy
  | abortedByPrior
deriving Repr, DecidableEq

inductive ApplyResult where
  | applied
  | skipped (reason : SkipReason)
  | failed (error : String)
deriving Repr, DecidableEq

structure ApplyOutcome where
  change : Change
  result : ApplyResult
deriving Repr, DecidableEq

/-- The calls that one change takes, with their outcome and their effect on the
cluster. -/
structure StateWriter (σ : Type) where
  write : Change → σ → Except String Unit × σ

/-- The outcomes of a run, the changes that were handed to the writer, in their
order, and the cluster behind them. -/
structure ApplyRun (σ : Type) where
  outcomes : List ApplyOutcome
  dispatched : List Change
  cluster : σ

section Loop

variable {σ : Type} (writer : StateWriter σ) (opts : ApplyOptions)

def applyOne (change : Change) (cluster : σ) : ApplyResult × σ :=
  match writer.write change cluster with
  | (.ok (), after) => (.applied, after)
  | (.error error, after) => (.failed error, after)

def ApplyResult.isFailed : ApplyResult → Bool
  | .failed _ => true
  | _ => false

def ApplyResult.isSkipped : ApplyResult → Bool
  | .skipped _ => true
  | _ => false

/-- The loop over the changes, from the point where `aborted` has its value. -/
def applyFrom : Bool → List Change → σ → ApplyRun σ
  | _, [], cluster => { outcomes := [], dispatched := [], cluster }
  | aborted, change :: rest, cluster =>
    let skip (reason : SkipReason) : ApplyRun σ :=
      let run := applyFrom aborted rest cluster
      { run with
        outcomes := { change, result := .skipped reason } :: run.outcomes }
    if aborted then skip .abortedByPrior
    else if opts.dryRun then skip .dryRun
    else if change.kind = .delete ∧ !opts.prune then skip .prunePolicy
    else
      let (result, after) := applyOne writer change cluster
      let run := applyFrom (result.isFailed && !opts.continueOnError) rest
        after
      { outcomes := { change, result } :: run.outcomes
        dispatched := change :: run.dispatched, cluster := run.cluster }

def applyChanges (changes : List Change) (cluster : σ) : ApplyRun σ :=
  applyFrom writer opts false changes cluster

/-- The gate, and behind it the run. -/
def convergeWithChanges (changes : List Change) (live : ClusterState) (force : Bool) (cluster : σ) :
    Except PreflightRefusal (ApplyRun σ) × σ :=
  match enforceStatePreflight changes live force opts.prune with
  | .error refusal => (.error refusal, cluster)
  | .ok () =>
    let run := applyChanges writer opts changes cluster
    (.ok run, run.cluster)

end Loop

section Cases

variable {σ : Type} {writer : StateWriter σ} {opts : ApplyOptions}
variable {aborted : Bool} {change : Change} {rest : List Change} {cluster : σ}

/-- A change the loop skips, for one of the three reasons. -/
inductive Skips (opts : ApplyOptions) (aborted : Bool) (change : Change) : SkipReason → Prop where
  | aborted (haborted : aborted = true) : Skips opts aborted change .abortedByPrior
  | dryRun (hrunning : aborted = false) (hdry : opts.dryRun = true) :
      Skips opts aborted change .dryRun
  | prunePolicy (hrunning : aborted = false) (hdry : opts.dryRun = false)
      (hdelete : dispatchedByApply change opts.prune = false) :
      Skips opts aborted change .prunePolicy

/-- One turn of the loop: the change is skipped, or handed to the writer. -/
theorem applyFrom_cons : (∃ reason, Skips opts aborted change reason ∧
      applyFrom writer opts aborted (change :: rest) cluster =
        let run := applyFrom writer opts aborted rest cluster
        { run with
          outcomes := { change, result := .skipped reason } :: run.outcomes }) ∨
    (aborted = false ∧ opts.dryRun = false ∧
      dispatchedByApply change opts.prune = true ∧
      ∃ result after, applyOne writer change cluster = (result, after) ∧
        (∀ reason, result ≠ .skipped reason) ∧
        applyFrom writer opts aborted (change :: rest) cluster =
          let run := applyFrom writer opts
            (result.isFailed && !opts.continueOnError) rest after
          { outcomes := { change, result } :: run.outcomes
            dispatched := change :: run.dispatched
            cluster := run.cluster }) := by
  rw [applyFrom]
  by_cases haborted : aborted = true
  · exact .inl ⟨.abortedByPrior, .aborted haborted, by simp [haborted]⟩
  have hrunning : aborted = false := by simpa using haborted
  by_cases hdry : opts.dryRun = true
  · exact .inl ⟨.dryRun, .dryRun hrunning hdry, by simp [hrunning, hdry]⟩
  have hreal : opts.dryRun = false := by simpa using hdry
  by_cases hskip : change.kind = .delete ∧ (!opts.prune) = true
  · refine .inl ⟨.prunePolicy, .prunePolicy hrunning hreal ?_, ?_⟩
    · simpa [dispatchedByApply] using hskip.symm
    · simp [hrunning, hreal, hskip]
  right
  refine ⟨hrunning, hreal, ?_, ?_⟩
  · rw [dispatchedByApply, Bool.or_eq_true]
    by_cases hprune : opts.prune = true
    · exact .inl hprune
    · right
      simpa using fun hdelete => hskip ⟨hdelete, by simpa using hprune⟩
  · rcases hone : applyOne writer change cluster with ⟨result, after⟩
    refine ⟨result, after, rfl, ?_, ?_⟩
    · rintro reason rfl
      unfold applyOne at hone
      split at hone <;> simp at hone
    · rw [if_neg haborted, if_neg hdry, if_neg hskip]

end Cases

section Runs

variable {σ : Type} {writer : StateWriter σ} {opts : ApplyOptions}
variable {aborted : Bool} {changes : List Change} {cluster : σ}

/-- One outcome for each change, in their order. -/
theorem applyFrom_outcomes :
    (applyFrom writer opts aborted changes cluster).outcomes.map (·.change) = changes := by
  induction changes generalizing aborted cluster with
  | nil => rfl
  | cons change rest ih =>
    rcases @applyFrom_cons σ writer opts aborted change rest cluster with
      ⟨reason, -, heq⟩ | ⟨-, -, -, result, after, -, -, heq⟩
    · simp [heq, ih]
    · simp [heq, ih]

/-- An aborted run marks everything that is left, and sends nothing. -/
theorem applyFrom_aborted : applyFrom writer opts true changes cluster =
      { outcomes := changes.map fun change =>
          { change, result := .skipped .abortedByPrior }
        dispatched := []
        cluster } := by
  induction changes with
  | nil => rfl
  | cons change rest ih => simp [applyFrom, ih]

theorem applyFrom_dryRun (hdry : opts.dryRun = true) :
    (applyFrom writer opts aborted changes cluster).dispatched = [] ∧
      (applyFrom writer opts aborted changes cluster).cluster = cluster := by
  induction changes with
  | nil => exact ⟨rfl, rfl⟩
  | cons change rest ih =>
    rcases @applyFrom_cons σ writer opts aborted change rest cluster with
      ⟨reason, -, heq⟩ | ⟨-, hreal, -⟩
    · rw [heq]
      exact ih
    · simp [hdry] at hreal

/-- Only what the gate assesses is sent, and in its order. -/
theorem applyFrom_dispatched : (applyFrom writer opts aborted changes cluster).dispatched <+:
    changes.filter (dispatchedByApply · opts.prune) := by
  induction changes generalizing aborted cluster with
  | nil => exact nil_prefix
  | cons change rest ih =>
    rcases @applyFrom_cons σ writer opts aborted change rest cluster with
      ⟨reason, hskips, heq⟩ | ⟨-, -, hsent, result, after, -, -, heq⟩
    · cases hskips with
      | aborted haborted =>
        rw [haborted, applyFrom_aborted]
        exact nil_prefix
      | dryRun hrunning hdry =>
        rw [(applyFrom_dryRun hdry).1]
        exact nil_prefix
      | prunePolicy hrunning hdry hdelete =>
        rw [heq, filter_cons_of_neg (by simp [hdelete])]
        exact ih
    · rw [heq, filter_cons, if_pos hsent]
      exact prefix_cons_inj change |>.mpr ih

/-- A run that is not stopped by a failure sends all of it. -/
theorem applyFrom_complete (hreal : opts.dryRun = false) (hfailures : opts.continueOnError = true ∨
      ∀ outcome ∈ (applyFrom writer opts false changes cluster).outcomes,
        outcome.result.isFailed = false) :
    (applyFrom writer opts false changes cluster).dispatched =
      changes.filter (dispatchedByApply · opts.prune) := by
  induction changes generalizing cluster with
  | nil => rfl
  | cons change rest ih =>
    rcases @applyFrom_cons σ writer opts false change rest cluster with
      ⟨reason, hskips, heq⟩ | ⟨-, -, hsent, result, after, -, -, heq⟩
    · rw [heq] at hfailures ⊢
      cases hskips with
      | aborted haborted => cases haborted
      | dryRun hrunning hdry => simp [hdry] at hreal
      | prunePolicy hrunning hdry hdelete =>
        rw [filter_cons_of_neg (by simp [hdelete])]
        exact ih (hfailures.imp_right fun hnone => (forall_mem_cons.mp hnone).2)
    · have hgoes : (result.isFailed && !opts.continueOnError) = false := by
        rw [heq] at hfailures
        rcases hfailures with hcontinue | hnone
        · simp [hcontinue]
        · have hresult := hnone _ mem_cons_self
          simp [hresult]
      rw [hgoes] at heq
      rw [heq] at hfailures ⊢
      rw [filter_cons, if_pos hsent]
      refine congrArg (List.cons change) (ih ?_)
      exact hfailures.imp_right fun hnone => (forall_mem_cons.mp hnone).2

/-- A change was sent exactly if its outcome is not a skip. -/
theorem applyFrom_sent : (applyFrom writer opts aborted changes cluster).dispatched =
    ((applyFrom writer opts aborted changes cluster).outcomes.filter
      fun outcome => !outcome.result.isSkipped).map (·.change) := by
  induction changes generalizing aborted cluster with
  | nil => rfl
  | cons change rest ih =>
    rcases @applyFrom_cons σ writer opts aborted change rest cluster with
      ⟨reason, -, heq⟩ | ⟨-, -, -, result, after, -, hresult, heq⟩
    · rw [heq]
      simpa [ApplyResult.isSkipped] using ih
    · have hsent : result.isSkipped = false := by
        cases result with
        | skipped reason => exact absurd rfl (hresult reason)
        | applied | failed => rfl
      rw [heq]
      simpa [hsent] using ih

/-- The cluster is changed by what is sent, and by nothing else. -/
theorem applyFrom_cluster : (applyFrom writer opts aborted changes cluster).cluster =
    (applyFrom writer opts aborted changes cluster).dispatched.foldl
      (fun cluster change => (writer.write change cluster).2) cluster := by
  induction changes generalizing aborted cluster with
  | nil => rfl
  | cons change rest ih =>
    rcases @applyFrom_cons σ writer opts aborted change rest cluster with
      ⟨reason, -, heq⟩ | ⟨-, -, -, result, after, hone, -, heq⟩
    · rw [heq]
      exact ih
    · have hafter : (writer.write change cluster).2 = after := by
        unfold applyOne at hone
        split at hone <;> simp_all
      rw [heq]
      dsimp only
      rw [foldl_cons, hafter]
      exact ih

/-- Behind the first failure of a run that stops there, everything is
aborted. -/
theorem applyFrom_after_failure (hstops : opts.continueOnError = false)
    {front back : List ApplyOutcome} {outcome : ApplyOutcome}
    (hsplit : (applyFrom writer opts aborted changes cluster).outcomes =
      front ++ outcome :: back) (hfailed : outcome.result.isFailed = true) :
    ∀ later ∈ back, later.result = .skipped .abortedByPrior := by
  induction changes generalizing aborted cluster front with
  | nil => simp [applyFrom] at hsplit
  | cons change rest ih =>
    rcases @applyFrom_cons σ writer opts aborted change rest cluster with
      ⟨reason, -, heq⟩ | ⟨-, -, -, result, after, -, -, heq⟩
    · rw [heq] at hsplit
      cases front with
      | nil =>
        obtain ⟨rfl, -⟩ := List.cons.inj hsplit
        simp [ApplyResult.isFailed] at hfailed
      | cons first others => exact ih (List.cons.inj hsplit).2
    · rw [heq] at hsplit
      cases front with
      | nil =>
        obtain ⟨rfl, rfl⟩ := List.cons.inj hsplit
        dsimp only at hfailed
        rw [hfailed, hstops, Bool.not_false, Bool.and_true, applyFrom_aborted]
        simp
      | cons first others => exact ih (List.cons.inj hsplit).2

end Runs

section Gate

variable {σ : Type} {writer : StateWriter σ} {opts : ApplyOptions}
variable {changes : List Change} {live : ClusterState} {cluster : σ}

/-- One severe risk refuses the whole run. -/
theorem enforceStatePreflight_assessed {prune : Bool} {risk : StateRisk}
    (hassessed : risk ∈ StatePreflight.assess (changes.filter (dispatchedByApply · prune)) live)
    (hsevere : risk.level = .severe) :
    enforceStatePreflight changes live false prune = .error {} := by
  have hhighest : highestLevel ((StatePreflight.assess
      (changes.filter (dispatchedByApply · prune)) live).map StateRisk.level) = .severe := by
    rw [highestLevel_eq_severe_iff, ← hsevere]
    exact mem_map_of_mem hassessed
  have hsome : (StatePreflight.assess
      (changes.filter (dispatchedByApply · prune)) live).isEmpty = false := by
    rw [isEmpty_eq_false_iff]
    exact ne_nil_of_mem hassessed
  simp [enforceStatePreflight, hhighest, hsome]

theorem enforceStatePreflight_severe {prune : Bool} {change : Change} {risk : StateRisk}
    (hchange : change ∈ changes.filter (dispatchedByApply · prune))
    (hrisk : risk ∈ StatePreflight.assessOne change live)
    (hsevere : risk.level = .severe) :
    enforceStatePreflight changes live false prune = .error {} := by
  apply enforceStatePreflight_assessed _ hsevere
  exact mem_append_right _ (mem_flatMap.mpr ⟨change, hchange, hrisk⟩)

/-- The gate assesses what the run would send, and the run sends a part of it
from the start: all of it, unless it is a rehearsal or stops at a failure. -/
theorem converge_sends_assessed (writer : StateWriter σ) (opts : ApplyOptions)
    (changes : List Change) (live : ClusterState) (cluster : σ) :
    let run := applyChanges writer opts changes cluster
    let assessed := changes.filter (dispatchedByApply · opts.prune)
    ((∃ change ∈ assessed, ∃ risk ∈ StatePreflight.assessOne change live, risk.level = .severe) →
      convergeWithChanges writer opts changes live false cluster = (.error {}, cluster)) ∧
    run.dispatched <+: assessed ∧
    (opts.dryRun = false → (opts.continueOnError = true ∨
        ∀ outcome ∈ run.outcomes, outcome.result.isFailed = false) →
      run.dispatched = assessed) ∧
    run.outcomes.map (·.change) = changes ∧
    run.dispatched = (run.outcomes.filter fun outcome =>
      !outcome.result.isSkipped).map (·.change) ∧
    run.cluster = run.dispatched.foldl
      (fun cluster change => (writer.write change cluster).2) cluster ∧
    (opts.dryRun = true → run.dispatched = []) ∧
    (opts.prune = false → ∀ change ∈ run.dispatched, change.kind ≠ .delete) ∧
    (opts.continueOnError = false → ∀ front outcome back, run.outcomes = front ++ outcome :: back →
      outcome.result.isFailed = true →
      ∀ later ∈ back, later.result = .skipped .abortedByPrior) := by
  intro run assessed
  have hfront : run.dispatched <+: assessed := applyFrom_dispatched
  refine ⟨?_, hfront, fun hreal hfailures => ?_, applyFrom_outcomes,
    applyFrom_sent, applyFrom_cluster, fun hdry => (applyFrom_dryRun hdry).1,
    ?_, ?_⟩
  · rintro ⟨change, hchange, risk, hrisk, hsevere⟩
    rw [convergeWithChanges, enforceStatePreflight_severe hchange hrisk hsevere]
  · exact applyFrom_complete hreal hfailures
  · intro hkeep change hsent
    have hassessed := (mem_filter.mp (hfront.subset hsent)).2
    simpa [dispatchedByApply, hkeep] using hassessed
  · intro hstops front outcome back hsplit hfailed
    exact applyFrom_after_failure hstops hsplit hfailed

end Gate

namespace ApplyWitness

def pool (poolid : String) : Change :=
  Family.pools.change (.create { poolid, comment := "", members := [] })

def groupDeletion : Change :=
  { kind := .delete, identity := "group", payload := .firewallGroup none none }

/-- A writer that refuses the pool `b`. -/
def writer : StateWriter (List String) where
  write change cluster :=
    if change.identity = "b" then (.error "500", cluster)
    else (.ok (), cluster ++ [change.identity])

def opts : ApplyOptions :=
  { dryRun := false, prune := false, continueOnError := false }

/-- A run that stops at its second change, and a refused one. -/
theorem converge_sends_assessed_stopped :
    (applyChanges writer opts [pool "a", pool "b", pool "c"] []).dispatched <+:
        [pool "a", pool "b", pool "c"] ∧
      convergeWithChanges writer { opts with prune := true } [pool "a", groupDeletion]
        {} false [] = (.error {}, []) := by
  constructor
  · exact (converge_sends_assessed writer opts [pool "a", pool "b", pool "c"] {} []).2.1
  · refine (converge_sends_assessed writer { opts with prune := true }
      [pool "a", groupDeletion] {} []).1 ⟨groupDeletion, ?_, .firewallGroupDelete "group", ?_, rfl⟩
    · decide +kernel
    · decide +kernel

/-- A rehearsal sends nothing of what is assessed, and neither does a run behind
its first failure. -/
theorem assessed_not_dispatched :
    (applyChanges writer { opts with dryRun := true } [pool "a"]
        []).dispatched = [] ∧
      [pool "a"].filter (dispatchedByApply · false) = [pool "a"] ∧
      (applyChanges writer opts [pool "b", pool "c"] []).dispatched = [pool "b"] ∧
      [pool "b", pool "c"].filter (dispatchedByApply · false) = [pool "b", pool "c"] := by
  refine ⟨?_, ?_, ?_, ?_⟩ <;> decide +kernel

end ApplyWitness

end Proxxx
