/-
The exit code of a batch operation.  Inside one call a failure wins over an
approval that is awaited; between the calls of a policy the greater code wins,
and the code of an awaited approval is the greater one.
-/
import Proxxx.BatchWaves

namespace Proxxx

open List

/-- How the turn of one target ends. -/
inductive TargetOutcome where
  | reported (status : TargetStatus)
  | panicked
  | aborted
deriving Repr, DecidableEq

def TargetOutcome.isUnmet : TargetOutcome → Bool
  | .reported .error => true
  | .reported .rejected => true
  | .reported .skipped => true
  | .panicked => true
  | _ => false

def TargetOutcome.isWaiting (outcome : TargetOutcome) : Bool :=
  outcome == .reported .pendingHitl

/-- What is known of the targets of a run that returned these results. -/
def settledOutcomes (results : List TargetResult) (panicked : List Nat) : List TargetOutcome :=
  results.map (fun result => .reported result.status) ++ panicked.map fun _ => .panicked

/-- The documented code: a failed, rejected or skipped target comes first, then
one that waits for approval. -/
def dueCode (outcomes : List TargetOutcome) : Nat :=
  if outcomes.any TargetOutcome.isUnmet then 2
  else if outcomes.any TargetOutcome.isWaiting then 9
  else 0

/-- The outcomes of a run's targets. -/
def BatchRun.settled (run : BatchRun) (results : List TargetResult) : List TargetOutcome :=
  settledOutcomes results (run.calls.flatMap (·.panicked))

section Call

variable (op : BatchOp) (policies : List Policy) (strict : Bool)
  (answers : BatchAnswers)

/-- The end of a spawned task. -/
def taskOutcome (position : Nat) : TargetOutcome :=
  match answers.operation position with
  | .done (.ok _) => .reported .success
  | .done (.error _) => .reported .error
  | .panicked _ => .panicked

def targetOutcome (scan : GuestScan) (position vmid : Nat) : TargetOutcome :=
  match targetStep op policies strict answers scan position vmid with
  | .refuse result => .reported result.status
  | .await result => .reported result.status
  | .ran _ result => .reported result.status
  | .spawn _ => taskOutcome answers position
  | .abort _ _ => .aborted

def targetOutcomes (scan : GuestScan) : Nat → List Nat → List TargetOutcome
  | _, [] => []
  | position, vmid :: rest =>
    targetOutcome op policies strict answers scan position vmid ::
      targetOutcomes scan (position + 1) rest

/-- The outcomes of the targets of one call, by what the call is answered. -/
def callOutcomes (vmids : List Nat) : List TargetOutcome :=
  match answers.nodes with
  | .error _ => []
  | .ok nodes =>
    targetOutcomes op policies strict answers (scanGuests answers nodes) 0 vmids

end Call

/-- Nothing went wrong, but an approval is awaited. -/
def onlyWaiting (outcomes : List TargetOutcome) : Bool :=
  outcomes.any TargetOutcome.isWaiting && !outcomes.any TargetOutcome.isUnmet

section Policy

variable (op : BatchOp) (policies : List Policy) (strict : Bool)
  (answers : Nat → BatchAnswers)

/-- The waves up to the first one with an error. -/
def reachedWaves : Nat → List (List Nat) → List (List TargetOutcome)
  | _, [] => []
  | index, wave :: later =>
    let outcomes := callOutcomes op policies strict (answers index) wave
    if .reported .error ∈ outcomes then [outcomes]
    else outcomes :: reachedWaves (index + 1) later

/-- A pilot that is the whole batch does not merely wait for approvals; of the
waves that are reached, one that merely waits does not come with one in which
something went wrong. -/
def CodesAgree (vmids : List Nat) : BatchPolicy → Prop
  | .full => True
  | .canary percent =>
    vmids.length ≤ canaryPilotCount vmids.length percent →
      onlyWaiting (callOutcomes op policies strict (answers 0) vmids) = false
  | .rolling waveSize =>
    let waves := reachedWaves op policies strict answers 0
      (chunks waveSize vmids)
    (∃ wave ∈ waves, onlyWaiting wave = true) →
      ∀ wave ∈ waves, wave.any TargetOutcome.isUnmet = false

end Policy

theorem dueCode_eq_batchExitCode (outcomes : List TargetOutcome) :
    dueCode outcomes = batchExitCode (outcomes.any TargetOutcome.isUnmet)
      (outcomes.any TargetOutcome.isWaiting) := by
  simp [dueCode, batchExitCode, exitHitlPending]

theorem dueCode_of_perm {first second : List TargetOutcome}
    (hperm : first.Perm second) : dueCode first = dueCode second := by
  rw [dueCode, dueCode, hperm.any_eq, hperm.any_eq]

variable {outcomes : List TargetOutcome}

theorem dueCode_of_error (herror : .reported .error ∈ outcomes) : dueCode outcomes = 2 := by
  have hunmet : outcomes.any TargetOutcome.isUnmet = true := any_eq_true.mpr ⟨_, herror, rfl⟩
  simp [dueCode, hunmet]

theorem batchExitCode_or (failed failedToo pending pendingToo : Bool) :
    batchExitCode (failed || failedToo) (pending || pendingToo) =
      if batchExitCode failed pending = 2 then 2
      else if batchExitCode failedToo pendingToo = 2 then 2
      else max (batchExitCode failed pending) (batchExitCode failedToo pendingToo) := by
  cases failed <;> cases failedToo <;> cases pending <;> cases pendingToo <;> rfl

/-- The code of two parts of a batch together. -/
theorem dueCode_append (first second : List TargetOutcome) : dueCode (first ++ second) =
    if dueCode first = 2 then 2
    else if dueCode second = 2 then 2
    else max (dueCode first) (dueCode second) := by
  simp only [dueCode_eq_batchExitCode, any_append, batchExitCode_or]

theorem dueCode_append_of_error (herror : .reported .error ∈ outcomes) (more : List TargetOutcome) :
    dueCode (outcomes ++ more) = dueCode outcomes := by
  rw [dueCode_of_error herror, dueCode_of_error (mem_append_left more herror)]

section Call

variable {op : BatchOp} {policies : List Policy} {strict : Bool}
  {answers : BatchAnswers} {scan : GuestScan}

def BatchState.settled (state : BatchState) : List TargetOutcome :=
  settledOutcomes state.results state.panicked

/-- The flags of a call tell of the targets that are settled, and with the tasks
still running these are all targets so far. -/
structure BatchState.Tallies (answers : BatchAnswers) (state : BatchState)
    (running : List SpawnedOp) (outcomes : List TargetOutcome) : Prop where
  tally : (state.settled ++ running.map (taskOutcome answers ·.position)).Perm
    outcomes
  failure : state.hasFailure = state.settled.any TargetOutcome.isUnmet
  pending : state.hitlPending = state.settled.any TargetOutcome.isWaiting

variable {outcomes : List TargetOutcome} {state : BatchState}

/-- One more target is settled. -/
theorem BatchState.Tallies.settle {next : BatchState}
    {running left : List SpawnedOp} {now : List TargetOutcome}
    {outcome : TargetOutcome}
    (htallies : state.Tallies answers running outcomes)
    (hsettled : next.settled.Perm (outcome :: state.settled))
    (hfailure : next.hasFailure = (outcome.isUnmet || state.hasFailure))
    (hpending : next.hitlPending = (outcome.isWaiting || state.hitlPending))
    (htally : (outcome :: (state.settled ++ left.map (taskOutcome answers ·.position))).Perm now) :
    next.Tallies answers left now where
  tally := (hsettled.append_right _).trans htally
  failure := by
    rw [hfailure, htallies.failure, hsettled.any_eq, any_cons]
  pending := by
    rw [hpending, htallies.pending, hsettled.any_eq, any_cons]

theorem settledOutcomes_report (results : List TargetResult)
    (panicked : List Nat) (result : TargetResult) :
    (settledOutcomes (results ++ [result]) panicked).Perm
      (.reported result.status :: settledOutcomes results panicked) := by
  simp only [settledOutcomes, map_append, map_cons, map_nil, append_assoc, singleton_append]
  exact perm_middle

theorem settledOutcomes_panic (results : List TargetResult) (panicked : List Nat) (vmid : Nat) :
    (settledOutcomes results (panicked ++ [vmid])).Perm
      (.panicked :: settledOutcomes results panicked) := by
  simp only [settledOutcomes, map_append, map_cons, map_nil, ← append_assoc]
  exact perm_append_singleton _ _

variable {vmids : List Nat}

theorem runTargets_tallies {position : Nat} {final : BatchState}
    (htallies : state.Tallies answers state.spawned outcomes)
    (hrun : runTargets op policies strict answers scan position vmids state = (final, none)) :
    final.Tallies answers final.spawned (outcomes ++
      targetOutcomes op policies strict answers scan position vmids) := by
  induction vmids generalizing position state outcomes with
  | nil =>
    cases hrun
    simpa [targetOutcomes] using htallies
  | cons vmid rest ih =>
    have hfits : (targetStep op policies strict answers scan position
      vmid).Fits op scan vmid := targetStep_fits
    rw [runTargets] at hrun
    -- The outcome of this target goes in front of those so far.
    suffices hlater : final.Tallies answers final.spawned
        (targetOutcome op policies strict answers scan position vmid ::
          outcomes ++ targetOutcomes op policies strict answers scan (position + 1) rest) by
      refine ⟨hlater.tally.trans ?_, hlater.failure, hlater.pending⟩
      exact perm_middle.symm
    cases hstep : targetStep op policies strict answers scan position vmid with
    | refuse result =>
      rw [hstep] at hrun hfits
      refine ih ?_ hrun
      have hunmet : TargetOutcome.isUnmet (.reported result.status) = true ∧
          TargetOutcome.isWaiting (.reported result.status) = false := by
        rcases hfits.2 with hstatus | ⟨hstatus, -⟩ <;> simp [hstatus, TargetOutcome.isUnmet,
          TargetOutcome.isWaiting]
      simp only [targetOutcome, hstep]
      exact htallies.settle (settledOutcomes_report _ _ _) (by simp [hunmet])
        (by simp [hunmet]) (htallies.tally.cons _)
    | await result | ran _ result =>
      rw [hstep] at hrun hfits
      refine ih ?_ hrun
      simp only [targetOutcome, hstep]
      exact htallies.settle (settledOutcomes_report _ _ _)
        (by simp [hfits.2, TargetOutcome.isUnmet])
        (by simp [hfits.2, TargetOutcome.isWaiting]) (htallies.tally.cons _)
    | spawn mutation =>
      rw [hstep] at hrun
      refine ih ?_ hrun
      simp only [targetOutcome, hstep]
      refine ⟨?_, htallies.failure, htallies.pending⟩
      rw [map_append, ← append_assoc]
      exact (perm_append_singleton _ _).trans (htallies.tally.cons _)
    | abort issued halt =>
      rw [hstep] at hrun
      cases hrun

theorem join_tallies {task : SpawnedOp} {running : List SpawnedOp}
    (htallies : state.Tallies answers (task :: running) outcomes) :
    (state.join answers task).Tallies answers running outcomes := by
  have hone : (taskOutcome answers task.position :: (state.settled ++
      running.map (taskOutcome answers ·.position))).Perm outcomes :=
    perm_middle.symm.trans htallies.tally
  unfold taskOutcome at hone
  unfold BatchState.join
  split <;> rename_i hoperation <;> rw [hoperation] at hone
  · exact htallies.settle (settledOutcomes_report _ _ _) rfl rfl hone
  · exact htallies.settle (settledOutcomes_report _ _ _) rfl rfl hone
  · exact htallies.settle (settledOutcomes_panic _ _ _) rfl rfl hone

theorem foldl_join_tallies {tasks : List SpawnedOp}
    (htallies : state.Tallies answers tasks outcomes) :
    (tasks.foldl (BatchState.join answers) state).Tallies answers [] outcomes := by
  induction tasks generalizing state with
  | nil => exact htallies
  | cons task rest ih => exact ih (join_tallies htallies)

variable {results : List TargetResult}

/-- A call that returns tells how its targets ended, and its code is due. -/
theorem executeBatchOpFull_outcomes {code : Nat}
    (hok : (executeBatchOpFull op policies strict answers vmids).outcome = .ok (results, code)) :
    (settledOutcomes results (executeBatchOpFull op policies strict answers vmids).panicked).Perm
        (callOutcomes op policies strict answers vmids) ∧
      code = dueCode (callOutcomes op policies strict answers vmids) := by
  rcases executeBatchOpFull_cases op policies strict answers vmids with
    ⟨issued, halt, hcall⟩ | ⟨nodes, state, hnodes, hrun, hcall⟩
  · rw [hcall] at hok
    cases hok
  · rw [hcall] at hok ⊢
    cases hok
    have hempty : ({} : BatchState).Tallies answers [] [] :=
      { tally := .refl _, failure := rfl, pending := rfl }
    have hstate := runTargets_tallies hempty hrun
    have hfinal : (state.joinAll answers).Tallies answers []
        (callOutcomes op policies strict answers vmids) := by
      refine foldl_join_tallies ⟨?_, hstate.failure, hstate.pending⟩
      rw [callOutcomes, hnodes]
      refine .trans (List.Perm.append_left _ ?_) hstate.tally
      exact (answers.finishing.perm state.spawned).map _
    have htally : (state.joinAll answers).settled.Perm
        (callOutcomes op policies strict answers vmids) := by
      have hall := hfinal.tally
      rwa [map_nil, append_nil] at hall
    refine ⟨htally, ?_⟩
    rw [hfinal.failure, hfinal.pending, ← dueCode_of_perm htally, dueCode_eq_batchExitCode]

theorem any_isError_iff {code : Nat}
    (hok : (executeBatchOpFull op policies strict answers vmids).outcome = .ok (results, code)) :
    results.any TargetResult.isError = true ↔
      .reported .error ∈ callOutcomes op policies strict answers vmids := by
  rw [← (executeBatchOpFull_outcomes hok).1.mem_iff]
  simp [settledOutcomes, TargetResult.isError]

end Call

section Policy

variable {op : BatchOp} {policies : List Policy} {strict : Bool}
  {answers : Nat → BatchAnswers} {vmids : List Nat}

/-- The greatest of the codes of some waves. -/
def worstCode (waves : List (List TargetOutcome)) : Nat :=
  (waves.map dueCode).foldr max 0

theorem worstCode_eq (waves : List (List TargetOutcome)) : worstCode waves =
    if waves.any onlyWaiting then 9
    else if waves.any (·.any TargetOutcome.isUnmet) then 2
    else 0 := by
  induction waves with
  | nil => rfl
  | cons wave later ih =>
    rw [worstCode, map_cons, foldr_cons, ← worstCode, ih, dueCode, any_cons, any_cons, onlyWaiting]
    cases wave.any TargetOutcome.isUnmet <;> cases wave.any TargetOutcome.isWaiting <;>
      cases later.any onlyWaiting <;>
      cases later.any (·.any TargetOutcome.isUnmet) <;> rfl

/-- Where nothing went wrong, to wait is to merely wait. -/
theorem any_isWaiting_eq {waves : List (List TargetOutcome)}
    (hmet : waves.any (·.any TargetOutcome.isUnmet) = false) :
    waves.any (·.any TargetOutcome.isWaiting) = waves.any onlyWaiting := by
  induction waves with
  | nil => rfl
  | cons wave later ih =>
    rw [any_cons, Bool.or_eq_false_iff] at hmet
    rw [any_cons, any_cons, ih hmet.2, onlyWaiting, hmet.1, Bool.not_false, Bool.and_true]

theorem dueCode_flatten (waves : List (List TargetOutcome)) : dueCode waves.flatten =
    if waves.any (·.any TargetOutcome.isUnmet) then 2
    else if waves.any onlyWaiting then 9
    else 0 := by
  rw [dueCode, any_flatten, any_flatten]
  cases hunmet : waves.any (·.any TargetOutcome.isUnmet) with
  | true => rfl
  | false => rw [any_isWaiting_eq hunmet]

/-- The greatest code is the due one unless a wave that merely waits comes with
one in which something went wrong. -/
theorem worstCode_eq_dueCode_iff (waves : List (List TargetOutcome)) :
    worstCode waves = dueCode waves.flatten ↔ ((∃ wave ∈ waves, onlyWaiting wave = true) →
        ∀ wave ∈ waves, wave.any TargetOutcome.isUnmet = false) := by
  have hmet : (∀ wave ∈ waves, wave.any TargetOutcome.isUnmet = false) ↔
      waves.any (·.any TargetOutcome.isUnmet) = false := by
    simp only [any_eq_false, Bool.not_eq_true]
  rw [worstCode_eq, dueCode_flatten, ← any_eq_true, hmet]
  cases waves.any onlyWaiting <;> cases waves.any (·.any TargetOutcome.isUnmet) <;> simp

theorem settledOutcomes_append (first second : List TargetResult) (left right : List Nat) :
    (settledOutcomes (first ++ second) (left ++ right)).Perm
      (settledOutcomes first left ++ settledOutcomes second right) := by
  simp only [settledOutcomes, map_append, append_assoc]
  exact List.Perm.append_left _ (perm_append_comm_assoc _ _ _)

variable {waveResults : List TargetResult} {outcomes : List TargetOutcome}

theorem settledOutcomes_wave (results : List TargetResult) {panicked : List Nat}
    (hperm : (settledOutcomes waveResults panicked).Perm outcomes) :
    (settledOutcomes (results ++ waveResults) panicked).Perm
      (settledOutcomes results [] ++ outcomes) :=
  (settledOutcomes_append results waveResults [] panicked).trans (List.Perm.append_left _ hperm)

theorem settledOutcomes_skipping (results skipped : List TargetResult) {panicked : List Nat}
    (hperm : (settledOutcomes waveResults panicked).Perm outcomes) :
    (settledOutcomes (results ++ waveResults ++ skipped) panicked).Perm
      (settledOutcomes results [] ++ (outcomes ++ settledOutcomes skipped [])) := by
  have hall := settledOutcomes_append (results ++ waveResults) skipped panicked []
  rw [append_nil] at hall
  rw [← append_assoc]
  exact hall.trans ((settledOutcomes_wave results hperm).append_right _)

theorem dueCode_skipped (outcomes : List TargetOutcome) (reason : String)
    {targets : List Nat} (hsome : targets ≠ []) :
    dueCode (outcomes ++ settledOutcomes (targets.map (skippedTarget reason)) []) = 2 := by
  cases targets with
  | nil => exact absurd rfl hsome
  | cons vmid rest =>
    have hskipped : dueCode (settledOutcomes
        ((vmid :: rest).map (skippedTarget reason)) []) = 2 := rfl
    rw [dueCode_append, hskipped]
    split <;> rfl

variable {results : List TargetResult}

/-- The code of some waves is the greatest of theirs, and their results are those
of the targets that are reached. -/
theorem runWaves_outcomes {waves : List (List Nat)} {waveSize index code : Nat}
    {all : List TargetResult} {total : Nat}
    (hok : (runWaves op policies strict answers vmids waveSize index waves
      results code).outcome = .ok all total) :
    total = max code (worstCode (reachedWaves op policies strict answers index waves)) ∧
      ∃ outcomes, dueCode outcomes = dueCode
          (reachedWaves op policies strict answers index waves).flatten ∧
        ((runWaves op policies strict answers vmids waveSize index waves results
          code).settled all).Perm (settledOutcomes results [] ++ outcomes) := by
  induction waves generalizing index results code with
  | nil =>
    cases hok
    refine ⟨(Nat.max_zero total).symm, [], rfl, ?_⟩
    rw [append_nil]
    exact .refl _
  | cons wave later ih =>
    rw [runWaves] at hok ⊢
    dsimp only at hok ⊢
    cases hcall : (executeBatchOpFull op policies strict (answers index) wave).outcome with
    | error halt =>
      rw [hcall] at hok
      cases hok
    | ok returned =>
      obtain ⟨waveResults, waveCode⟩ := returned
      obtain ⟨hperm, hcode⟩ := executeBatchOpFull_outcomes hcall
      have hmax : (if waveCode != 0 then max code waveCode else code) = max code waveCode := by
        cases waveCode <;> simp
      simp only [hcall, hmax] at hok ⊢
      by_cases herror : .reported .error ∈ callOutcomes op policies strict (answers index) wave
      · have hstop := (any_isError_iff hcall).mpr herror
        have htwo : waveCode = 2 := hcode.trans (dueCode_of_error herror)
        rw [if_pos hstop] at hok ⊢
        rw [reachedWaves, if_pos herror]
        cases hok
        have hpositive : max code waveCode ≠ 0 := by omega
        constructor
        · rw [if_neg (by simpa using hpositive), hcode, worstCode,
            map_singleton, foldr_cons, foldr_nil,
            Nat.max_zero]
        · rw [flatten_singleton, BatchRun.settled, flatMap_singleton]
          exact ⟨_, dueCode_append_of_error herror _, settledOutcomes_skipping results _ hperm⟩
      · have hpass : ¬ waveResults.any TargetResult.isError = true :=
          fun hstop => herror ((any_isError_iff hcall).mp hstop)
        rw [if_neg hpass] at hok ⊢
        rw [reachedWaves, if_neg herror]
        obtain ⟨htotal, outcomes, hdue, hsettled⟩ := ih hok
        constructor
        · rw [htotal, hcode, worstCode, worstCode, map_cons, foldr_cons, Nat.max_assoc]
        · rw [flatten_cons]
          refine ⟨callOutcomes op policies strict (answers index) wave ++
            outcomes, by rw [dueCode_append, dueCode_append, hdue], ?_⟩
          rw [BatchRun.settled, flatMap_cons]
          rw [← append_assoc]
          refine (settledOutcomes_append [] all _ _).trans ?_
          refine (List.Perm.append_left _ hsettled).trans ?_
          rw [← append_assoc]
          refine List.Perm.append_right _ ?_
          refine .trans ?_ (settledOutcomes_wave results hperm)
          exact (settledOutcomes_append [] (results ++ waveResults)
            (executeBatchOpFull op policies strict (answers index)
              wave).panicked []).symm.trans (.of_eq (by simp))

theorem dueCode_eq_nine_iff (outcomes : List TargetOutcome) :
    dueCode outcomes = 9 ↔ onlyWaiting outcomes = true := by
  rw [dueCode, onlyWaiting]
  cases outcomes.any TargetOutcome.isUnmet <;> cases outcomes.any TargetOutcome.isWaiting <;> simp

theorem dueCode_values (outcomes : List TargetOutcome) :
    dueCode outcomes = 0 ∨ dueCode outcomes = 2 ∨ dueCode outcomes = 9 := by
  rw [dueCode]
  split
  · exact .inr (.inl rfl)
  · split
    · exact .inr (.inr rfl)
    · exact .inl rfl

theorem dueCode_append_of_zero {first second : List TargetOutcome}
    (hzero : dueCode first = 0) : dueCode (first ++ second) = dueCode second := by
  rw [dueCode_append, hzero, Nat.zero_max]
  simp +contextual [eq_comm]

theorem dueCode_ne_zero_of_failed {index code : Nat} {targets : List Nat}
    (hok : (executeBatchOpFull op policies strict (answers index)
      targets).outcome = .ok (results, code))
    (hfailed : (results.any TargetResult.isError || decide (code ≥ 2)) = true) :
    dueCode (callOutcomes op policies strict (answers index) targets) ≠ 0 := by
  rw [Bool.or_eq_true, decide_eq_true_eq] at hfailed
  rcases hfailed with herror | hcode
  · rw [dueCode_of_error ((any_isError_iff hok).mp herror)]
    decide
  · rw [← (executeBatchOpFull_outcomes hok).2]
    exact Nat.ne_of_gt (Nat.lt_of_lt_of_le Nat.two_pos hcode)

theorem runCanary_code_iff {percent total : Nat} {all : List TargetResult}
    (hok : (runCanary op policies strict answers vmids percent).outcome = .ok all total) :
    total = dueCode ((runCanary op policies strict answers vmids percent).settled all) ↔
      CodesAgree op policies strict answers vmids (.canary percent) := by
  -- The pilot is the whole batch where nothing is left to skip or promote.
  have hwhole (hrest : vmids.drop (canaryPilotCount vmids.length percent) = []) :
      vmids.take (canaryPilotCount vmids.length percent) = vmids :=
    take_of_length_le (drop_eq_nil_iff.mp hrest)
  have hvalues := dueCode_values (callOutcomes op policies strict (answers 0) vmids)
  unfold CodesAgree
  dsimp only
  rw [← drop_eq_nil_iff, ← Bool.not_eq_true, ← dueCode_eq_nine_iff]
  revert hok
  fun_cases runCanary op policies strict answers vmids percent <;> intro hok <;> cases hok
  next results code hpilot hfailed =>
    obtain ⟨hperm, -⟩ := executeBatchOpFull_outcomes hpilot
    rw [BatchRun.settled, flatMap_singleton]
    refine (Eq.congr_right (dueCode_of_perm (settledOutcomes_skipping [] _ hperm))).trans ?_
    by_cases hrest : vmids.drop (canaryPilotCount vmids.length percent) = []
    · have hpositive := dueCode_ne_zero_of_failed hpilot hfailed
      rw [hwhole hrest] at hpositive
      change 2 = dueCode (settledOutcomes [] [] ++ (callOutcomes op policies strict (answers 0)
        (vmids.take (canaryPilotCount vmids.length percent)) ++ settledOutcomes ((vmids.drop
          (canaryPilotCount vmids.length percent)).map _) [])) ↔ _
      rw [hwhole hrest, hrest]
      simp only [settledOutcomes, map_nil, append_nil, nil_append, true_imp_iff]
      omega
    · refine iff_of_true ?_ fun hnone => absurd hnone hrest
      exact (dueCode_skipped _ _ hrest).symm
  next hrest hpilot hpassed =>
    obtain ⟨hperm, hcode⟩ := executeBatchOpFull_outcomes hpilot
    rw [BatchRun.settled, flatMap_singleton]
    refine iff_of_true (hcode.trans (dueCode_of_perm hperm).symm) fun _ => ?_
    rw [hwhole (List.isEmpty_iff.mp hrest)] at hcode
    simp only [Bool.or_eq_true, decide_eq_true_eq, not_or] at hpassed
    omega
  next code hpilot hpassed hrest _ _ restCode hpromoted =>
    obtain ⟨hperm, hcode⟩ := executeBatchOpFull_outcomes hpilot
    obtain ⟨hrestPerm, hrestCode⟩ := executeBatchOpFull_outcomes hpromoted
    refine iff_of_true ?_ fun hnone => absurd (List.isEmpty_iff.mpr hnone) hrest
    have hzero : code = 0 := by
      simp only [Bool.or_eq_true, decide_eq_true_eq, not_or] at hpassed
      have hvalues : code = 0 ∨ code = 2 ∨ code = 9 := hcode ▸ dueCode_values _
      omega
    have hdue := dueCode_of_perm ((settledOutcomes_append _ _ _ _).trans (hperm.append hrestPerm))
    rw [BatchRun.settled, flatMap_cons, flatMap_singleton, hdue,
      dueCode_append_of_zero (hcode.symm.trans hzero), ← hrestCode, hzero]
    cases restCode <;> rfl

/-- The exit code of a batch that returns is the documented one exactly where the
codes of its calls agree. -/
theorem batch_exit_code_due_iff (op : BatchOp) (policies : List Policy)
    (strict : Bool) (answers : Nat → BatchAnswers) (vmids : List Nat)
    (policy : BatchPolicy) (results : List TargetResult) (code : Nat)
    (hok : (executeBatchOpWithPolicy op policies strict answers vmids
      policy).outcome = .ok results code) :
    code = dueCode ((executeBatchOpWithPolicy op policies strict answers vmids
        policy).settled results) ↔
      CodesAgree op policies strict answers vmids policy := by
  cases policy with
  | full =>
    refine iff_of_true ?_ trivial
    unfold executeBatchOpWithPolicy at hok ⊢
    dsimp only at hok ⊢
    cases hcall : (executeBatchOpFull op policies strict (answers 0) vmids).outcome with
    | error halt =>
      rw [hcall] at hok
      cases hok
    | ok returned =>
      obtain ⟨callResults, callCode⟩ := returned
      obtain ⟨hperm, hcode⟩ := executeBatchOpFull_outcomes hcall
      rw [hcall] at hok
      cases hok
      rw [BatchRun.settled, flatMap_singleton, hcode]
      exact (dueCode_of_perm hperm).symm
  | canary percent => exact runCanary_code_iff hok
  | rolling waveSize =>
    unfold executeBatchOpWithPolicy at hok ⊢
    dsimp only at hok ⊢
    by_cases hsize : waveSize = 0
    · rw [if_pos hsize] at hok
      cases hok
    · rw [if_neg hsize] at hok ⊢
      obtain ⟨htotal, outcomes, hdue, hsettled⟩ := runWaves_outcomes hok
      rw [dueCode_of_perm hsettled, htotal, Nat.zero_max]
      exact (Eq.congr_right hdue).trans (worstCode_eq_dueCode_iff _)

end Policy

namespace BatchWitness

theorem batch_exit_code_due_refusing :
    statuses (executeBatchOpWithPolicy .start [] false refusing [100, 101]
        (.rolling 1)) = [(100, .error), (101, .skipped)] ∧
      2 = dueCode ((executeBatchOpWithPolicy .start [] false refusing
        [100, 101] (.rolling 1)).settled [{ vmid := 100, status := .error, message := some "403" },
            skippedTarget "rolling wave 1 failed — remainder aborted" 101]) := by
  refine ⟨by decide +kernel, ?_⟩
  refine (batch_exit_code_due_iff .start [] false refusing [100, 101] (.rolling 1) _ 2 rfl).mpr ?_
  intro hwaits
  exact absurd hwaits (by decide +kernel)

/-- The second guest is started behind an approval only. -/
def startPolicy : Policy where
  action := "start"
  target := "101"
  channel := "telegram"
  require := 1

/-- The approvers can be asked, and the first guest is a template. -/
def approvable : Nat → BatchAnswers :=
  fun _ => { answered true upid with telegram := some (.ok ()) }

def exitCode (run : BatchRun) : Option Nat :=
  match run.outcome with
  | .ok _ code => some code
  | .halted _ => none

/-- A rejected template and an approval in different waves exit with the code of
the approval; a pilot that is the whole batch and waits exits as a failure. -/
theorem batch_exit_code_not_due :
    statuses (executeBatchOpWithPolicy .start [startPolicy] false approvable
        [100, 101] (.rolling 1)) = [(100, .rejected), (101, .pendingHitl)] ∧
      exitCode (executeBatchOpWithPolicy .start [startPolicy] false approvable
        [100, 101] (.rolling 1)) = some 9 ∧
      dueCode [.reported .rejected, .reported .pendingHitl] = 2 ∧
      statuses (executeBatchOpWithPolicy .start [startPolicy] false approvable
        [101] (.canary 100)) = [(101, .pendingHitl)] ∧
      exitCode (executeBatchOpWithPolicy .start [startPolicy] false approvable
        [101] (.canary 100)) = some 2 ∧
      dueCode [.reported .pendingHitl] = 9 := by
  decide +kernel

end BatchWitness

end Proxxx
