/-
What a batch policy guarantees: no request leaves behind a call in which a target
failed or was rejected, and every target is reported once.  A task that panics
is not reported, and the waves of a rolling batch stop at an error only.
-/
import Proxxx.BatchExecution

namespace Proxxx

open List

def TargetResult.Bad (result : TargetResult) : Prop :=
  result.status = .error ∨ result.status = .rejected

/-- Some target of the call failed or was rejected. -/
def BatchCall.Failed (call : BatchCall) : Prop :=
  (∃ halt, call.outcome = .error halt) ∨ call.panicked ≠ [] ∨
    ∃ results code, call.outcome = .ok (results, code) ∧ ∃ result ∈ results, result.Bad

/-- No call behind a failed one sends anything. -/
def BatchRun.StopsBehindFailure (run : BatchRun) : Prop :=
  run.calls.Pairwise fun earlier later => earlier.Failed → later.issued = []

/-- The result array has every target, as often as it was asked for. -/
def BatchRun.ReportsAll (run : BatchRun) (vmids : List Nat) : Prop :=
  ∀ results code, run.outcome = .ok results code → (results.map (·.vmid)).Perm vmids

def GuestScan.rejects (scan : GuestScan) (op : BatchOp) (vmid : Nat) : Bool :=
  (scan.locate vmid).any op.rejectsTemplate

def BatchAnswers.Quiet (answers : BatchAnswers) : Prop :=
  ∀ position text, answers.operation position ≠ .panicked text

/-- No task panics, and in waves no target is a template that the operation does
not apply to. -/
structure Untroubled (op : BatchOp) (vmids : List Nat) (policy : BatchPolicy)
    (answers : Nat → BatchAnswers) : Prop where
  quiet : ∀ call, (answers call).Quiet
  startable : ∀ waveSize, policy = .rolling waveSize →
    ∀ call nodes, (answers call).nodes = .ok nodes →
      ∀ vmid ∈ vmids, (scanGuests (answers call) nodes).rejects op vmid = false

section Call

variable {op : BatchOp} {policies : List Policy} {strict : Bool}
  {answers : BatchAnswers} {scan : GuestScan} {position vmid : Nat}

/-- What a step reports is about its target. -/
def TargetStep.Fits (op : BatchOp) (scan : GuestScan) (vmid : Nat) : TargetStep → Prop
  | .refuse result =>
    result.vmid = vmid ∧ (result.status = .error ∨
      result.status = .rejected ∧ scan.rejects op vmid = true)
  | .await result => result.vmid = vmid ∧ result.status = .pendingHitl
  | .ran _ result => result.vmid = vmid ∧ result.status = .success
  | .spawn _ => True
  | .abort _ _ => True

theorem approvalStep_fits (policy : Policy) (guest : BatchGuest) :
    (approvalStep answers policy guest position vmid).Fits op scan vmid := by
  fun_cases approvalStep answers policy guest position vmid
  any_goals trivial
  next => exact ⟨rfl, .inl rfl⟩
  next => exact ⟨rfl, .inl rfl⟩

theorem operationStep_fits (guest : BatchGuest) :
    (operationStep op strict answers guest position vmid).Fits op scan vmid := by
  unfold operationStep
  dsimp only
  split
  · split
    · exact ⟨rfl, rfl⟩
    · trivial
    · trivial
  · trivial

theorem targetStep_fits : (targetStep op policies strict answers scan position vmid).Fits op scan
    vmid := by
  unfold targetStep
  split
  · rename_i guest hguest
    split
    · rename_i hrejects
      exact ⟨rfl, .inr ⟨rfl, by simp [GuestScan.rejects, hguest, hrejects]⟩⟩
    · split
      · exact approvalStep_fits _ _
      · exact operationStep_fits _
  · exact ⟨rfl, .inl rfl⟩

/-- What a call has gathered accounts for its targets, up to those whose task is
still running. -/
structure BatchState.Accounts (op : BatchOp) (scan : GuestScan)
    (state : BatchState) (waiting targets : List Nat) : Prop where
  targets : (state.results.map (·.vmid) ++ (state.panicked ++ waiting)).Perm
    targets
  flagged : (∃ result ∈ state.results, result.Bad) ∨ state.panicked ≠ [] → state.hasFailure = true
  templates : ∀ result ∈ state.results, result.status = .rejected →
    scan.rejects op result.vmid = true

variable {state : BatchState} {targets waiting : List Nat}

/-- One more result for one more target. -/
theorem BatchState.Accounts.report {next : BatchState} {left now : List Nat} {result : TargetResult}
    (haccounts : state.Accounts op scan waiting targets)
    (hresults : next.results = state.results ++ [result])
    (hpanicked : next.panicked = state.panicked)
    (hflag : state.hasFailure = true ∨ result.Bad → next.hasFailure = true)
    (htemplate : result.status = .rejected → scan.rejects op result.vmid = true)
    (htargets : (result.vmid :: (state.results.map (·.vmid) ++
      (state.panicked ++ left))).Perm now) :
    next.Accounts op scan left now := by
  constructor
  · rw [hresults, hpanicked, map_append, append_assoc]
    exact perm_middle.trans htargets
  · intro hbad
    apply hflag
    rw [hresults, hpanicked] at hbad
    rcases hbad with ⟨other, hother, hbad⟩ | hbad
    · rcases mem_append.mp hother with hold | hnew
      · exact .inl (haccounts.flagged (.inl ⟨other, hold, hbad⟩))
      · obtain rfl := mem_singleton.mp hnew
        exact .inr hbad
    · exact .inl (haccounts.flagged (.inr hbad))
  · intro other hother hrejected
    rw [hresults] at hother
    rcases mem_append.mp hother with hold | hnew
    · exact haccounts.templates other hold hrejected
    · obtain rfl := mem_singleton.mp hnew
      exact htemplate hrejected

theorem BatchState.Accounts.of_perm {left now : List Nat}
    (haccounts : state.Accounts op scan waiting targets)
    (hwaiting : left.Perm waiting) (htargets : targets.Perm now) :
    state.Accounts op scan left now where
  targets := ((List.Perm.append_left _ (List.Perm.append_left _ hwaiting)).trans
    haccounts.targets).trans htargets
  flagged := haccounts.flagged
  templates := haccounts.templates

variable {vmids : List Nat}

theorem runTargets_accounts {final : BatchState}
    (haccounts : state.Accounts op scan (state.spawned.map (·.vmid)) targets)
    (hrun : runTargets op policies strict answers scan position vmids state = (final, none)) :
    final.Accounts op scan (final.spawned.map (·.vmid)) (targets ++ vmids) := by
  induction vmids generalizing position state targets with
  | nil =>
    cases hrun
    simpa using haccounts
  | cons vmid rest ih =>
    have hfits : (targetStep op policies strict answers scan position
      vmid).Fits op scan vmid := targetStep_fits
    rw [runTargets] at hrun
    suffices hlater : final.Accounts op scan (final.spawned.map (·.vmid))
        (vmid :: targets ++ rest) from
      hlater.of_perm (.refl _) perm_middle.symm
    cases hstep : targetStep op policies strict answers scan position vmid with
    | refuse result =>
      rw [hstep] at hrun hfits
      obtain ⟨hvmid, hstatus⟩ := hfits
      refine ih ?_ hrun
      refine haccounts.report rfl rfl (fun _ => rfl) ?_ ?_
      · intro hrejected
        rcases hstatus with herror | ⟨-, hrejects⟩
        · rw [hrejected] at herror
          cases herror
        · rwa [hvmid]
      · rw [hvmid]
        exact haccounts.targets.cons vmid
    | await result | ran _ result =>
      rw [hstep] at hrun hfits
      obtain ⟨hvmid, hstatus⟩ := hfits
      refine ih ?_ hrun
      refine haccounts.report rfl rfl ?_ ?_ ?_
      · simp [TargetResult.Bad, hstatus]
      · simp [hstatus]
      · rw [hvmid]
        exact haccounts.targets.cons vmid
    | spawn mutation =>
      rw [hstep] at hrun
      refine ih ?_ hrun
      constructor
      · have hmore : (state.results.map (·.vmid) ++ (state.panicked ++
            (state.spawned.map (·.vmid) ++ [vmid]))).Perm
            (vmid :: targets) := by
          simp only [← append_assoc]
          refine (perm_append_singleton vmid _).trans ?_
          simpa using haccounts.targets
        simpa using hmore
      · exact haccounts.flagged
      · exact haccounts.templates
    | abort issued halt =>
      rw [hstep] at hrun
      cases hrun

theorem runTargets_panicked : (runTargets op policies strict answers scan position vmids
    state).1.panicked = state.panicked := by
  induction vmids generalizing position state with
  | nil => rfl
  | cons vmid rest ih =>
    rw [runTargets]
    split
    · exact ih
    · exact ih
    · exact ih
    · exact ih
    · rfl

theorem join_accounts {task : SpawnedOp}
    (haccounts : state.Accounts op scan (task.vmid :: waiting) targets) :
    (state.join answers task).Accounts op scan waiting targets := by
  have hone : (task.vmid :: (state.results.map (·.vmid) ++
      (state.panicked ++ waiting))).Perm targets := by
    refine .trans ?_ haccounts.targets
    rw [← append_assoc, ← append_assoc]
    exact perm_middle.symm
  unfold BatchState.join
  split
  · refine haccounts.report rfl rfl ?_ ?_ hone
    · simp [TargetResult.Bad]
    · simp
  · refine haccounts.report rfl rfl (fun _ => rfl) ?_ hone
    simp
  · constructor
    · have hrest := haccounts.targets
      simpa using hrest
    · exact fun _ => rfl
    · exact haccounts.templates

theorem foldl_join_accounts {tasks : List SpawnedOp}
    (haccounts : state.Accounts op scan (tasks.map (·.vmid)) targets) :
    (tasks.foldl (BatchState.join answers) state).Accounts op scan [] targets := by
  induction tasks generalizing state with
  | nil => exact haccounts
  | cons task rest ih => exact ih (join_accounts haccounts)

theorem foldl_join_panicked (hquiet : answers.Quiet) {tasks : List SpawnedOp} :
    (tasks.foldl (BatchState.join answers) state).panicked = state.panicked := by
  induction tasks generalizing state with
  | nil => rfl
  | cons task rest ih =>
    rw [foldl_cons, ih]
    unfold BatchState.join
    split
    · rfl
    · rfl
    · rename_i text htext
      exact absurd htext (hquiet task.position text)

/-- What a call that returns a result array has told of its targets. -/
structure BatchCall.Tells (op : BatchOp) (answers : BatchAnswers)
    (call : BatchCall) (results : List TargetResult) (code : Nat) : Prop where
  targets : (results.map (·.vmid) ++ call.panicked).Perm call.targets
  code : (∃ result ∈ results, result.Bad) ∨ call.panicked ≠ [] → code = 2
  templates : ∃ nodes, answers.nodes = .ok nodes ∧
    ∀ result ∈ results, result.status = .rejected →
      (scanGuests answers nodes).rejects op result.vmid = true

theorem executeBatchOpFull_cases (op : BatchOp) (policies : List Policy)
    (strict : Bool) (answers : BatchAnswers) (vmids : List Nat) :
    (∃ issued halt, executeBatchOpFull op policies strict answers vmids =
      { targets := vmids, issued := issued, panicked := [], outcome := .error halt }) ∨
    ∃ nodes state, answers.nodes = .ok nodes ∧
      runTargets op policies strict answers (scanGuests answers nodes) 0 vmids {} = (state, none) ∧
      executeBatchOpFull op policies strict answers vmids =
        { targets := vmids, issued := state.issued ++ state.spawned.map (·.mutation),
          panicked := (state.joinAll answers).panicked,
          outcome := .ok ((state.joinAll answers).results,
            batchExitCode (state.joinAll answers).hasFailure
              (state.joinAll answers).hitlPending) } := by
  fun_cases executeBatchOpFull op policies strict answers vmids
  any_goals exact .inl ⟨_, _, rfl⟩
  next nodes hnodes _ _ state hrun _ _ => exact .inr ⟨nodes, state, hnodes, hrun, rfl⟩

theorem executeBatchOpFull_tells {results : List TargetResult} {code : Nat}
    (hok : (executeBatchOpFull op policies strict answers vmids).outcome = .ok (results, code)) :
    (executeBatchOpFull op policies strict answers vmids).Tells op answers results code := by
  rcases executeBatchOpFull_cases op policies strict answers vmids with
    ⟨issued, halt, hcall⟩ | ⟨nodes, state, hnodes, hrun, hcall⟩
  · rw [hcall] at hok
    cases hok
  · rw [hcall] at hok ⊢
    cases hok
    have hempty : ({} : BatchState).Accounts op (scanGuests answers nodes) [] [] :=
      { targets := .refl _, flagged := by simp, templates := by simp }
    have hstate := runTargets_accounts hempty hrun
    have hfinal : (state.joinAll answers).Accounts op (scanGuests answers nodes) [] vmids :=
      foldl_join_accounts (hstate.of_perm ((answers.finishing.perm state.spawned).map _) (.refl _))
    refine ⟨by simpa using hfinal.targets, ?_, nodes, hnodes, hfinal.templates⟩
    intro hbad
    simp [batchExitCode, hfinal.flagged hbad]

theorem executeBatchOpFull_quiet (hquiet : answers.Quiet) :
    (executeBatchOpFull op policies strict answers vmids).panicked = [] := by
  rcases executeBatchOpFull_cases op policies strict answers vmids with
    ⟨issued, halt, hcall⟩ | ⟨nodes, state, -, hrun, hcall⟩
  · rw [hcall]
  · have hstate : state.panicked = [] := by
      have hsame : (runTargets op policies strict answers
          (scanGuests answers nodes) 0 vmids {}).1.panicked = [] :=
        runTargets_panicked
      rw [hrun] at hsame
      exact hsame
    rw [hcall]
    exact (foldl_join_panicked hquiet).trans hstate

end Call

section Policy

variable {op : BatchOp} {policies : List Policy} {strict : Bool}
  {answers : Nat → BatchAnswers} {vmids : List Nat} {results : List TargetResult}
  {targets : List Nat} {index code : Nat}

/-- Without a panic, a call reports its targets. -/
theorem reports_executeBatchOpFull (hquiet : ∀ call, (answers call).Quiet)
    (hok : (executeBatchOpFull op policies strict (answers index)
      targets).outcome = .ok (results, code)) :
    (results.map (·.vmid)).Perm targets := by
  have htells := (executeBatchOpFull_tells hok).targets
  rw [executeBatchOpFull_quiet (hquiet index), append_nil] at htells
  rcases executeBatchOpFull_cases op policies strict (answers index) targets with
    ⟨_, _, hcall⟩ | ⟨_, _, _, _, hcall⟩
  · simpa [hcall] using htells
  · simpa [hcall] using htells

/-- A call that failed with a result array returns the failure code. -/
theorem code_of_failed (hok : (executeBatchOpFull op policies strict (answers index)
      targets).outcome = .ok (results, code))
    (hfailed : (executeBatchOpFull op policies strict (answers index)
      targets).Failed) : code = 2 := by
  apply (executeBatchOpFull_tells hok).code
  rcases hfailed with ⟨halt, hhalt⟩ | hpanicked | ⟨others, _, hothers, hbad⟩
  · rw [hok] at hhalt
    cases hhalt
  · exact .inr hpanicked
  · rw [hok] at hothers
    cases hothers
    exact .inl hbad

theorem pairwise_canary {percent : Nat} :
    (runCanary op policies strict answers vmids percent).StopsBehindFailure := by
  unfold runCanary BatchRun.StopsBehindFailure
  dsimp only
  split
  · exact pairwise_singleton _ _
  · rename_i results code hpilot
    split
    · exact pairwise_singleton _ _
    · rename_i hgood
      split
      · exact pairwise_singleton _ _
      · have hpassed : ¬ (executeBatchOpFull op policies strict (answers 0)
            (vmids.take (canaryPilotCount vmids.length percent))).Failed := by
          intro hfailed
          have hcode := code_of_failed hpilot hfailed
          simp [hcode] at hgood
        split <;> exact pairwise_pair.mpr fun hfailed => absurd hfailed hpassed

theorem map_vmid_skippedTarget (reason : String) (targets : List Nat) :
    (targets.map (skippedTarget reason)).map (·.vmid) = targets := by
  rw [map_map]
  exact map_id targets

theorem reportsAll_canary (hquiet : ∀ call, (answers call).Quiet) {percent : Nat} :
    (runCanary op policies strict answers vmids percent).ReportsAll vmids := by
  intro all total hall
  have hsplit := take_append_drop (canaryPilotCount vmids.length percent) vmids
  revert hall
  fun_cases runCanary op policies strict answers vmids percent <;> intro hall <;> cases hall
  next hpilot _ =>
    rw [map_append, map_vmid_skippedTarget]
    exact ((reports_executeBatchOpFull hquiet hpilot).append_right _).trans (.of_eq hsplit)
  next hrest hpilot _ =>
    have hnone : vmids.drop (canaryPilotCount vmids.length percent) = [] :=
      List.isEmpty_iff.mp hrest
    rw [hnone, append_nil] at hsplit
    exact (reports_executeBatchOpFull hquiet hpilot).trans (.of_eq hsplit)
  next hpilot _ _ _ _ _ hpromoted =>
    rw [map_append]
    exact ((reports_executeBatchOpFull hquiet hpilot).append
      (reports_executeBatchOpFull hquiet hpromoted)).trans (.of_eq hsplit)

/-- A wave that failed without a panic or a rejected template has an error. -/
theorem error_of_failed (hquiet : ∀ call, (answers call).Quiet)
    (hstartable : ∀ call nodes, (answers call).nodes = .ok nodes →
      ∀ vmid ∈ vmids, (scanGuests (answers call) nodes).rejects op vmid = false) {wave : List Nat} (hwave : wave ⊆ vmids)
    (hok : (executeBatchOpFull op policies strict (answers index)
      wave).outcome = .ok (results, code))
    (hfailed : (executeBatchOpFull op policies strict (answers index)
      wave).Failed) : results.any TargetResult.isError = true := by
  rcases hfailed with
    ⟨halt, hhalt⟩ | hpanicked | ⟨others, _, hothers, result, hresult, hbad⟩
  · rw [hok] at hhalt
    cases hhalt
  · exact absurd (executeBatchOpFull_quiet (hquiet index)) hpanicked
  · rw [hok] at hothers
    cases hothers
    rcases hbad with herror | hrejected
    · exact any_eq_true.mpr ⟨result, hresult, by simp [TargetResult.isError, herror]⟩
    · obtain ⟨nodes, hnodes, htemplates⟩ := (executeBatchOpFull_tells hok).templates
      have hmem : result.vmid ∈ wave := (reports_executeBatchOpFull hquiet hok).subset
          (mem_map_of_mem hresult)
      have hrejects := htemplates result hresult hrejected
      rw [hstartable index nodes hnodes result.vmid (hwave hmem)] at hrejects
      cases hrejects

variable {waveSize : Nat}

theorem pairwise_runWaves (hpassed : ∀ index wave results code, wave ∈ waves →
      (executeBatchOpFull op policies strict (answers index) wave).outcome = .ok (results, code) →
      (executeBatchOpFull op policies strict (answers index) wave).Failed →
      results.any TargetResult.isError = true) :
    (runWaves op policies strict answers vmids waveSize index waves results
      code).StopsBehindFailure := by
  induction waves generalizing index results code with
  | nil => exact List.Pairwise.nil
  | cons wave later ih =>
    rw [runWaves]
    dsimp only
    split
    · exact pairwise_singleton _ _
    · rename_i waveResults waveCode hwave
      split
      · exact pairwise_singleton _ _
      · rename_i hgood
        refine List.Pairwise.cons ?_ (ih ?_)
        · intro other _ hfailed
          exact absurd (hpassed index wave waveResults waveCode mem_cons_self hwave hfailed) hgood
        · intro index other results code hother
          exact hpassed index other results code (mem_cons_of_mem wave hother)

theorem subset_of_mem_chunksUpTo {fuel : Nat} :
    ∀ wave ∈ chunksUpTo waveSize fuel targets, wave ⊆ targets := by
  induction fuel generalizing targets with
  | zero => simp [chunksUpTo]
  | succ fuel ih =>
    cases targets with
    | nil => simp [chunksUpTo]
    | cons head rest =>
      intro wave hwave
      rcases mem_cons.mp hwave with rfl | hlater
      · exact take_subset _ _
      · exact List.Subset.trans (ih wave hlater) (drop_subset _ _)

theorem chunksUpTo_of_ne_nil {size fuel : Nat} (hsome : targets ≠ []) :
    chunksUpTo size (fuel + 1) targets =
      targets.take size :: chunksUpTo size fuel (targets.drop size) := by
  cases targets with
  | nil => exact absurd rfl hsome
  | cons head rest => rfl

theorem drop_length_take (size : Nat) (targets : List Nat) :
    targets.drop (targets.take size).length = targets.drop size := by
  rw [length_take]
  rcases Nat.le_total size targets.length with hle | hle
  · rw [Nat.min_eq_left hle]
  · rw [Nat.min_eq_right hle, drop_length, drop_eq_nil_of_le hle]

/-- The results so far and the targets to come make up the whole list. -/
theorem reportsAll_runWaves (hquiet : ∀ call, (answers call).Quiet)
    {fuel : Nat} (hsize : 0 < waveSize)
    (hfuel : (vmids.drop (index * waveSize)).length ≤ fuel)
    (hsofar : (results.map (·.vmid) ++ vmids.drop (index * waveSize)).Perm vmids) :
    (runWaves op policies strict answers vmids waveSize index
      (chunksUpTo waveSize fuel (vmids.drop (index * waveSize))) results
      code).ReportsAll vmids := by
  induction fuel generalizing index results code with
  | zero =>
    have hnone : vmids.drop (index * waveSize) = [] := length_eq_zero_iff.mp (Nat.le_zero.mp hfuel)
    rw [hnone, append_nil] at hsofar
    intro all total hall
    cases hall
    exact hsofar
  | succ fuel ih =>
    have hnext : vmids.drop ((index + 1) * waveSize) =
        (vmids.drop (index * waveSize)).drop waveSize := by rw [drop_drop, Nat.succ_mul]
    by_cases hrest : vmids.drop (index * waveSize) = []
    · rw [hrest, append_nil] at hsofar
      rw [hrest]
      intro all total hall
      cases hall
      exact hsofar
    · have hpositive := length_pos_iff.mpr hrest
      have hchunks : chunksUpTo waveSize (fuel + 1) (vmids.drop (index * waveSize)) =
          (vmids.drop (index * waveSize)).take waveSize ::
            chunksUpTo waveSize fuel (vmids.drop ((index + 1) * waveSize)) := by
        rw [hnext]
        exact chunksUpTo_of_ne_nil hrest
      rw [hchunks, runWaves]
      dsimp only
      intro all total hall
      split at hall
      · cases hall
      · rename_i waveResults waveCode hwave
        have hreported := reports_executeBatchOpFull hquiet hwave
        -- The results with this wave, and the targets behind it.
        have hwith : ((results ++ waveResults).map (·.vmid) ++
            vmids.drop ((index + 1) * waveSize)).Perm vmids := by
          refine .trans ?_ hsofar
          rw [map_append, append_assoc, hnext]
          refine List.Perm.append_left _ ?_
          refine (hreported.append_right _).trans (.of_eq ?_)
          exact take_append_drop _ _
        split at hall
        · cases hall
          rw [map_append, map_vmid_skippedTarget, ← drop_drop, drop_length_take, ← hnext]
          exact hwith
        · refine ih ?_ hwith all total hall
          rw [hnext, length_drop]
          omega

end Policy

namespace BatchWitness

def inOrder {α : Type} : JoinOrder α where
  arrange := id
  perm := List.Perm.refl

def guest (vmid : Nat) (template : Bool) : BatchGuest where
  vmid := vmid
  status := .stopped
  guestType := .qemu
  node := "pve1"
  uptime := 0
  tags := ""
  lock := ""
  hastate := ""
  netin := 0
  netout := 0
  template := template

/-- A node with two guests, and no approval channel. -/
def answered (template : Bool) (operation : Nat → TaskEnd String) : BatchAnswers where
  nodes := .ok ["pve1"]
  guests := fun _ => .done (.ok [guest 100 template, guest 101 false])
  listing := inOrder
  telegram := none
  openStore := fun _ => .ok ()
  insert := fun _ => .ok "7f3a"
  requestApproval := fun _ => .ok ()
  markFailed := fun _ => .ok ()
  operation := operation
  finishing := inOrder
  begun := fun _ => true

def upid : Nat → TaskEnd String :=
  fun _ => .done (.ok "UPID:pve1:1")

/-- The first guest is refused by the cluster. -/
def refusing : Nat → BatchAnswers
  | 0 => answered false fun _ => .done (.error (.msg "403"))
  | _ => answered false upid

theorem untroubled_refusing : Untroubled .start [100, 101] (.rolling 1) refusing := by
  constructor
  · intro call position text
    match call with
    | 0 => simp [refusing, answered]
    | _ + 1 => simp [refusing, answered, upid]
  · intro waveSize _ call nodes hnodes
    match call with
    | 0 =>
      cases hnodes
      decide +kernel
    | _ + 1 =>
      cases hnodes
      show ∀ vmid ∈ [100, 101],
        (scanGuests (answered false upid) ["pve1"]).rejects .start vmid = false
      decide +kernel

def statuses (run : BatchRun) : List (Nat × TargetStatus) :=
  match run.outcome with
  | .ok results _ => results.map fun result => (result.vmid, result.status)
  | .halted _ => []

/-- The first wave is a template, the second is started all the same. -/
def templateFirst : Nat → BatchAnswers :=
  fun _ => answered true upid

/-- The task of the first wave panics. -/
def panicFirst : Nat → BatchAnswers
  | 0 => answered false fun _ => .panicked "index out of bounds"
  | _ => answered false upid

end BatchWitness

end Proxxx
