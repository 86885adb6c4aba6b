/-
A machine from a cloud image: the image is downloaded, the machine is created,
its disk is grown, and it is started or made a template.  Every request starts a
task, and how two of these tasks end is not looked at.
-/
import Proxxx.HitlExecutor

namespace Proxxx.CloudImg

open List

/-- An answer to a poll, and whether the deadline has passed by then. -/
structure TaskPoll where
  answer : Except String TaskStatus
  late : Bool

/-- The end of a task.  Where no poll is left, the process has been stopped. -/
def pollTaskUntilDone : List TaskPoll → Option TaskStatus
  | [] => none
  | poll :: rest =>
    match poll.answer with
    | .error _ => none
    | .ok task =>
      if task.isDone then some task
      else if poll.late then none
      else pollTaskUntilDone rest

/-- The requests that change the cluster. -/
inductive Request where
  | download
  | create
  | resize
  | start
  | template
deriving Repr, DecidableEq

/-- A request is sent; a task it started is waited for and its end is seen, or
is not. -/
inductive ProvisionEvent where
  | sent (request : Request)
  | task (request : Request) (seen : Option TaskStatus)
deriving Repr, DecidableEq

inductive FinalState where
  | template
  | vm
  | started
deriving Repr, DecidableEq

/-- The command line and what it meets: whether the catalog has the image,
whether the key file can be read, and the cluster's answers. -/
structure Provision where
  known : Bool
  sshKeyFile : Option Bool
  vmid : Option Nat
  download : Bool
  diskSize : Option String
  noTemplate : Bool
  start : Bool
  nextVmid : Option Nat
  answer : Request → Option String
  polls : Request → List TaskPoll

/-- What was done, and the value where nothing failed. -/
abbrev Steps (α : Type) := List ProvisionEvent × Option α

def Steps.andThen {α : Type} (first : Steps Unit) (next : Steps α) : Steps α :=
  match first.2 with
  | none => (first.1, none)
  | some () => (first.1 ++ next.1, next.2)

namespace Provision

variable (run : Provision)

def prepared : Bool :=
  run.known && run.sshKeyFile.getD true && (run.vmid.or run.nextVmid).isSome

/-- A request whose task has to end well. -/
def checkedTask (request : Request) : Steps Unit :=
  match run.answer request with
  | none => ([.sent request], none)
  | some _ =>
    let seen := pollTaskUntilDone (run.polls request)
    ([.sent request, .task request seen], if seen.any TaskStatus.isSuccess then some () else none)

/-- A request whose task has to end. -/
def endedTask (request : Request) : Steps Unit :=
  match run.answer request with
  | none => ([.sent request], none)
  | some upid =>
    if upid = "" then ([.sent request], some ())
    else
      let seen := pollTaskUntilDone (run.polls request)
      ([.sent request, .task request seen], seen.map fun _ => ())

def finish : Steps FinalState :=
  if run.start then (run.endedTask .start).andThen ([], some .started)
  else if run.noTemplate then ([], some .vm)
  else ([.sent .template], (run.answer .template).map fun _ => .template)

def provision : Steps FinalState :=
  if run.prepared then
    (if run.download then run.checkedTask .download else ([], some ())).andThen <|
      (run.checkedTask .create).andThen <|
        (if run.diskSize.isSome then run.endedTask .resize
          else ([], some ())).andThen run.finish
  else ([], none)

/-- The request starts a task that is seen to end without success. -/
def EndsBadly (request : Request) : Prop :=
  (∃ upid, run.answer request = some upid ∧ upid ≠ "") ∧
    ∃ task, pollTaskUntilDone (run.polls request) = some task ∧ task.isSuccess = false

/-- The request starts no task, or one that is seen to end. -/
def GoesOn (request : Request) : Prop :=
  ∃ upid, run.answer request = some upid ∧
    (upid ≠ "" → (pollTaskUntilDone (run.polls request)).isSome)

def Passes (request : Request) : Prop :=
  (run.answer request).isSome ∧ (pollTaskUntilDone (run.polls request)).any TaskStatus.isSuccess

/-- Where the machine can be created, the task that grows its disk does not end
without success, and where that is passed, neither does the one that starts the
machine. -/
def Unhindered : Prop :=
  run.prepared → (run.download → run.Passes .download) → run.Passes .create →
    ¬ (run.diskSize.isSome ∧ run.EndsBadly .resize) ∧
      ((run.diskSize.isSome → run.GoesOn .resize) → run.start → ¬ run.EndsBadly .start)

end Provision

/-- A final state is reported only where every task was seen to succeed, and
nothing is sent after a task that did not. -/
structure Honest {α : Type} (steps : Steps α) : Prop where
  reported : steps.2.isSome → ∀ request seen,
    .task request seen ∈ steps.1 → seen.any TaskStatus.isSuccess
  halted : ∀ front request task back,
    steps.1 = front ++ .task request (some task) :: back →
      task.isSuccess = false → ∀ later, .sent later ∉ back

/-- All tasks among the events succeeded. -/
def Clean (events : List ProvisionEvent) : Prop :=
  ∀ request seen, .task request seen ∈ events → seen.any TaskStatus.isSuccess

theorem Honest.of_clean {α : Type} {steps : Steps α} (hclean : Clean steps.1) : Honest steps where
  reported := fun _ => hclean
  halted := by
    intro front request task back hsplit hbad
    have hgood := hclean request (some task) (by simp [hsplit])
    simp [hbad] at hgood

/-- A failure right after the one task. -/
theorem honest_failed {α : Type} (request : Request) (seen : Option TaskStatus) :
    Honest (([.sent request, .task request seen], none) : Steps α) where
  reported := nofun
  halted := by
    intro front other task back hsplit _ later hlater
    rcases front with _ | ⟨_, _ | ⟨_, _⟩⟩ <;> simp_all

theorem honest_andThen_clean {first : Steps Unit} {next : Steps α}
    (hdone : first.2 = some ()) (hclean : Clean first.1) :
    Honest (first.andThen next) ↔ Honest next := by
  simp only [Steps.andThen, hdone]
  constructor
  · intro honest
    refine ⟨fun hsome request seen hseen => honest.reported hsome request seen
      (mem_append_right _ hseen), ?_⟩
    intro front request task back hsplit
    exact honest.halted (first.1 ++ front) request task back (by simp [hsplit])
  · intro honest
    refine ⟨fun hsome request seen hseen => (mem_append.mp hseen).elim
      (hclean request seen) (honest.reported hsome request seen), ?_⟩
    intro front request task back hsplit hbad
    -- The failed task is not among the clean events.
    rcases append_eq_append_iff.mp hsplit with ⟨mid, _, hnext⟩ | ⟨mid, hfirst, hmid⟩
    · exact honest.halted mid request task back hnext hbad
    · cases mid with
      | nil => exact honest.halted [] request task back (by simpa using hmid.symm) hbad
      | cons head tail =>
        cases (cons.inj hmid).1
        have hgood := hclean request (some task) (by simp [hfirst])
        simp [hbad] at hgood

theorem honest_andThen_failed {first : Steps Unit} {next : Steps α}
    (hfailed : first.2 = none) (honest : Honest ((first.1, none) : Steps α)) :
    Honest (first.andThen next) := by simpa only [Steps.andThen, hfailed] using honest

namespace Provision

variable {run : Provision} {request : Request}

theorem honest_checkedTask_andThen {next : Steps α} :
    Honest ((run.checkedTask request).andThen next) ↔ (run.Passes request → Honest next) := by
  unfold checkedTask Passes
  cases run.answer request with
  | none => simpa using honest_andThen_failed rfl (.of_clean (by simp [Clean]))
  | some upid =>
    by_cases hgood : (pollTaskUntilDone (run.polls request)).any TaskStatus.isSuccess
    · simp only [hgood, Option.isSome_some, and_self, forall_const]
      exact honest_andThen_clean (by simp) (by simp [Clean, hgood])
    · simpa [hgood] using honest_andThen_failed rfl (honest_failed request _)

theorem honest_endedTask_andThen {next : Steps α} (hbad : ¬ run.EndsBadly request) :
    Honest ((run.endedTask request).andThen next) ↔ (run.GoesOn request → Honest next) := by
  unfold EndsBadly at hbad
  unfold endedTask GoesOn
  cases hanswer : run.answer request with
  | none => simpa using honest_andThen_failed rfl (.of_clean (by simp [Clean]))
  | some upid =>
    by_cases hempty : upid = ""
    · simpa [hempty] using honest_andThen_clean rfl (by simp [Clean])
    · cases hseen : pollTaskUntilDone (run.polls request) with
      | none => simpa [hempty] using honest_andThen_failed rfl (honest_failed request _)
      | some task =>
        have hgood : task.isSuccess = true := by simpa [hanswer, hempty, hseen] using hbad
        simpa [hempty] using honest_andThen_clean rfl (by simp [Clean, hgood])

/-- The end of the task is not looked at, so the run goes on after it. -/
theorem not_honest_of_endsBadly {next : Steps α} (hbad : run.EndsBadly request)
    (hnext : next.2.isSome ∨ ∃ later, .sent later ∈ next.1) :
    ¬ Honest ((run.endedTask request).andThen next) := by
  obtain ⟨⟨upid, hanswer, hempty⟩, task, hseen, hfails⟩ := hbad
  intro honest
  simp only [endedTask, hanswer, hempty, hseen, if_false, Option.map_some, Steps.andThen] at honest
  rcases hnext with hsome | ⟨later, hlater⟩
  · have hgood := honest.reported hsome request (some task) (by simp)
    simp [hfails] at hgood
  · exact honest.halted [.sent request] request task next.1 rfl hfails later hlater

theorem finish_shows : run.finish.2.isSome ∨ ∃ later, .sent later ∈ run.finish.1 := by
  unfold finish
  split
  · right
    refine ⟨.start, ?_⟩
    unfold endedTask Steps.andThen
    repeat' split <;> simp_all
  · split <;> simp

theorem honest_finish_iff : Honest run.finish ↔ (run.start → ¬ run.EndsBadly .start) := by
  unfold finish
  by_cases hstart : run.start
  · simp only [hstart, if_true, forall_const]
    refine ⟨fun honest hbad => not_honest_of_endsBadly hbad (.inl rfl) honest, ?_⟩
    exact fun hbad => (honest_endedTask_andThen hbad).mpr fun _ => .of_clean (by simp [Clean])
  · simp only [hstart, Bool.false_eq_true, if_false, false_implies, iff_true]
    exact .of_clean (by split <;> simp [Clean])

theorem honest_grow_iff : Honest ((if run.diskSize.isSome then run.endedTask .resize
      else ([], some ())).andThen run.finish) ↔
    ¬ (run.diskSize.isSome ∧ run.EndsBadly .resize) ∧
      ((run.diskSize.isSome → run.GoesOn .resize) → run.start → ¬ run.EndsBadly .start) := by
  by_cases hsize : run.diskSize.isSome
  · simp only [hsize, if_true, true_and, forall_const]
    by_cases hbad : run.EndsBadly .resize
    · simpa [hbad] using not_honest_of_endsBadly hbad finish_shows
    · simp [hbad, honest_endedTask_andThen hbad, honest_finish_iff]
  · simp only [hsize, Bool.false_eq_true, if_false, false_and, not_false_eq_true,
      false_implies, true_implies, true_and]
    exact (honest_andThen_clean rfl (by simp [Clean])).trans honest_finish_iff

/-- What is reported and where the run stops are right exactly where the two tasks
whose end is not looked at do not fail. -/
theorem provision_honest_iff : Honest run.provision ↔ run.Unhindered := by
  unfold provision Unhindered
  by_cases hprepared : run.prepared
  · have hcreate := honest_checkedTask_andThen.trans
      (imp_congr_right fun _ : run.Passes .create => @honest_grow_iff run)
    simp only [hprepared, if_true, true_implies, ← hcreate]
    by_cases hdownload : run.download
    · simp only [hdownload, if_true, true_implies]
      exact honest_checkedTask_andThen
    · simp only [hdownload, Bool.false_eq_true, if_false, false_implies, true_implies]
      exact honest_andThen_clean rfl (by simp [Clean])
  · simpa [hprepared] using Honest.of_clean (by simp [Clean])

end Provision

namespace Witness

def done (exit : String) : List TaskPoll := [⟨.ok ⟨"stopped", some exit⟩, false⟩]

/-- The disk cannot be grown; the other tasks succeed. -/
def unresized : Provision where
  known := true
  sshKeyFile := none
  vmid := some 900
  download := true
  diskSize := some "32G"
  noTemplate := false
  start := false
  nextVmid := none
  answer := fun _ => some "UPID:pve1"
  polls := fun request => done (if request = .resize then "unable to resize" else "OK")

/-- The template is made and reported after its disk could not be grown. -/
theorem provision_reports_unresized :
    unresized.provision.2 = some .template ∧ ¬ Honest unresized.provision := by
  refine ⟨by decide, fun honest => ?_⟩
  have hgood := honest.reported (by decide) .resize
    (some ⟨"stopped", some "unable to resize"⟩) (by decide)
  exact absurd hgood (by decide)

end Witness

end Proxxx.CloudImg
