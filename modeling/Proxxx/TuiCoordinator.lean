/-
The coordinator of the terminal interface over a whole session: registrations,
withdrawals, questions and callbacks of many transactions, in any order.  What
the receiver of a registration is told is read off the calls for its id.
-/
import Mathlib.Data.Finset.Card
import Proxxx.TelegramCallback

namespace Proxxx.HitlCoordinator

open List

structure PendingTuiEntry where
  require : Nat
  expiresAt : Nat
  approvers : Finset Int

inductive TuiCoordOutcome where
  | expiredOrUnknown
  | denied
  | awaitingApprovals (votes need : Nat) (duplicate : Bool)
  | approved
deriving Repr, DecidableEq

/-- The entry of the id afterwards, what its receiver is sent, and the result. -/
def applyCallback (decision : CallbackDecision) (approverId : Int) (now : Nat) :
    Option PendingTuiEntry → Option PendingTuiEntry × Option Bool × TuiCoordOutcome
  | none => (none, none, .expiredOrUnknown)
  | some entry =>
    if entry.expiresAt ≤ now then (none, none, .expiredOrUnknown)
    else
      match decision with
      | .deny => (none, some false, .denied)
      | .approve =>
        let approvers := insert approverId entry.approvers
        let need := max entry.require 1
        if need ≤ approvers.card then (none, some true, .approved)
        else
          (some { entry with approvers }, none, .awaitingApprovals approvers.card need
              (approverId ∈ entry.approvers))

def isPending (now : Nat) : Option PendingTuiEntry → Option PendingTuiEntry × Bool
  | none => (none, false)
  | some entry => if now < entry.expiresAt then (some entry, true) else (none, false)

inductive Method where
  | registerWithQuorumAndTtl (require ttl : Nat)
  | unregister
  | isPending
  | applyCallback (decision : CallbackDecision) (approverId : Int)
deriving Repr, DecidableEq

structure Call where
  txnId : String
  method : Method
  now : Nat
deriving Repr, DecidableEq

/-- The entry of an id, and what its receiver has been sent. -/
abbrev Line := Option PendingTuiEntry × List Bool

def Line.step (line : Line) (call : Call) : Line :=
  match call.method with
  | .registerWithQuorumAndTtl require ttl => (some ⟨max require 1, call.now + ttl, ∅⟩, line.2)
  | .unregister => (none, line.2)
  | .isPending => ((isPending call.now line.1).1, line.2)
  | .applyCallback decision approverId =>
    let done := applyCallback decision approverId call.now line.1
    (done.1, line.2 ++ done.2.1.toList)

def step (lines : String → Line) (call : Call) : String → Line :=
  Function.update lines call.txnId ((lines call.txnId).step call)

def run (calls : List Call) : String → Line :=
  calls.foldl step fun _ => (none, [])

/-- Calls for other ids do not matter. -/
theorem foldl_step (calls : List Call) (lines : String → Line) (txnId : String) :
    calls.foldl step lines txnId =
      (calls.filter (·.txnId = txnId)).foldl Line.step (lines txnId) := by
  induction calls generalizing lines with
  | nil => rfl
  | cons call rest ih =>
    rw [foldl_cons, ih]
    by_cases hown : call.txnId = txnId
    · subst hown
      simp [step]
    · simp [hown, step, Function.update_of_ne (Ne.symm hown)]

def Call.Registers (call : Call) : Prop :=
  ∃ require ttl, call.method = .registerWithQuorumAndTtl require ttl

def Call.Denies (call : Call) : Prop :=
  ∃ approverId, call.method = .applyCallback .deny approverId

section Verdict

variable (need expiry : Nat)

/-- Who has approved in time, after one more call. -/
def Call.tally (had : Finset Int) (call : Call) : Finset Int :=
  match call.method with
  | .applyCallback .approve approverId => if call.now < expiry then insert approverId had else had
  | _ => had

/-- Enough distinct approvers have approved in time, with no denial and no
withdrawal before; `had` have approved earlier. -/
def Granted (had : Finset Int) (own : List Call) : Prop :=
  ∃ front, front <+: own ∧ need ≤ (front.foldl (Call.tally expiry) had).card ∧
    ∀ call ∈ front, ¬ call.Denies ∧ call.method ≠ .unregister

/-- A denial in time and before that quorum. -/
def Denied (had : Finset Int) (own front : List Call) : Prop :=
  ∃ call, front ++ [call] <+: own ∧ call.Denies ∧ call.now < expiry ∧
    ¬ Granted need expiry had front

def Refused (had : Finset Int) (own : List Call) : Prop :=
  ∃ front, Denied need expiry had own front ∧ ∀ call ∈ front, call.method ≠ .unregister

/-- The receiver is told what the calls for its id amount to, and that once. -/
structure Told (had : Finset Int) (own : List Call) (heard : List Bool) : Prop where
  granted : true ∈ heard ↔ Granted need expiry had own
  refused : false ∈ heard ↔ Refused need expiry had own
  once : heard.length ≤ 1

variable {need expiry} {had : Finset Int} {call : Call} {own : List Call}

theorem not_granted_nil (hfew : had.card < need) : ¬ Granted need expiry had [] := by
  rintro ⟨front, hfront, hcard, -⟩
  rw [prefix_nil.mp hfront] at hcard
  exact absurd hcard (Nat.not_le.mpr hfew)

theorem granted_cons (hfew : had.card < need) : Granted need expiry had (call :: own) ↔
    (¬ call.Denies ∧ call.method ≠ .unregister) ∧
      Granted need expiry (call.tally expiry had) own := by
  constructor
  · rintro ⟨front, hfront, hcard, hquiet⟩
    rcases prefix_cons_iff.mp hfront with rfl | ⟨rest, rfl, hrest⟩
    · exact absurd hcard (Nat.not_le.mpr hfew)
    · exact ⟨hquiet _ mem_cons_self, rest, hrest, hcard,
        fun other hother => hquiet other (mem_cons_of_mem _ hother)⟩
  · rintro ⟨hcall, front, hfront, hcard, hquiet⟩
    exact ⟨call :: front, (prefix_cons_inj _).mpr hfront, hcard,
      forall_mem_cons.mpr ⟨hcall, hquiet⟩⟩

/-- A call that neither denies nor withdraws leaves the verdict to the others. -/
theorem Told.cons {heard : List Bool} (hfew : had.card < need) (hdeny : ¬ call.Denies)
    (hkeep : call.method ≠ .unregister)
    (htold : Told need expiry (call.tally expiry had) own heard) :
    Told need expiry had (call :: own) heard where
  granted := by simp [htold.granted, granted_cons hfew, hdeny, hkeep]
  refused := by
    rw [htold.refused]
    constructor
    · rintro ⟨front, ⟨denial, hfront, hrest⟩, hquiet⟩
      refine ⟨call :: front, ⟨denial, (prefix_cons_inj _).mpr hfront, ?_⟩,
        forall_mem_cons.mpr ⟨hkeep, hquiet⟩⟩
      simpa [granted_cons hfew, hdeny, hkeep] using hrest
    · rintro ⟨front, ⟨denial, hfront, hdenial, hrest⟩, hquiet⟩
      cases front with
      | nil =>
        obtain ⟨rfl, -⟩ := cons_prefix_cons.mp hfront
        exact absurd hdenial hdeny
      | cons head front =>
        obtain ⟨rfl, hbehind⟩ := cons_prefix_cons.mp hfront
        refine ⟨front, ⟨denial, hbehind, hdenial, ?_⟩, (forall_mem_cons.mp hquiet).2⟩
        simpa [granted_cons hfew, hdeny, hkeep] using hrest
  once := htold.once

/-- After the expiry nothing counts. -/
theorem told_late (hfew : had.card < need) (hlate : ∀ call ∈ own, expiry ≤ call.now) :
    Told need expiry had own [] where
  granted := by
    refine iff_of_false not_mem_nil ?_
    induction own with
    | nil => exact not_granted_nil hfew
    | cons call rest ih =>
      obtain ⟨hnow, hrest⟩ := forall_mem_cons.mp hlate
      have htally : call.tally expiry had = had := by
        unfold Call.tally
        split <;> simp [Nat.not_lt.mpr hnow]
      rw [granted_cons hfew, htally]
      exact fun hgranted => ih hrest hgranted.2
  refused := by
    refine iff_of_false not_mem_nil ?_
    rintro ⟨front, ⟨call, hfront, -, hnow, -⟩, -⟩
    exact absurd (hlate call (hfront.subset (by simp))) (Nat.not_le.mpr hnow)
  once := Nat.zero_le _

/-- A quorum settles it. -/
theorem told_quorum (hmany : need ≤ had.card) : Told need expiry had own [true] where
  granted := by
    simp only [mem_singleton, true_iff]
    exact ⟨[], nil_prefix, hmany, by simp⟩
  refused := by
    simp only [mem_singleton, Bool.false_eq_true, false_iff]
    rintro ⟨front, ⟨_, -, -, -, hnone⟩, -⟩
    exact hnone ⟨[], nil_prefix, hmany, by simp⟩
  once := le_rfl

theorem foldl_closed {heard : List Bool} (hown : ∀ call ∈ own, ¬ call.Registers) :
    own.foldl Line.step (none, heard) = (none, heard) := by
  induction own with
  | nil => rfl
  | cons call rest ih =>
    obtain ⟨hcall, hrest⟩ := forall_mem_cons.mp hown
    have hsame : Line.step (none, heard) call = (none, heard) := by
      unfold Line.step
      split
      · exact absurd ⟨_, _, ‹_›⟩ hcall
      all_goals simp [isPending, applyCallback]
    rw [foldl_cons, hsame, ih hrest]

theorem told_withdrawn (hfew : had.card < need) (hcall : call.method = .unregister) :
    Told need expiry had (call :: own) [] where
  granted := by simp [granted_cons hfew, hcall]
  refused := by
    refine iff_of_false not_mem_nil ?_
    rintro ⟨front, ⟨denial, hfront, ⟨_, hdenial⟩, -⟩, hquiet⟩
    cases front with
    | nil =>
      obtain ⟨rfl, -⟩ := cons_prefix_cons.mp hfront
      cases hcall.symm.trans hdenial
    | cons head front =>
      obtain ⟨rfl, -⟩ := cons_prefix_cons.mp hfront
      exact hquiet _ mem_cons_self hcall
  once := Nat.zero_le _

theorem told_denied (hfew : had.card < need) (hcall : call.Denies)
    (hnow : call.now < expiry) : Told need expiry had (call :: own) [false] where
  granted := by simp [granted_cons hfew, hcall]
  refused := by
    simp only [mem_singleton, true_iff]
    exact ⟨[], ⟨call, by simp, hcall, hnow, not_granted_nil hfew⟩, by simp⟩
  once := le_rfl

/-- The calls for an id after its registration, in the order of their times. -/
theorem told_open (hneed : 1 ≤ need) (hfew : had.card < need)
    (hown : ∀ call ∈ own, ¬ call.Registers) (htimes : own.Pairwise (·.now ≤ ·.now)) :
    Told need expiry had own (own.foldl Line.step (some ⟨need, expiry, had⟩, [])).2 := by
  induction own generalizing had with
  | nil => exact told_late hfew (by simp)
  | cons call rest ih =>
    obtain ⟨hcall, hrest⟩ := forall_mem_cons.mp hown
    obtain ⟨hlater, hsorted⟩ := pairwise_cons.mp htimes
    have hclosed (heard : List Bool) : rest.foldl Line.step (none, heard) = (none, heard) :=
      foldl_closed hrest
    rw [foldl_cons]
    by_cases hlate : expiry ≤ call.now
    · -- The entry is gone, and no later call is in time.
      have hgone : Line.step (some ⟨need, expiry, had⟩, []) call = (none, []) := by
        unfold Line.step
        split
        · exact absurd ⟨_, _, ‹_›⟩ hcall
        all_goals simp [isPending, applyCallback, hlate, Nat.not_lt.mpr hlate]
      rw [hgone, hclosed]
      exact told_late hfew
        (forall_mem_cons.mpr ⟨hlate, fun other hother => hlate.trans (hlater other hother)⟩)
    · have hnow := Nat.lt_of_not_le hlate
      cases hmethod : call.method with
      | registerWithQuorumAndTtl require ttl => exact absurd ⟨_, _, hmethod⟩ hcall
      | unregister => simpa [Line.step, hmethod, hclosed] using told_withdrawn hfew hmethod
      | isPending =>
        refine .cons hfew (by simp [Call.Denies, hmethod]) (by simp [hmethod]) ?_
        simpa [Line.step, Call.tally, hmethod, isPending, hnow] using ih hfew hrest hsorted
      | applyCallback decision approverId =>
        cases decision with
        | deny =>
          simpa [Line.step, hmethod, applyCallback, hlate, hclosed] using
            told_denied hfew ⟨approverId, hmethod⟩ hnow
        | approve =>
          refine .cons hfew (by simp [Call.Denies, hmethod]) (by simp [hmethod]) ?_
          have htally : call.tally expiry had = insert approverId had := by
            simp [Call.tally, hmethod, hnow]
          rw [htally]
          by_cases hmany : need ≤ (insert approverId had).card
          · simpa [Line.step, hmethod, applyCallback, hlate, Nat.max_eq_left hneed,
              hmany, hclosed] using told_quorum hmany
          · simpa [Line.step, hmethod, applyCallback, hlate, Nat.max_eq_left hneed,
              hmany] using ih (Nat.lt_of_not_le hmany) hrest hsorted

end Verdict

/-- A registration whose id no other registration has: its receiver is told `true`
for a quorum in time with no denial and no withdrawal before, `false` for a denial
in time with no quorum and no withdrawal before, and nothing else. -/
theorem receiver_told {front back : List Call} {registered : Call} {require ttl : Nat}
    (hmethod : registered.method = .registerWithQuorumAndTtl require ttl)
    (hdistinct : ∀ call ∈ front ++ back, call.txnId = registered.txnId → ¬ call.Registers)
    (htimes : (front ++ registered :: back).Pairwise (·.now ≤ ·.now)) :
    Told (max require 1) (registered.now + ttl) ∅ (back.filter (·.txnId = registered.txnId))
      (run (front ++ registered :: back) registered.txnId).2 := by
  have hquiet {calls : List Call} (hcalls : ∀ call ∈ calls, call ∈ front ++ back) :
      ∀ call ∈ calls.filter (·.txnId = registered.txnId), ¬ call.Registers := by
    intro call hcall
    obtain ⟨hcall, hown⟩ := mem_filter.mp hcall
    exact hdistinct call (hcalls call hcall) (of_decide_eq_true hown)
  rw [run, foldl_step, filter_append, filter_cons_of_pos (by simp), foldl_append,
    foldl_cons, foldl_closed (hquiet fun call => mem_append_left back)]
  have hfirst : Line.step (none, []) registered =
      (some ⟨max require 1, registered.now + ttl, ∅⟩, []) := by simp [Line.step, hmethod]
  rw [hfirst]
  refine told_open (Nat.le_max_right ..) (by simp) (hquiet fun call => mem_append_right front) ?_
  exact ((pairwise_cons.mp (pairwise_append.mp htimes).2.1).2).filter _

namespace Witness

def asked : Call := ⟨"txn", .registerWithQuorumAndTtl 2 60, 0⟩

def denial : Call := ⟨"txn", .applyCallback .deny 7, 2⟩

/-- A denial in time, with no quorum, after the request was withdrawn. -/
theorem denial_unheard : let own : List Call := [⟨"txn", .unregister, 1⟩, denial]
    (∃ front, Denied 2 60 ∅ own front) ∧ false ∉ (run (asked :: own) "txn").2 := by
  refine ⟨⟨[⟨"txn", .unregister, 1⟩], denial, prefix_rfl, ⟨7, rfl⟩, by decide, ?_⟩, by decide⟩
  rw [granted_cons (by decide)]
  exact fun hgranted => hgranted.1.2 rfl

theorem receiver_told_denial :
    Told 2 60 ∅ [denial] (run [⟨"other", .unregister, 0⟩, asked, denial] "txn").2 :=
  @receiver_told [⟨"other", .unregister, 0⟩] [denial] asked 2 60 rfl
    (by simp [Call.Registers, denial]) (by simp [asked, denial])

end Witness

end Proxxx.HitlCoordinator
