/-
Lines that are shown while they come: the log of a migration task, fetched in
portions until the task is done, and the output of a restore, read until its
standard output ends.
-/
import Mathlib.Data.List.Basic

namespace Proxxx.StreamedLines

open List

section Migration

def fetchLimit : Nat := 1000

/-- The lines that a fetch gives, from the cursor on. -/
def getTaskLog (log : List String) (cursor : Nat) : List String :=
  (log.drop cursor).take fetchLimit

/-- The lines that are shown.  The log grows before each poll and once more before
the task is seen to be done; the cursor goes to the last line that was fetched. -/
def streamMigration (log : List String) (cursor : Nat) :
    List (List String) → List String → List String
  | [], final => getTaskLog (log ++ final) cursor
  | grown :: polls, final =>
    let lines := getTaskLog (log ++ grown) cursor
    lines ++ streamMigration (log ++ grown) (cursor + lines.length) polls final

/-- The lines that are added fit into a fetch for each poll and the last one. -/
def Fits (behind : Nat) (polls : List (List String)) (final : List String) : Prop :=
  behind + polls.flatten.length + final.length ≤ fetchLimit * (polls.length + 1)

/-- From every poll on the lines fit. -/
def KeepsUp (polls : List (List String)) (final : List String) : Prop :=
  ∀ later, later <:+ polls → Fits 0 later final

variable {log grown final : List String} {polls : List (List String)} {behind cursor : Nat}

theorem keepsUp_cons : Fits behind (grown :: polls) final ∧ KeepsUp (grown :: polls) final ↔
    Fits (behind + grown.length - fetchLimit) polls final ∧ KeepsUp polls final := by
  have hsuffix : KeepsUp (grown :: polls) final ↔
      Fits 0 (grown :: polls) final ∧ KeepsUp polls final := by
    simp [KeepsUp, suffix_cons_iff, or_imp, forall_and]
  have hnow : KeepsUp polls final → Fits 0 polls final := fun hkeeps => hkeeps polls suffix_rfl
  rw [hsuffix, ← and_assoc, and_congr_left_iff]
  intro hkeeps
  have hfits := hnow hkeeps
  simp only [Fits, flatten_cons, length_append, length_cons, fetchLimit] at hfits ⊢
  omega

theorem streamMigration_eq_iff (hcursor : cursor ≤ log.length) :
    streamMigration log cursor polls final = (log ++ (polls.flatten ++ final)).drop cursor ↔
      Fits (log.length - cursor) polls final ∧ KeepsUp polls final := by
  induction polls generalizing log cursor with
  | nil =>
    have hsize : ((log ++ final).drop cursor).length = log.length - cursor + final.length := by
      simp only [length_drop, length_append]
      omega
    have hkeeps : Fits (log.length - cursor) [] final ∧ KeepsUp [] final ↔
        ((log ++ final).drop cursor).length ≤ fetchLimit := by
      simp only [KeepsUp, Fits, suffix_nil, forall_eq, hsize, flatten_nil, length_nil]
      omega
    rw [hkeeps]
    refine ⟨fun hwhole => ?_, take_of_length_le⟩
    have hlength := congrArg List.length hwhole
    simp only [streamMigration, getTaskLog, length_take, flatten_nil, nil_append] at hlength
    omega
  | cons grown polls ih =>
    have hlines : (getTaskLog (log ++ grown) cursor).length =
        min fetchLimit (log.length + grown.length - cursor) := by
      simp [getTaskLog]
    have hnext := @ih (log ++ grown) (cursor + (getTaskLog (log ++ grown) cursor).length)
      (by simp only [hlines, length_append]; omega)
    have hbehind : (log ++ grown).length - (cursor + (getTaskLog (log ++ grown) cursor).length) =
        log.length - cursor + grown.length - fetchLimit := by
      simp only [hlines, length_append]
      omega
    rw [keepsUp_cons, ← hbehind, ← hnext, streamMigration]
    -- What was fetched stands in front of what is left.
    have hall : (log ++ grown ++ (polls.flatten ++ final)).drop cursor =
        getTaskLog (log ++ grown) cursor ++
          (((log ++ grown).drop cursor).drop fetchLimit ++ (polls.flatten ++ final)) := by
      rw [drop_append_of_le_length (by simp only [length_append]; omega), getTaskLog,
        ← append_assoc (take _ _), take_append_drop]
    have hwhole : log ++ ((grown :: polls).flatten ++ final) =
        log ++ grown ++ (polls.flatten ++ final) := by
      simp
    rw [← drop_drop, hwhole, hall, drop_left, append_right_inj]

/-- The whole log is shown, in order and once, exactly if from every poll on not more
lines are added than the fetches that are left can give. -/
theorem migration_log_shown_iff (first : List String) (rest : List (List String))
    (final : List String) :
    streamMigration [] 0 (first :: rest) final = (first :: rest).flatten ++ final ↔
      KeepsUp (first :: rest) final := by
  have hiff := @streamMigration_eq_iff [] final (first :: rest) 0 (Nat.zero_le _)
  rw [nil_append, drop_zero] at hiff
  exact hiff.trans (and_iff_right_of_imp fun hkeeps => hkeeps _ suffix_rfl)

/-- One line more than a fetch gives is written before the task ends. -/
theorem migration_log_cut :
    streamMigration [] 0 [[]] (replicate 1001 "line") ≠ replicate 1001 "line" := by
  have hcut (final : List String) : streamMigration [] 0 [[]] final = final.take 1000 := by
    simp [streamMigration, getTaskLog, fetchLimit]
  intro hshown
  have hlength := congrArg List.length hshown
  rw [hcut, length_take, length_replicate] at hlength
  cases hlength

end Migration

section Restore

inductive Source where
  | stdout
  | stderr
deriving Repr, DecidableEq

/-- What the child does: a line on one of its streams, or the end of the stream. -/
inductive ChildEvent where
  | line (source : Source) (text : String)
  | ends (source : Source)
deriving Repr, DecidableEq

def pushCapped (buf : List String) (line : String) (cap : Nat) : List String :=
  (buf ++ [line]).drop ((buf ++ [line]).length - cap)

/-- The lines that were passed on, and the last ones of them. -/
structure Restored where
  passed : List (Source × String)
  lastLines : List String
deriving Repr, DecidableEq

def Restored.onLine (run : Restored) (source : Source) (text : String) : Restored where
  passed := run.passed ++ [(source, text)]
  lastLines := pushCapped run.lastLines text 50

/-- The loop is left at the end of the standard output. -/
def runRestore (run : Restored) : List ChildEvent → Option Restored
  | [] => none
  | .line source text :: rest => runRestore (run.onLine source text) rest
  | .ends .stderr :: rest => runRestore run rest
  | .ends .stdout :: _ => some run

def linesOf (events : List ChildEvent) : List (Source × String) :=
  events.filterMap fun event =>
    match event with
    | .line source text => some (source, text)
    | .ends _ => none

def Restored.Capped (run : Restored) : Prop :=
  run.lastLines = (run.passed.map Prod.snd).drop (run.passed.length - 50)

theorem Restored.Capped.onLine {run : Restored} (hcapped : run.Capped) (source : Source)
    (text : String) : (run.onLine source text).Capped := by
  have hlast : run.lastLines ++ [text] =
      (run.passed.map Prod.snd ++ [text]).drop (run.passed.length - 50) := by
    rw [hcapped, drop_append_of_le_length (by simp)]
  simp only [Capped, Restored.onLine, pushCapped, hlast, drop_drop, map_append, map_cons, map_nil]
  congr 1
  simp only [length_drop, length_append, length_map, length_singleton]
  omega

theorem runRestore_append {run : Restored} {front back : List ChildEvent}
    (hfront : .ends .stdout ∉ front) (hcapped : run.Capped) :
    ∃ last, runRestore run (front ++ .ends .stdout :: back) =
      some ⟨run.passed ++ linesOf front, last⟩ ∧
        Restored.Capped ⟨run.passed ++ linesOf front, last⟩ := by
  induction front generalizing run with
  | nil => exact ⟨run.lastLines, by simp [runRestore, linesOf], by simpa [linesOf] using hcapped⟩
  | cons event rest ih =>
    obtain ⟨hevent, hrest⟩ := not_or.mp (fun h => hfront (mem_cons.mpr h))
    cases event with
    | line source text =>
      obtain ⟨last, hrun, hlast⟩ := ih hrest (hcapped.onLine source text)
      exact ⟨last, by simpa [runRestore, linesOf, Restored.onLine] using hrun,
        by simpa [linesOf, Restored.onLine] using hlast⟩
    | ends source =>
      cases source with
      | stdout => exact absurd rfl hevent
      | stderr => exact ih hrest hcapped

/-- The events of a child whose standard output ends, with nothing on a stream after
its end. -/
structure ChildOutput where
  front : List ChildEvent
  back : List ChildEvent
  open_front : .ends .stdout ∉ front
  closed_back : ∀ text, .line .stdout text ∉ back

def ChildOutput.events (child : ChildOutput) : List ChildEvent :=
  child.front ++ .ends .stdout :: child.back

end Restore

end Proxxx.StreamedLines
