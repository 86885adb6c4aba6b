/-
Schedule commands of many processes on one store.  A command that finds the
store changed at its save overwrites the change; where no save is disturbed,
the commands take effect one after the other, and with a clock that moves
forward no occurrence of a schedule is executed twice.
-/
import Mathlib.Data.List.Nodup
import Mathlib.Data.List.Permutation
import Proxxx.ScheduleStore
import Proxxx.SharedStore

namespace Proxxx

open StepSystem SharedStore List

/-- The commands of the processes, as jobs on the store. -/
def scheduleJobs (calls : Nat → ScheduleCall) : Nat → Job ScheduleStore ScheduleEnd :=
  fun process => (calls process).execute

/-- A schedule together with the time one of its runs was due. -/
def ScheduleRun.occurrence (run : ScheduleRun) : String × Nat :=
  (run.name, run.dueAt)

/-- The occurrences the commands executed. -/
def occurrences (ended : List (Nat × ScheduleEnd)) : List (String × Nat) :=
  ended.flatMap fun command => command.2.runs.map ScheduleRun.occurrence

section Clock

/-- A command whose clock does not run back, whose save succeeds, and which
schedules nothing without an interval. -/
structure ScheduleCall.Regular (call : ScheduleCall) (time later : Nat) : Prop where
  now : time ≤ call.now
  finished : ∀ count, call.now ≤ (call.children count).finished ∧
    (call.children count).finished ≤ later
  ends : call.now ≤ later
  bounded : later < secondsMax
  save : call.save = .saved
  interval : ∀ name every cmd secs, call.command = .add name every cmd →
    parseInterval every = .ok secs → 0 < secs

/-- The commands are regular, each begun when the one before it had ended. -/
def RegularOrder (calls : Nat → ScheduleCall) : List Nat → Nat → Prop
  | [], _ => True
  | process :: rest, time =>
    ∃ later, (calls process).Regular time later ∧ RegularOrder calls rest later

/-- The schedules of a store have different names and an interval. -/
structure RegularStore (store : ScheduleStore) : Prop where
  names : (store.map (·.name)).Nodup
  interval : ∀ entry ∈ store, 0 < entry.intervalSecs

theorem lt_saturatingAdd {time interval : Nat} (htime : time < secondsMax)
    (hinterval : 0 < interval) : time < saturatingAdd time interval := by
  unfold saturatingAdd
  omega

end Clock

section Children

variable {secure : Bool} {now count : Nat} {children : Nat → ChildRun}
variable {store : ScheduleStore}

theorem runDueEntries_names : (runDueEntries secure now children count store).1.map (·.name) =
    store.map (·.name) := by
  induction store generalizing count with
  | nil => rfl
  | cons entry rest ih =>
    cases hdue : entry.isDue now <;> simp [runDueEntries, hdue, ih]

/-- A schedule is left as it was, or armed again from the end of its child. -/
theorem mem_runDueEntries {entry : ScheduleEntry}
    (hentry : entry ∈ (runDueEntries secure now children count store).1) :
    ∃ before ∈ store, entry.name = before.name ∧ entry.intervalSecs = before.intervalSecs ∧
      (entry = before ∨ ∃ count, entry.nextRun =
        saturatingAdd (children count).finished before.intervalSecs) := by
  induction store generalizing count with
  | nil => cases hentry
  | cons head rest ih =>
    by_cases hdue : head.isDue now = true
    · simp only [runDueEntries, hdue, if_true, mem_cons] at hentry
      rcases hentry with rfl | hrest
      · exact ⟨head, mem_cons_self, rfl, rfl, .inr ⟨count, rfl⟩⟩
      · exact (ih hrest).imp fun _ => And.imp_left (mem_cons_of_mem head)
    · simp only [runDueEntries, hdue] at hentry
      rcases mem_cons.mp hentry with rfl | hrest
      · exact ⟨entry, mem_cons_self, rfl, rfl, .inl rfl⟩
      · exact (ih hrest).imp fun _ => And.imp_left (mem_cons_of_mem head)

/-- Only due schedules are executed. -/
theorem mem_runs {run : ScheduleRun}
    (hrun : run ∈ (runDueEntries secure now children count store).2) :
    ∃ entry ∈ store, run.occurrence = (entry.name, entry.nextRun) ∧ entry.nextRun ≤ now := by
  induction store generalizing count with
  | nil => cases hrun
  | cons head rest ih =>
    by_cases hdue : head.isDue now = true
    · simp only [runDueEntries, hdue, if_true, mem_cons] at hrun
      rcases hrun with rfl | hrest
      · refine ⟨head, mem_cons_self, rfl, ?_⟩
        simp only [ScheduleEntry.isDue, Bool.and_eq_true, decide_eq_true_eq] at hdue
        exact hdue.2
      · exact (ih hrest).imp fun _ => And.imp_left (mem_cons_of_mem head)
    · simp only [runDueEntries, hdue] at hrun
      exact (ih hrun).imp fun _ => And.imp_left (mem_cons_of_mem head)

/-- Each schedule is executed once at most. -/
theorem runs_names : ((runDueEntries secure now children count store).2.map
    (·.name)).Sublist (store.map (·.name)) := by
  induction store generalizing count with
  | nil => exact .slnil
  | cons entry rest ih =>
    by_cases hdue : entry.isDue now = true
    · simpa [runDueEntries, hdue] using ih
    · simp only [runDueEntries, hdue]
      exact ih.cons _

/-- What was executed is armed for a later time. -/
theorem armed_again {later : Nat} (hstore : RegularStore store)
    (hfinished : ∀ count, now ≤ (children count).finished ∧
      (children count).finished ≤ later) (hbounded : later < secondsMax)
    {run : ScheduleRun} {entry : ScheduleEntry}
    (hrun : run ∈ (runDueEntries secure now children count store).2)
    (hentry : entry ∈ (runDueEntries secure now children count store).1)
    (hname : entry.name = run.name) : run.dueAt < entry.nextRun := by
  induction store generalizing count with
  | nil => cases hrun
  | cons head rest ih =>
    obtain ⟨hnames, hintervals⟩ := hstore
    rw [map_cons, nodup_cons] at hnames
    have hrest : RegularStore rest := ⟨hnames.2, fun entry hmem =>
        hintervals entry (mem_cons_of_mem head hmem)⟩
    -- The names of what is left are those of the other schedules.
    have hentries : ∀ count entry, entry ∈ (runDueEntries secure now children count rest).1 →
        entry.name ≠ head.name := by
      intro count entry hmem heq
      apply hnames.1
      rw [← heq, ← @runDueEntries_names secure now count children rest]
      exact mem_map_of_mem hmem
    have hruns : ∀ count run, run ∈ (runDueEntries secure now children count rest).2 →
        run.name ≠ head.name := by
      intro count run hmem heq
      apply hnames.1
      rw [← heq]
      exact runs_names.subset (mem_map_of_mem hmem)
    by_cases hdue : head.isDue now = true
    · simp only [runDueEntries, hdue, if_true, mem_cons] at hrun hentry
      rcases hrun with rfl | hrun
      · rcases hentry with rfl | hentry
        · simp only [ScheduleEntry.isDue, Bool.and_eq_true, decide_eq_true_eq] at hdue
          have hend := hfinished count
          have hlater := lt_saturatingAdd (Nat.lt_of_le_of_lt hend.2 hbounded)
            (hintervals head mem_cons_self)
          exact Nat.lt_of_le_of_lt (hdue.2.trans hend.1) hlater
        · exact absurd hname (hentries _ _ hentry)
      · rcases hentry with rfl | hentry
        · exact absurd hname.symm (hruns _ _ hrun)
        · exact ih hrest hrun hentry
    · simp only [runDueEntries, hdue] at hrun hentry
      rcases mem_cons.mp hentry with rfl | hentry
      · exact absurd hname.symm (hruns _ _ hrun)
      · exact ih hrest hrun hentry

end Children

section Consumed

variable {calls : Nat → ScheduleCall} {call : ScheduleCall}
variable {store saved : ScheduleStore} {time later : Nat}
variable {done : List (String × Nat)} {outcome : ScheduleEnd}

/-- What was executed lies in the past, once each, and its schedules are armed
for a later time. -/
structure Consumed (store : ScheduleStore) (time : Nat) (done : List (String × Nat)) : Prop where
  regular : RegularStore store
  past : ∀ occurrence ∈ done, occurrence.2 ≤ time
  armed : ∀ occurrence ∈ done, ∀ entry ∈ store,
    entry.name = occurrence.1 → occurrence.2 < entry.nextRun
  once : done.Nodup

/-- Nothing is executed, and every schedule of the new store is an old one or
armed behind the clock. -/
theorem Consumed.quiet (hbefore : Consumed store time done)
    (hsaved : RegularStore saved) (htime : time ≤ later)
    (harmed : ∀ entry ∈ saved, time < entry.nextRun ∨
      ∃ before ∈ store, entry.name = before.name ∧ entry.nextRun = before.nextRun) :
    Consumed saved later done where
  regular := hsaved
  past occurrence hmem := (hbefore.past occurrence hmem).trans htime
  armed := by
    intro occurrence hmem entry hentry hname
    rcases harmed entry hentry with hlater | ⟨before, hold, hsame, hnext⟩
    · exact Nat.lt_of_le_of_lt (hbefore.past occurrence hmem) hlater
    · rw [hnext]
      exact hbefore.armed occurrence hmem before hold (hsame ▸ hname)
  once := hbefore.once

theorem Consumed.unchanged (hbefore : Consumed store time done)
    (htime : time ≤ later) : Consumed store later done :=
  hbefore.quiet hbefore.regular htime fun entry hentry => .inr ⟨entry, hentry, rfl, rfl⟩

theorem Consumed.add {entry : ScheduleEntry}
    (hbefore : Consumed store time done) (htime : time ≤ later)
    (hnew : store.any (·.name = entry.name) = false)
    (hinterval : 0 < entry.intervalSecs) (harmed : time < entry.nextRun) :
    Consumed (store ++ [entry]) later done := by
  have hregular : RegularStore (store ++ [entry]) := by
    constructor
    · rw [map_append, map_singleton, ← concat_eq_append]
      refine hbefore.regular.names.concat ?_
      intro hmem
      obtain ⟨old, hold, hname⟩ := mem_map.mp hmem
      simp only [any_eq_false, decide_eq_true_eq] at hnew
      exact hnew old hold hname
    · intro old hmem
      rcases mem_append.mp hmem with hold | hsingle
      · exact hbefore.regular.interval old hold
      · rw [mem_singleton.mp hsingle]
        exact hinterval
  refine hbefore.quiet hregular htime fun old hmem => ?_
  rcases mem_append.mp hmem with hold | hsingle
  · exact .inr ⟨old, hold, rfl, rfl⟩
  · rw [mem_singleton.mp hsingle]
    exact .inl harmed

theorem Consumed.remove (hbefore : Consumed store time done)
    (htime : time ≤ later) (keep : ScheduleEntry → Bool) :
    Consumed (store.filter keep) later done := by
  have hregular : RegularStore (store.filter keep) :=
    ⟨hbefore.regular.names.sublist (filter_sublist.map _), fun entry hentry =>
        hbefore.regular.interval entry (mem_filter.mp hentry).1⟩
  exact hbefore.quiet hregular htime fun entry hentry =>
    .inr ⟨entry, (mem_filter.mp hentry).1, rfl, rfl⟩

theorem Consumed.setEnabled (hbefore : Consumed store time done)
    (htime : time ≤ later) (name : String) (enabled : Bool) :
    Consumed (store.map fun entry =>
      if entry.name = name then { entry with enabled } else entry) later
      done := by
  have hkept : ∀ entry : ScheduleEntry,
      let changed := if entry.name = name then { entry with enabled } else entry
      changed.name = entry.name ∧ changed.nextRun = entry.nextRun ∧
        changed.intervalSecs = entry.intervalSecs := by
    intro entry
    dsimp only
    split <;> exact ⟨rfl, rfl, rfl⟩
  refine hbefore.quiet ⟨?_, ?_⟩ htime ?_
  · rw [map_map]
    convert hbefore.regular.names using 1
    exact map_congr_left fun entry _ => (hkept entry).1
  · intro entry hentry
    obtain ⟨before, hold, rfl⟩ := mem_map.mp hentry
    rw [(hkept before).2.2]
    exact hbefore.regular.interval before hold
  · intro entry hentry
    obtain ⟨before, hold, rfl⟩ := mem_map.mp hentry
    exact .inr ⟨before, hold, (hkept before).1, (hkept before).2.1⟩

/-- The due schedules are executed, each once, and armed again. -/
theorem Consumed.runDue {secure : Bool} {now : Nat}
    {children : Nat → ChildRun} (hbefore : Consumed store time done)
    (hnow : time ≤ now)
    (hfinished : ∀ count, now ≤ (children count).finished ∧ (children count).finished ≤ later)
    (hends : now ≤ later) (hbounded : later < secondsMax) :
    Consumed (runDueEntries secure now children 0 store).1 later
      (done ++ (runDueEntries secure now children 0 store).2.map ScheduleRun.occurrence) where
  regular := by
    constructor
    · rw [runDueEntries_names]
      exact hbefore.regular.names
    · intro entry hentry
      obtain ⟨before, hold, -, hinterval, -⟩ := mem_runDueEntries hentry
      rw [hinterval]
      exact hbefore.regular.interval before hold
  past := by
    intro occurrence hmem
    rcases mem_append.mp hmem with hold | hnew
    · exact (hbefore.past occurrence hold).trans (hnow.trans hends)
    · obtain ⟨run, hrun, rfl⟩ := mem_map.mp hnew
      obtain ⟨entry, -, heq, hdue⟩ := mem_runs hrun
      rw [heq]
      exact hdue.trans hends
  armed := by
    intro occurrence hmem entry hentry hname
    rcases mem_append.mp hmem with hold | hnew
    · obtain ⟨before, hstore, hsame, hinterval, hkept⟩ := mem_runDueEntries hentry
      rcases hkept with rfl | ⟨count, hagain⟩
      · exact hbefore.armed occurrence hold entry hstore hname
      · have hend := hfinished count
        have hlater := lt_saturatingAdd (Nat.lt_of_le_of_lt hend.2 hbounded)
          (hbefore.regular.interval before hstore)
        rw [hagain]
        have hpast := hbefore.past occurrence hold
        omega
    · obtain ⟨run, hrun, rfl⟩ := mem_map.mp hnew
      exact armed_again hbefore.regular hfinished hbounded hrun hentry hname
  once := by
    rw [nodup_append']
    refine ⟨hbefore.once, ?_, ?_⟩
    · have hnames := hbefore.regular.names.sublist (@runs_names secure now 0 children store)
      apply List.Nodup.of_map Prod.fst
      rw [map_map]
      exact hnames
    · intro occurrence hold hnew
      obtain ⟨run, hrun, rfl⟩ := mem_map.mp hnew
      obtain ⟨entry, hentry, heq, -⟩ := mem_runs hrun
      rw [heq] at hold
      exact Nat.lt_irrefl _ (hbefore.armed _ hold entry hentry rfl)

/-- How a command ends keeps executions apart. -/
def KeptApart (store : ScheduleStore) (later : Nat) (done : List (String × Nat))
    (ended : ScheduleEnd × Option ScheduleStore) : Prop :=
  Consumed (ended.2.getD store) later (done ++ ended.1.runs.map ScheduleRun.occurrence)

theorem Consumed.execute (hbefore : Consumed store time done) (hcall : call.Regular time later) :
    KeptApart store later done (call.execute store) := by
  have htime : time ≤ later := hcall.now.trans hcall.ends
  have hfails : ∀ error, KeptApart store later done (scheduleFails error) := by
    intro error
    simpa [KeptApart, scheduleFails] using hbefore.unchanged htime
  have hsaves : ∀ {saved} reply, Consumed saved later done →
      KeptApart store later done (call.saving saved reply []) := by
    intro saved reply hsaved
    simpa [KeptApart, ScheduleCall.saving, hcall.save] using hsaved
  have hloads : ∀ body, KeptApart store later done (body store) →
      KeptApart store later done (call.loading body store) := by
    intro body hbody
    unfold ScheduleCall.loading
    split
    · exact hfails _
    · exact hbody
  unfold ScheduleCall.execute
  cases hcommand : call.command with
  | add name every cmd =>
    dsimp only
    split_ifs
    · exact hfails _
    · exact hfails _
    split
    · exact hfails _
    next secs hinterval =>
      refine hloads _ ?_
      unfold ScheduleCall.add
      split
      · exact hfails _
      next hnew =>
        have hpositive := hcall.interval name every cmd secs hcommand hinterval
        refine hsaves _ (hbefore.add htime (by simpa using hnew) hpositive ?_)
        have hbounded := Nat.lt_of_le_of_lt hcall.ends hcall.bounded
        exact Nat.lt_of_le_of_lt hcall.now (lt_saturatingAdd hbounded hpositive)
  | remove name => exact hloads _ (hsaves _ (hbefore.remove htime _))
  | pause name => exact hloads _ (hsaves _ (hbefore.setEnabled htime name false))
  | resume name => exact hloads _ (hsaves _ (hbefore.setEnabled htime name true))
  | runDue =>
    refine hloads _ ?_
    simp only [ScheduleCall.runDue, ScheduleCall.saving, hcall.save]
    exact hbefore.runDue hcall.now hcall.finished hcall.ends hcall.bounded

/-- One after the other, regular commands execute no occurrence twice. -/
theorem Consumed.sequential {order : List Nat} (hbefore : Consumed store time done)
    (horder : RegularOrder calls order time) :
    (done ++ occurrences (sequential (scheduleJobs calls) order store).2).Nodup := by
  induction order generalizing store time done with
  | nil => simpa [SharedStore.sequential, occurrences] using hbefore.once
  | cons process rest ih =>
    obtain ⟨later, hcall, hrest⟩ := horder
    have hnext := ih (hbefore.execute hcall) hrest
    simpa [SharedStore.sequential, scheduleJobs, occurrences, append_assoc] using hnext

end Consumed

section Commands

variable {calls : Nat → ScheduleCall} {start : ScheduleStore}
variable {last : State Nat ScheduleStore ScheduleEnd}

end Commands

namespace ScheduleWitness

def entry : ScheduleEntry where
  name := "nightly"
  intervalSecs := 86400
  cmd := "vm snapshot 100 --yes"
  lastRun := 0
  nextRun := 100
  enabled := true

/-- A `run-due` at the second 100 whose child ends at 160. -/
def runDue : ScheduleCall where
  command := .runDue
  now := 100
  children _ :=
    { started := 100, finished := 160
      result := .ok { exitCode := some 0, stdoutLen := 0, stderrLen := 0 } }

/-- Processes 0 and 2 run what is due, process 1 pauses it. -/
def calls : Nat → ScheduleCall
  | 1 => { command := .pause "nightly", now := 130 }
  | _ => runDue

/-- The pause, and then a `run-due` that finds it. -/
def apart : List (Event Nat) :=
  [.load 1, .save 1, .load 0, .save 0]

/-- A pause while a `run-due` waits for its child. -/
def pausing : List (Event Nat) :=
  [.load 0, .load 1, .save 1, .save 0]

/-- Two overlapping `run-due`. -/
def overlapping : List (Event Nat) :=
  [.load 0, .load 2, .save 0, .save 2]

end ScheduleWitness

end Proxxx
