/-
The recurring operations and the commands on their store.  Every command is a
function of the store it loads: its reply, what it saves, and for `run-due` the
child processes it spawns in between.
-/
import Proxxx.RustLines
import Mathlib

namespace Proxxx

open RustStr

structure ScheduleEntry where
  name : String
  intervalSecs : Nat
  cmd : String
  lastRun : Nat
  nextRun : Nat
  enabled : Bool
deriving Repr, DecidableEq

abbrev ScheduleStore := List ScheduleEntry

section Intervals

def secondsMax : Nat := 2 ^ 64 - 1

def saturatingAdd (one two : Nat) : Nat :=
  min (one + two) secondsMax

def saturatingMul (one two : Nat) : Nat :=
  min (one * two) secondsMax

def intervalUnit : Char → Option Nat
  | 's' => some 1
  | 'm' => some 60
  | 'h' => some 3600
  | 'd' => some 86400
  | 'w' => some (86400 * 7)
  | _ => none

def parseInterval (text : String) : Except String Nat :=
  let s := trim text
  if s.isEmpty then .error "empty interval"
  else
    let (number, mult) :=
      match s.toList.getLast?.bind intervalUnit with
      | some mult => (String.ofList s.toList.dropLast, mult)
      | none => (s, 1)
    match parseUnsigned (secondsMax + 1) number with
    | some n => .ok (saturatingMul n mult)
    | none => .error ("invalid interval `" ++ s ++ "` — try `30s`, `5m`, `2h`, `1d`, `1w`")

end Intervals

section Children

/-- The arguments of a child process; the flag of the parent goes before the
subcommand, unless the command already has it. -/
def buildChildArgv (cmd : String) (secure : Bool) : List String :=
  let tokens := splitWhitespace cmd
  let alreadyHasSecure := (tokens.takeWhile (· ≠ "--")).any (· = "--secure")
  if secure && !alreadyHasSecure then "--secure" :: tokens else tokens

structure ChildOutput where
  exitCode : Option Int
  stdoutLen : Nat
  stderrLen : Nat
deriving Repr, DecidableEq

/-- A child process that was awaited, or could not be started. -/
structure ChildRun where
  started : Nat
  finished : Nat
  result : Except String ChildOutput
deriving Repr, DecidableEq

/-- The outcome `run-due` reports for a schedule, with the arguments it
spawned the child with and the time the occurrence was due. -/
structure ScheduleRun where
  name : String
  dueAt : Nat
  argv : List String
  child : ChildRun
deriving Repr, DecidableEq

def ScheduleEntry.isDue (entry : ScheduleEntry) (now : Nat) : Bool :=
  entry.enabled && entry.nextRun ≤ now

/-- The loop over the loaded schedules, when `count` children have been
awaited; `children` are the answers in their order. -/
def runDueEntries (secure : Bool) (now : Nat) (children : Nat → ChildRun) :
    Nat → ScheduleStore → ScheduleStore × List ScheduleRun
  | _, [] => ([], [])
  | count, entry :: rest =>
    if entry.isDue now then
      let child := children count
      let (entries, runs) := runDueEntries secure now children (count + 1) rest
      ({ entry with
          lastRun := child.finished, nextRun := saturatingAdd child.finished entry.intervalSecs } ::
        entries,
       { name := entry.name, dueAt := entry.nextRun, argv := buildChildArgv entry.cmd secure
         child := child } :: runs)
    else
      let (entries, runs) := runDueEntries secure now children count rest
      (entry :: entries, runs)

end Children

section Commands

inductive ScheduleCommand where
  | add (name every cmd : String)
  | remove (name : String)
  | pause (name : String)
  | resume (name : String)
  | runDue
deriving Repr, DecidableEq

inductive ScheduleReply where
  | added (entry : ScheduleEntry)
  | removed (name : String) (removed : Bool)
  | enabled (name : String) (enabled changed : Bool)
  | ran (runs : List ScheduleRun)
deriving Repr, DecidableEq

/-- What a command returned, and the children it ran. -/
structure ScheduleEnd where
  result : Except String ScheduleReply
  runs : List ScheduleRun := []
deriving Repr, DecidableEq

/-- How the save of a command ends.  The file is replaced before the directory
is synced, so a failed save may have replaced it. -/
inductive SaveOutcome where
  | saved
  | failed (error : String) (replaced : Bool)
deriving Repr, DecidableEq

/-- A command with the clock it reads, the answers of its children, and the
outcomes of its load (for `run-due` also of finding the binary) and save. -/
structure ScheduleCall where
  command : ScheduleCommand
  secure : Bool := false
  now : Nat
  children : Nat → ChildRun :=
    fun _ => { started := 0, finished := 0, result := .error "" }
  loadError : Option String := none
  save : SaveOutcome := .saved

def ScheduleCall.saving (call : ScheduleCall) (store : ScheduleStore)
    (reply : ScheduleReply) (runs : List ScheduleRun) : ScheduleEnd × Option ScheduleStore :=
  match call.save with
  | .saved => ({ result := .ok reply, runs }, some store)
  | .failed error replaced =>
    ({ result := .error error, runs }, if replaced then some store else none)

def scheduleFails (error : String) : ScheduleEnd × Option ScheduleStore :=
  ({ result := .error error }, none)

/-- The part of a command behind its load. -/
def ScheduleCall.loading (call : ScheduleCall)
    (body : ScheduleStore → ScheduleEnd × Option ScheduleStore)
    (store : ScheduleStore) : ScheduleEnd × Option ScheduleStore :=
  match call.loadError with
  | some error => scheduleFails error
  | none => body store

def ScheduleCall.add (call : ScheduleCall) (name : String)
    (intervalSecs : Nat) (cmd : String) (store : ScheduleStore) :
    ScheduleEnd × Option ScheduleStore :=
  if store.any (·.name = name) then
    scheduleFails ("schedule `" ++ name ++ "` already exists — remove it first to redefine")
  else
    let entry : ScheduleEntry :=
      { name, intervalSecs, cmd, lastRun := 0
        nextRun := saturatingAdd call.now intervalSecs, enabled := true }
    call.saving (store ++ [entry]) (.added entry) []

def ScheduleCall.remove (call : ScheduleCall) (name : String)
    (store : ScheduleStore) : ScheduleEnd × Option ScheduleStore :=
  let kept := store.filter (·.name ≠ name)
  call.saving kept (.removed name (decide (store.length ≠ kept.length))) []

def ScheduleCall.setEnabled (call : ScheduleCall) (name : String)
    (enabled : Bool) (store : ScheduleStore) : ScheduleEnd × Option ScheduleStore :=
  call.saving (store.map fun entry =>
      if entry.name = name then { entry with enabled } else entry)
    (.enabled name enabled (store.any (·.name = name))) []

def ScheduleCall.runDue (call : ScheduleCall) (store : ScheduleStore) :
    ScheduleEnd × Option ScheduleStore :=
  let (entries, runs) := runDueEntries call.secure call.now call.children 0
    store
  call.saving entries (.ran runs) runs

/-- `execute_schedule`, from the store that is loaded. -/
def ScheduleCall.execute (call : ScheduleCall) :
    ScheduleStore → ScheduleEnd × Option ScheduleStore :=
  match call.command with
  | .add name every cmd => fun store =>
    if name.isEmpty then scheduleFails "--name is required"
    else if cmd.isEmpty then scheduleFails "--cmd is required"
    else
      match parseInterval every with
      | .error error => scheduleFails error
      | .ok intervalSecs => call.loading (call.add name intervalSecs cmd) store
  | .remove name => call.loading (call.remove name)
  | .pause name => call.loading (call.setEnabled name false)
  | .resume name => call.loading (call.setEnabled name true)
  | .runDue => call.loading call.runDue

end Commands

section Runs

variable {secure : Bool} {now count : Nat} {children : Nat → ChildRun}
variable {store : ScheduleStore}

/-- The children are those of the due schedules, one each and in their
order. -/
theorem runDueEntries_argv : (runDueEntries secure now children count store).2.map (·.argv) =
    (store.filter (·.isDue now)).map fun entry => buildChildArgv entry.cmd secure := by
  induction store generalizing count with
  | nil => rfl
  | cons entry rest ih =>
    by_cases hdue : entry.isDue now = true <;> simp [runDueEntries, hdue, ih]

/-- Whatever becomes of the save, the children were run. -/
theorem runs_runDue (call : ScheduleCall) (store : ScheduleStore) : (call.runDue store).1.runs =
    (runDueEntries call.secure call.now call.children 0 store).2 := by
  unfold ScheduleCall.runDue ScheduleCall.saving
  dsimp only
  split <;> rfl

end Runs

end Proxxx
