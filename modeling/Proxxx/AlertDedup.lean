/-
The alert daemon.  Each tick evaluates the rules against a snapshot of the
cluster and sends the events whose rule and target were not sent within the
rule's window.  The times of the last sends are kept in a cache, written to disk
after each tick and read again at a start, and dropped after a day: that is the
longest window which every run of the daemon respects.
-/
import Proxxx.RustStr
import Proxxx.StepSystem

namespace Proxxx.Alerts

open StepSystem List

section Engine

structure AlertRuleConfig where
  name : String
  when : String
  forSecs : UInt64
  thresholdPercent : UInt8
  storage : String
  severity : String
  route : List String
  dedupSecs : UInt64
deriving Repr, DecidableEq

inductive Severity where
  | info
  | warning
  | critical
deriving Repr, DecidableEq

def Severity.parse (text : String) : Severity :=
  match text.map Char.toLower with
  | "info" | "informational" => .info
  | "critical" | "crit" | "fatal" => .critical
  | _ => .warning

inductive NodeState where
  | online
  | offline
  | unknown
deriving Repr, DecidableEq

structure NodeEntry where
  node : String
  status : NodeState
deriving Repr, DecidableEq

structure StorageEntry where
  storage : String
  used : UInt64
  total : UInt64
deriving Repr, DecidableEq

structure ReplicationEntry where
  id : String
  failCount : Nat
  error : String
deriving Repr, DecidableEq

structure ClusterSnapshot where
  nodes : List NodeEntry
  storage : List StorageEntry
  replication : List ReplicationEntry
deriving Repr, DecidableEq

structure AlertEvent where
  rule : String
  severity : Severity
  target : String
  summary : String
  time : UInt64
deriving Repr, DecidableEq

/-- When each node was first seen offline. -/
abbrev EngineState := String → Option UInt64

variable (percent : UInt64 → UInt64 → Nat)

def EngineState.observe (state : EngineState) (nodes : List NodeEntry)
    (now : UInt64) : EngineState :=
  nodes.foldl (fun state entry =>
      match entry.status with
      | .online => Function.update state entry.node none
      | _ => Function.update state entry.node ((state entry.node).or (some now)))
    state

/-- The events of one rule; `percent` is the rounded share in percent, which the
source computes in floating point. -/
def AlertRuleConfig.events (rule : AlertRuleConfig) (snap : ClusterSnapshot)
    (state : EngineState) (now : UInt64) : List AlertEvent :=
  let event (target summary : String) : AlertEvent :=
    { rule := rule.name, severity := .parse rule.severity, target, summary, time := now }
  match rule.when with
  | "node_offline" => snap.nodes.filterMap fun entry =>
    (state entry.node).bind fun since =>
      let elapsed := now.toNat - since.toNat
      if rule.forSecs.toNat ≤ elapsed then
        some (event ("node:" ++ entry.node)
          ("node " ++ entry.node ++ " offline for " ++ toString elapsed ++ "s"))
      else none
  | "storage_above" => snap.storage.filterMap fun entry =>
    if rule.storage ≠ "" ∧ entry.storage ≠ rule.storage then none
    else if entry.total = 0 then none
    else
      let pct := percent entry.used entry.total
      if rule.thresholdPercent.toNat ≤ pct then
        some (event ("storage:" ++ entry.storage)
          ("storage " ++ entry.storage ++ " at " ++ toString pct ++
            "% (threshold " ++ toString rule.thresholdPercent.toNat ++ ")"))
      else none
  | "replication_failing" => snap.replication.filterMap fun entry =>
    if 0 < entry.failCount ∨ entry.error ≠ "" then
      some (event ("replication:" ++ entry.id) ("replication " ++ entry.id ++ " failing: " ++
          (if entry.error = "" then "—" else entry.error) ++
          " (fail_count " ++ toString entry.failCount ++ ")"))
    else none
  | _ => []

def evaluate (rules : List AlertRuleConfig) (snap : ClusterSnapshot)
    (prev : EngineState) (now : UInt64) : List AlertEvent × EngineState :=
  let state := prev.observe snap.nodes now
  (rules.flatMap fun rule => rule.events percent snap state now, state)

end Engine

section Dedup

/-- The time of the last send for a rule and a target. -/
abbrev DedupCache := String × String → Option UInt64

namespace DedupCache

/-- Whether an event is sent now; if so, the cache has the time. -/
def allow (cache : DedupCache) (rule target : String) (dedupSecs now : UInt64) :
    Bool × DedupCache :=
  match cache (rule, target) with
  | some last =>
    if now.toNat - last.toNat < dedupSecs.toNat then (false, cache)
    else (true, Function.update cache (rule, target) (some now))
  | none => (true, Function.update cache (rule, target) (some now))

def evictOlderThan (cache : DedupCache) (maxAge now : UInt64) : DedupCache :=
  fun key => (cache key).filter fun last =>
    now.toNat - last.toNat < maxAge.toNat

end DedupCache

/-- The rows on disk; the column is a signed one. -/
abbrev DedupRows := String × String → Option Int64

def saveAlertDedup (cache : DedupCache) : DedupRows :=
  fun key => (cache key).map UInt64.toInt64

def loadAlertDedup (rows : DedupRows) : DedupCache :=
  fun key => (rows key).map Int64.toUInt64

theorem loadAlertDedup_saveAlertDedup (cache : DedupCache) :
    loadAlertDedup (saveAlertDedup cache) = cache := by
  funext key
  cases hlast : cache key <;> simp [loadAlertDedup, saveAlertDedup, hlast]

end Dedup

section Watch

inductive Channel where
  | telegram
  | ntfy (topic : String)
  | webhook (url : String)
deriving Repr, DecidableEq

def parseRoute (text : String) : Option Channel :=
  let trimmed := RustStr.trim text
  if RustStr.eqIgnoreAsciiCase trimmed "telegram" then some .telegram
  else
    match RustStr.stripPrefix trimmed "ntfy:" with
    | some topic => if topic.isEmpty then none else some (.ntfy topic)
    | none =>
      (RustStr.stripPrefix trimmed "webhook:").bind fun url =>
        if url.isEmpty || !RustStr.startsWith url "http" then none
        else some (.webhook url)

/-- An event given to the channels of its rule. -/
structure Sent where
  event : AlertEvent
  rule : AlertRuleConfig
  channels : List Channel
  time : UInt64
deriving Repr, DecidableEq

/-- The daemon and its database.  `saved` says that the rows are those of the
cache. -/
structure WatchState where
  engine : EngineState
  dedup : DedupCache
  disk : DedupRows
  saved : Bool
  clock : UInt64
  log : List Sent

inductive WatchEvent where
  | tick (now : UInt64) (rules : List AlertRuleConfig)
      (snap : Except String ClusterSnapshot) (saves : Bool)
  | restart
deriving Repr

def WatchState.start (disk : DedupRows) : WatchState where
  engine := fun _ => none
  dedup := loadAlertDedup disk
  disk := disk
  saved := true
  clock := 0
  log := []

/-- The loop over the events of a tick. -/
def dispatch (rules : List AlertRuleConfig) (now : UInt64) :
    DedupCache × List Sent → AlertEvent → DedupCache × List Sent :=
  fun (dedup, log) event =>
    match rules.find? (·.name == event.rule) with
    | none => (dedup, log)
    | some rule =>
      match dedup.allow event.rule event.target rule.dedupSecs now with
      | (false, dedup) => (dedup, log)
      | (true, dedup) =>
        let channels := rule.route.filterMap parseRoute
        (dedup, log ++ [⟨event, rule, channels, now⟩])

variable (percent : UInt64 → UInt64 → Nat)

namespace WatchState

def processed (state : WatchState) (now : UInt64)
    (rules : List AlertRuleConfig) (snap : ClusterSnapshot) (saves : Bool) : WatchState :=
  let (events, engine) := evaluate percent rules snap state.engine now
  let (dedup, log) := events.foldl (dispatch rules now) (state.dedup, state.log)
  let dedup := dedup.evictOlderThan 86400 now
  { engine, dedup, clock := now, log, saved := saves,
    disk := if saves then saveAlertDedup dedup else state.disk }

/-- Ticks come at times that do not go back, and a restart comes after a tick
whose entries were saved. -/
def step (state : WatchState) : WatchEvent → Option WatchState
  | .tick now rules snap saves =>
    if now < state.clock then none
    else
      match snap, rules with
      | .error _, _ => some { state with clock := now }
      | .ok _, [] => some { state with clock := now }
      | .ok snap, rules => some (state.processed percent now rules snap saves)
  | .restart =>
    if state.saved then
      some { state with engine := fun _ => none, dedup := loadAlertDedup state.disk }
    else none

end WatchState

end Watch

section Spacing

/-- Two sends of one rule and target are at least the window apart, where the
later one's rule has this window. -/
def Spaced (window : UInt64) (log : List Sent) : Prop :=
  log.Pairwise fun earlier later =>
    later.event.rule = earlier.event.rule → later.event.target = earlier.event.target →
        later.rule.dedupSecs = window → earlier.time.toNat + window.toNat ≤ later.time.toNat

/-- A send is remembered, or a day has passed since. -/
def Covers (now : UInt64) (dedup : DedupCache) (log : List Sent) : Prop :=
  ∀ sent ∈ log, sent.time.toNat ≤ now.toNat ∧
    ((∃ last, dedup (sent.event.rule, sent.event.target) = some last ∧
        sent.time.toNat ≤ last.toNat) ∨
      sent.time.toNat + 86400 ≤ now.toNat)

variable {now window : UInt64} {dedup : DedupCache} {log : List Sent}

theorem Covers.mono {later : UInt64} (hcovers : Covers now dedup log)
    (hlater : now.toNat ≤ later.toNat) : Covers later dedup log := by
  intro sent hsent
  obtain ⟨hpast, hlast | hold⟩ := hcovers sent hsent
  · exact ⟨hpast.trans hlater, .inl hlast⟩
  · exact ⟨hpast.trans hlater, .inr (hold.trans hlater)⟩

theorem Covers.evict (hcovers : Covers now dedup log) :
    Covers now (dedup.evictOlderThan 86400 now) log := by
  intro sent hsent
  obtain ⟨hpast, ⟨last, hlast, hle⟩ | hold⟩ := hcovers sent hsent
  · refine ⟨hpast, ?_⟩
    have hday : (86400 : UInt64).toNat = 86400 := rfl
    by_cases hyoung : now.toNat - last.toNat < 86400
    · refine .inl ⟨last, ?_, hle⟩
      simp [DedupCache.evictOlderThan, hlast, hday, hyoung]
    · exact .inr (by omega)
  · exact ⟨hpast, .inr hold⟩

variable {next : DedupCache} {target rule : String}

/-- A send that the cache allows comes behind the window of every earlier
one. -/
theorem window_le_of_allow {sent : Sent} (hcovers : Covers now dedup log)
    (hwindow : window.toNat ≤ 86400)
    (hallow : dedup.allow rule target window now = (true, next))
    (hsent : sent ∈ log) (hrule : rule = sent.event.rule)
    (htarget : target = sent.event.target) :
    sent.time.toNat + window.toNat ≤ now.toNat := by
  obtain ⟨hpast, ⟨last, hlast, hle⟩ | hold⟩ := hcovers sent hsent
  · rw [DedupCache.allow, hrule, htarget, hlast] at hallow
    by_cases hyoung : now.toNat - last.toNat < window.toNat
    · simp [hyoung] at hallow
    · omega
  · omega

theorem allow_true_eq (hallow : dedup.allow rule target window now = (true, next)) :
    next = Function.update dedup (rule, target) (some now) := by
  revert hallow
  fun_cases DedupCache.allow <;> rintro ⟨⟩ <;> rfl

theorem allow_false_eq (hallow : dedup.allow rule target window now = (false, next)) :
    next = dedup := by
  revert hallow
  fun_cases DedupCache.allow <;> rintro ⟨⟩
  rfl

variable {rules : List AlertRuleConfig}

/-- One event: it is suppressed, or remembered and sent. -/
theorem covers_dispatch {event : AlertEvent} (hcovers : Covers now dedup log) :
    Covers now (dispatch rules now (dedup, log) event).1
      (dispatch rules now (dedup, log) event).2 := by
  simp only [dispatch]
  split
  next => exact hcovers
  next rule hrule =>
    split
    next next hallow =>
      rw [allow_false_eq hallow]
      exact hcovers
    next next hallow =>
      rw [allow_true_eq hallow]
      intro sent hsent
      rcases mem_append.mp hsent with hold | hnew
      · obtain ⟨hpast, hlast⟩ := hcovers sent hold
        refine ⟨hpast, ?_⟩
        by_cases hkey : (sent.event.rule, sent.event.target) = (event.rule, event.target)
        · simp only [hkey, Function.update_self]
          exact .inl ⟨now, rfl, hpast⟩
        · simp only [Function.update_of_ne hkey]
          exact hlast
      · obtain rfl := mem_singleton.mp hnew
        refine ⟨le_rfl, .inl ⟨now, ?_, le_rfl⟩⟩
        exact Function.update_self _ _ _

theorem spaced_dispatch {event : AlertEvent}
    (hcovers : Covers now dedup log) (hwindow : window.toNat ≤ 86400)
    (hspaced : Spaced window log) :
    Spaced window (dispatch rules now (dedup, log) event).2 := by
  simp only [dispatch]
  split
  next => exact hspaced
  next rule hrule =>
    split
    next => exact hspaced
    next next hallow =>
      refine pairwise_append.mpr ⟨hspaced, pairwise_singleton _ _, ?_⟩
      intro sent hsent new hnew hsame htarget hdedup
      obtain rfl := mem_singleton.mp hnew
      rw [hdedup] at hallow
      exact window_le_of_allow hcovers hwindow hallow hsent hsame htarget

theorem foldl_dispatch (rules : List AlertRuleConfig)
    (hwindow : window.toNat ≤ 86400) {events : List AlertEvent}
    (hcovers : Covers now dedup log) (hspaced : Spaced window log) :
    Covers now (events.foldl (dispatch rules now) (dedup, log)).1
        (events.foldl (dispatch rules now) (dedup, log)).2 ∧
      Spaced window (events.foldl (dispatch rules now) (dedup, log)).2 := by
  induction events generalizing dedup log with
  | nil => exact ⟨hcovers, hspaced⟩
  | cons event events ih =>
    exact ih (covers_dispatch hcovers) (spaced_dispatch hcovers hwindow hspaced)

end Spacing

section Runs

variable {percent : UInt64 → UInt64 → Nat} {window : UInt64}

structure WatchState.Keeps (window : UInt64) (state : WatchState) : Prop where
  covers : Covers state.clock state.dedup state.log
  spaced : Spaced window state.log
  disk : state.saved = true → loadAlertDedup state.disk = state.dedup

theorem keeps_start (disk : DedupRows) : (WatchState.start disk).Keeps window where
  covers := by simp [WatchState.start, Covers]
  spaced := List.Pairwise.nil
  disk := fun _ => rfl

theorem WatchState.Keeps.processed (hwindow : window.toNat ≤ 86400)
    {state : WatchState} (hkeeps : state.Keeps window) {now : UInt64}
    (hnow : state.clock.toNat ≤ now.toNat) (rules : List AlertRuleConfig)
    (snap : ClusterSnapshot) (saves : Bool) :
    (state.processed percent now rules snap saves).Keeps window := by
  obtain ⟨hcovers, hspaced⟩ := foldl_dispatch rules hwindow (hkeeps.covers.mono hnow) hkeeps.spaced
  refine ⟨hcovers.evict, hspaced, fun hsaved => ?_⟩
  obtain rfl : saves = true := hsaved
  exact loadAlertDedup_saveAlertDedup _

theorem keeps_step (hwindow : window.toNat ≤ 86400) {state next : WatchState}
    {event : WatchEvent} (hstep : state.step percent event = some next)
    (hkeeps : state.Keeps window) : next.Keeps window := by
  have hlater : ∀ now, ¬now < state.clock → state.clock.toNat ≤ now.toNat := by
    intro now hclock
    rw [UInt64.lt_iff_toNat_lt] at hclock
    omega
  revert hstep
  fun_cases WatchState.step percent state event <;> intro hstep
  any_goals cases hstep
  case case2.refl | case3.refl =>
    exact ⟨hkeeps.covers.mono (hlater _ (by assumption)), hkeeps.spaced, hkeeps.disk⟩
  case case4.refl => exact hkeeps.processed hwindow (hlater _ (by assumption)) _ _ _
  case case5.refl hsaved =>
    refine ⟨?_, hkeeps.spaced, fun _ => rfl⟩
    simp only [hkeeps.disk hsaved]
    exact hkeeps.covers

/-- A rule for a node that stays offline. -/
def offlineRule (window : UInt64) : AlertRuleConfig where
  name := "down"
  when := "node_offline"
  forSecs := 0
  thresholdPercent := 90
  storage := ""
  severity := "critical"
  route := ["telegram"]
  dedupSecs := window

def offlineSnap : ClusterSnapshot := ⟨[⟨"pve1", .offline⟩], [], []⟩

/-- A send, a tick a day later that forgets it, and one more tick. -/
def forgetful (window : UInt64) : List WatchEvent :=
  [.tick 0 [offlineRule window] (.ok offlineSnap) true,
    .tick 86400 [offlineRule window] (.ok offlineSnap) true,
    .tick 86400 [offlineRule window] (.ok offlineSnap) true]

def offlineSent (window now : UInt64) : Sent where
  event :=
    { rule := "down", severity := .critical, target := "node:pve1",
      summary := "node pve1 offline for " ++ toString now.toNat ++ "s", time := now }
  rule := offlineRule window
  channels := [.telegram]
  time := now

theorem events_offline {engine : EngineState} {now : UInt64} (hsince : engine "pve1" = some 0) :
    (offlineRule window).events (fun _ _ => 0) offlineSnap engine now =
      [(offlineSent window now).event] := by
  have hseverity : Severity.parse "critical" = .critical := by decide +kernel
  have hevents : (offlineRule window).events (fun _ _ => 0) offlineSnap engine
      now = [(⟨"pve1", .offline⟩ : NodeEntry)].filterMap fun entry =>
        (engine entry.node).bind fun since =>
          if (0 : Nat) ≤ now.toNat - since.toNat then
            some ⟨"down", .parse "critical", "node:" ++ entry.node,
              "node " ++ entry.node ++ " offline for " ++
                toString (now.toNat - since.toNat) ++ "s", now⟩
          else none := rfl
  rw [hevents, hseverity]
  simp only [filterMap_cons, hsince]
  rfl

theorem evaluate_offline {engine : EngineState} {now : UInt64}
    (hsince : (engine "pve1").or (some now) = some 0) :
    evaluate (fun _ _ => 0) [offlineRule window] offlineSnap engine now =
      ([(offlineSent window now).event], Function.update engine "pve1" (some 0)) := by
  have hobserve : engine.observe offlineSnap.nodes now =
      Function.update engine "pve1" (some 0) := by
    rw [← hsince]
    rfl
  rw [evaluate, hobserve, flatMap_singleton, events_offline (Function.update_self _ _ _)]

theorem dispatch_offline (dedup : DedupCache) (log : List Sent) (now : UInt64) :
    dispatch [offlineRule window] now (dedup, log) (offlineSent window now).event =
      match dedup.allow "down" "node:pve1" window now with
      | (false, dedup) => (dedup, log)
      | (true, dedup) => (dedup, log ++ [offlineSent window now]) := by
  have hroute : parseRoute "telegram" = some .telegram := by decide +kernel
  simp [dispatch, offlineRule, offlineSent, hroute]

section Tick

variable {state : WatchState} {now last : UInt64}

/-- A tick of the daemon for the offline node. -/
def offlineTick (window : UInt64) (state : WatchState) (now : UInt64) : WatchState :=
  state.processed (fun _ _ => 0) now [offlineRule window] offlineSnap true

theorem offlineTick_sends (hsince : (state.engine "pve1").or (some now) = some 0)
    (hnone : state.dedup ("down", "node:pve1") = none) :
    (offlineTick window state now).log = state.log ++ [offlineSent window now] ∧
      (offlineTick window state now).dedup ("down", "node:pve1") = some now ∧
      (offlineTick window state now).engine "pve1" = some 0 := by
  have hallow : state.dedup.allow "down" "node:pve1" window now =
      (true, Function.update state.dedup ("down", "node:pve1") (some now)) := by
    rw [DedupCache.allow, hnone]
  simp [offlineTick, WatchState.processed, evaluate_offline hsince,
    dispatch_offline, hallow, DedupCache.evictOlderThan]

theorem offlineTick_suppresses (hsince : (state.engine "pve1").or (some now) = some 0)
    (hlast : state.dedup ("down", "node:pve1") = some last)
    (hyoung : now.toNat - last.toNat < window.toNat)
    (hday : 86400 ≤ now.toNat - last.toNat) :
    (offlineTick window state now).log = state.log ∧
      (offlineTick window state now).dedup ("down", "node:pve1") = none ∧
      (offlineTick window state now).engine "pve1" = some 0 := by
  have hallow : state.dedup.allow "down" "node:pve1" window now = (false, state.dedup) := by
    simp [DedupCache.allow, hlast, hyoung]
  simp [offlineTick, WatchState.processed, evaluate_offline hsince,
    dispatch_offline, hallow, DedupCache.evictOlderThan, hlast, hday]

end Tick

theorem forgetful_sends {window : UInt64} (hwindow : 86400 < window.toNat) :
    ∃ last, runFrom (WatchState.step fun _ _ => 0)
        (.start fun _ => none) (forgetful window) = some last ∧
      last.log = [offlineSent window 0, offlineSent window 86400] := by
  let first := offlineTick window (.start fun _ => none) 0
  let second := offlineTick window first 86400
  obtain ⟨hlog₁, hdedup₁, hengine₁⟩ := @offlineTick_sends window (.start fun _ => none) 0 rfl rfl
  obtain ⟨hlog₂, hdedup₂, hengine₂⟩ := @offlineTick_suppresses window first 86400 0
    (by rw [hengine₁]; rfl) hdedup₁ hwindow le_rfl
  obtain ⟨hlog₃, -⟩ := @offlineTick_sends window second 86400 (by rw [hengine₂]; rfl) hdedup₂
  refine ⟨offlineTick window second 86400, rfl, ?_⟩
  rw [hlog₃, hlog₂, hlog₁]
  rfl

/-- A window is respected in every run of the daemon exactly if it is no longer
than the day after which the cache forgets a send. -/
theorem sends_spaced_iff (window : UInt64) : (∀ (percent : UInt64 → UInt64 → Nat) (disk : DedupRows)
    (events : List WatchEvent) (last : WatchState),
      runFrom (WatchState.step percent) (.start disk) events = some last → Spaced window last.log) ↔
    window.toNat ≤ 86400 := by
  constructor
  · intro hruns
    by_contra hlong
    obtain ⟨last, hrun, hlog⟩ := forgetful_sends (Nat.lt_of_not_le hlong)
    have hspaced := hruns _ _ _ last hrun
    rw [hlog] at hspaced
    have hapart := (pairwise_cons.mp hspaced).1
      (offlineSent window 86400) (mem_singleton_self _) rfl rfl rfl
    have hfirst : (offlineSent window 0).time.toNat = 0 := rfl
    have hsecond : (offlineSent window 86400).time.toNat = 86400 := rfl
    omega
  · intro hwindow percent disk events last hrun
    have hkeeps : last.Keeps window := invariant_of_step
      (fun hstep hkeeps => keeps_step hwindow hstep hkeeps)
      (keeps_start disk) hrun
    exact hkeeps.spaced

/-- Under a window of two days the node is reported again after one. -/
theorem two_day_window_broken :
    ∃ last, runFrom (WatchState.step fun _ _ => 0) (.start fun _ => none)
        (forgetful 172800) = some last ∧
      last.log = [offlineSent 172800 0, offlineSent 172800 86400] ∧
      ¬Spaced 172800 last.log := by
  obtain ⟨last, hrun, hlog⟩ := forgetful_sends (show 86400 < (172800 : UInt64).toNat by decide)
  refine ⟨last, hrun, hlog, ?_⟩
  rw [hlog]
  simp [Spaced, offlineSent, offlineRule]

theorem sends_spaced_ten_minutes :
    ∃ last, runFrom (WatchState.step fun _ _ => 0) (.start fun _ => none)
        (forgetful 600) = some last ∧ Spaced 600 last.log :=
  ⟨_, rfl, (sends_spaced_iff 600).mpr (by decide) _ _ (forgetful 600) _ rfl⟩

end Runs

end Proxxx.Alerts
