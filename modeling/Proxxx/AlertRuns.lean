/-
What the alert daemon reports over a run of ticks.  A node that stays offline is
reported from the time on that its rule asks for.  A storage pool is reported
under its name alone, so that a pool of the same name on another node passes for
it.
-/
import Mathlib.Data.List.Nodup
import Mathlib.Order.Monotone.Basic
import Proxxx.AlertDedup

namespace Proxxx.Alerts

open StepSystem List

section Offline

/-- One call of `evaluate`. -/
structure EngineTick where
  now : UInt64
  rules : List AlertRuleConfig
  snap : ClusterSnapshot

variable (percent : UInt64 → UInt64 → Nat) (ticks : Nat → EngineTick)

/-- The state in front of a tick. -/
def engineAt : Nat → EngineState
  | 0 => fun _ => none
  | k + 1 =>
    (evaluate percent (ticks k).rules (ticks k).snap (engineAt k) (ticks k).now).2

/-- At a tick the rule emits an event for the node. -/
def EmitsOffline (rule : AlertRuleConfig) (name : String) (k : Nat) : Prop :=
  ∃ event ∈ rule.events percent (ticks k).snap (engineAt percent ticks (k + 1))
    (ticks k).now, event.target = "node:" ++ name

def SeenOnline (name : String) (k : Nat) : Prop :=
  ∃ entry ∈ (ticks k).snap.nodes, entry.node = name ∧ entry.status = .online

def SeenOffline (name : String) (k : Nat) : Prop :=
  ∃ entry ∈ (ticks k).snap.nodes, entry.node = name ∧ entry.status ≠ .online

/-- Among the ticks in front of `k`, the one at which the node was first seen
offline since it was last seen online. -/
structure OfflineFrom (name : String) (k j : Nat) : Prop where
  lt : j < k
  seen : SeenOffline ticks name j
  stays : ∀ i, j ≤ i → i < k → ¬ SeenOnline ticks name i
  first : ∀ i < j, SeenOffline ticks name i → ∃ m, i < m ∧ m < j ∧ SeenOnline ticks name m

variable {percent ticks} {state : EngineState} {nodes : List NodeEntry}
  {now : UInt64} {name : String}

theorem observe_cons (head : NodeEntry) (tail : List NodeEntry) : state.observe (head :: tail) now =
    EngineState.observe (Function.update state head.node (if head.status = .online then none
      else (state head.node).or (some now))) tail now := by
  obtain ⟨node, status⟩ := head
  cases status <;> rfl

theorem observe_of_notMem (hname : ∀ entry ∈ nodes, entry.node ≠ name) :
    state.observe nodes now name = state name := by
  induction nodes generalizing state with
  | nil => rfl
  | cons head tail ih =>
    obtain ⟨hhead, htail⟩ := forall_mem_cons.mp hname
    rw [observe_cons, ih htail, Function.update_of_ne hhead.symm]

/-- A node that the snapshot lists once is as it is listed. -/
theorem observe_of_mem {entry : NodeEntry} (hdistinct : (nodes.map (·.node)).Nodup)
    (hentry : entry ∈ nodes) :
    state.observe nodes now entry.node = if entry.status = .online then none
      else (state entry.node).or (some now) := by
  induction nodes generalizing state with
  | nil => cases hentry
  | cons head tail ih =>
    rw [map_cons, nodup_cons] at hdistinct
    rcases mem_cons.mp hentry with rfl | htail
    · have hother : ∀ other ∈ tail, other.node ≠ entry.node :=
        fun other hmem hsame => hdistinct.1 (hsame ▸ mem_map_of_mem hmem)
      rw [observe_cons, observe_of_notMem hother, Function.update_self]
    · have hne : entry.node ≠ head.node := fun hsame => hdistinct.1 (hsame ▸ mem_map_of_mem htail)
      rw [observe_cons, ih hdistinct.2 htail, Function.update_of_ne hne]

theorem OfflineFrom.unique {k j other : Nat} (hfrom : OfflineFrom ticks name k j)
    (hother : OfflineFrom ticks name k other) : j = other := by
  rcases Nat.lt_trichotomy j other with hlt | heq | hlt
  · obtain ⟨m, hjm, hm, honline⟩ := hother.first j hlt hfrom.seen
    exact absurd honline (hfrom.stays m (by omega) (by have := hother.lt; omega))
  · exact heq
  · obtain ⟨m, hjm, hm, honline⟩ := hfrom.first other hlt hother.seen
    exact absurd honline (hother.stays m (by omega) (by have := hfrom.lt; omega))

variable (hdistinct : ∀ k, ((ticks k).snap.nodes.map (·.node)).Nodup)
include hdistinct

theorem not_seenOnline_of_seenOffline {k : Nat}
    (hoffline : SeenOffline ticks name k) : ¬ SeenOnline ticks name k := by
  rintro ⟨entry, hentry, hname, honline⟩
  obtain ⟨other, hother, hsame, hstatus⟩ := hoffline
  obtain rfl := inj_on_of_nodup_map (hdistinct k) hother hentry (hsame.trans hname.symm)
  exact hstatus honline

/-- The state remembers since when a node has been offline. -/
theorem engineAt_spec (k : Nat) :
    (engineAt percent ticks k name = none ∧ ∀ i < k, SeenOffline ticks name i →
      ∃ m, i < m ∧ m < k ∧ SeenOnline ticks name m) ∨
    ∃ j, engineAt percent ticks k name = some (ticks j).now ∧ OfflineFrom ticks name k j := by
  induction k with
  | zero => exact .inl ⟨rfl, by simp⟩
  | succ k ih =>
    have hstep : engineAt percent ticks (k + 1) name =
        (engineAt percent ticks k).observe (ticks k).snap.nodes (ticks k).now
          name := rfl
    by_cases honline : SeenOnline ticks name k
    · obtain ⟨entry, hentry, rfl, hstatus⟩ := honline
      refine .inl ⟨?_, fun i hi hoffline => ?_⟩
      · rw [hstep, observe_of_mem (hdistinct k) hentry, if_pos hstatus]
      · have hseen : SeenOnline ticks entry.node k := ⟨entry, hentry, rfl, hstatus⟩
        have hne : i ≠ k := by
          rintro rfl
          exact not_seenOnline_of_seenOffline hdistinct hoffline hseen
        exact ⟨k, by omega, by omega, hseen⟩
    · have hlonger : ∀ j, OfflineFrom ticks name k j → OfflineFrom ticks name (k + 1) j := by
        rintro j ⟨hlt, hseen, hstays, hfirst⟩
        refine ⟨by omega, hseen, fun i hji hi => ?_, hfirst⟩
        rcases Nat.lt_succ_iff_lt_or_eq.mp hi with hlt | rfl
        · exact hstays i hji hlt
        · exact honline
      by_cases hoffline : SeenOffline ticks name k
      · have hself : engineAt percent ticks (k + 1) name =
            (engineAt percent ticks k name).or (some (ticks k).now) := by
          obtain ⟨entry, hentry, rfl, hstatus⟩ := hoffline
          rw [hstep, observe_of_mem (hdistinct k) hentry, if_neg hstatus]
        rcases ih with ⟨hnone, hcleared⟩ | ⟨j, hsome, hfrom⟩
        · refine .inr ⟨k, by rw [hself, hnone]; rfl, by omega, hoffline, ?_, hcleared⟩
          intro i hki hi
          obtain rfl : i = k := by omega
          exact honline
        · exact .inr ⟨j, by rw [hself, hsome]; rfl, hlonger j hfrom⟩
      · have hself : engineAt percent ticks (k + 1) name = engineAt percent ticks k name := by
          refine observe_of_notMem fun entry hentry hname => ?_
          by_cases hstatus : entry.status = .online
          · exact honline ⟨entry, hentry, hname, hstatus⟩
          · exact hoffline ⟨entry, hentry, hname, hstatus⟩
        rcases ih with ⟨hnone, hcleared⟩ | ⟨j, hsome, hfrom⟩
        · refine .inl ⟨hself.trans hnone, fun i hi hseen => ?_⟩
          have hne : i ≠ k := by
            rintro rfl
            exact hoffline hseen
          obtain ⟨m, him, hmk, honline⟩ := hcleared i (by omega) hseen
          exact ⟨m, him, by omega, honline⟩
        · exact .inr ⟨j, hself.trans hsome, hlonger j hfrom⟩

omit hdistinct

end Offline

section Pools

/-- What a node says of itself at a tick. -/
structure NodeReport where
  entry : NodeEntry
  pools : List StorageEntry
  replication : List ReplicationEntry

/-- Only nodes that are online are asked. -/
def snapshot (reports : List NodeReport) : ClusterSnapshot :=
  let online := reports.filter (·.entry.status == .online)
  { nodes := reports.map (·.entry), storage := online.flatMap (·.pools)
    replication := online.flatMap (·.replication) }

inductive PoolEvent where
  | tick (now : UInt64) (rules : List AlertRuleConfig)
      (reports : Except String (List NodeReport)) (saves : Bool)
  | restart

def PoolEvent.watch : PoolEvent → WatchEvent
  | .tick now rules reports saves => .tick now rules (reports.map snapshot) saves
  | .restart => .restart

variable (percent : UInt64 → UInt64 → Nat) (rule : AlertRuleConfig)
  (events : List PoolEvent)

/-- The rule is about the pool, and the pool is above its threshold. -/
def Over (pool : StorageEntry) : Prop :=
  (rule.storage = "" ∨ pool.storage = rule.storage) ∧ pool.total ≠ 0 ∧
    rule.thresholdPercent.toNat ≤ percent pool.used pool.total

def storageEvent (pool : StorageEntry) (now : UInt64) : AlertEvent where
  rule := rule.name
  severity := .parse rule.severity
  target := "storage:" ++ pool.storage
  summary := "storage " ++ pool.storage ++ " at " ++
    toString (percent pool.used pool.total) ++ "% (threshold " ++
    toString rule.thresholdPercent.toNat ++ ")"
  time := now

/-- At a tick of the run a node that is online has the pool, above the
threshold. -/
def OverAt (now : UInt64) (node : String) (pool : StorageEntry) : Prop :=
  ∃ rules reports saves, .tick now rules (.ok reports) saves ∈ events ∧
    ∃ report ∈ reports, report.entry.status = .online ∧
      report.entry.node = node ∧ pool ∈ report.pools ∧ Over percent rule pool

/-- The alert is one about this node's pool of the name. -/
def IsAbout (node name : String) (sent : Sent) : Prop :=
  ∃ pool, OverAt percent rule events sent.time node pool ∧
    pool.storage = name ∧ sent.event = storageEvent percent rule pool sent.time

variable {percent rule events}

theorem mem_events_storage (hwhen : rule.when = "storage_above")
    {reports : List NodeReport} {engine : EngineState} {now : UInt64}
    {event : AlertEvent} :
    event ∈ rule.events percent (snapshot reports) engine now ↔
      ∃ report ∈ reports, report.entry.status = .online ∧
        ∃ pool ∈ report.pools, Over percent rule pool ∧
          event = storageEvent percent rule pool now := by
  simp only [AlertRuleConfig.events, hwhen, snapshot, mem_filterMap, mem_flatMap, mem_filter,
    beq_iff_eq, Option.ite_none_left_eq_some, Option.ite_none_right_eq_some, Option.some.injEq]
  constructor
  · rintro ⟨pool, ⟨report, ⟨hreport, honline⟩, hpool⟩, hnamed, htotal, habove, rfl⟩
    exact ⟨report, hreport, honline, pool, hpool, ⟨by tauto, htotal, habove⟩, rfl⟩
  · rintro ⟨report, hreport, honline, pool, hpool, ⟨hnamed, htotal, habove⟩, rfl⟩
    exact ⟨pool, ⟨report, ⟨hreport, honline⟩, hpool⟩, by tauto, htotal, habove, rfl⟩

/-- A time in the cache is that of a send. -/
def Backed (dedup : DedupCache) (log : List Sent) : Prop :=
  ∀ key last, dedup key = some last →
    ∃ sent ∈ log, (sent.event.rule, sent.event.target) = key ∧ sent.time = last

/-- What one event adds to the log, and what the log then has for it. -/
structure Dispatched (rules : List AlertRuleConfig) (now : UInt64)
    (events : List AlertEvent) (log later : List Sent) : Prop where
  keeps : log ⊆ later
  adds : ∀ sent ∈ later, sent ∈ log ∨ sent.event ∈ events ∧ sent.time = now ∧
    rules.find? (·.name == sent.event.rule) = some sent.rule ∧
    sent.channels = sent.rule.route.filterMap parseRoute
  answers : ∀ event ∈ events, ∀ rule, rules.find? (·.name == event.rule) = some rule →
    ∃ sent ∈ later, (sent.event.rule, sent.event.target) =
      (event.rule, event.target) ∧
      (sent.time = now ∨ now.toNat - sent.time.toNat < rule.dedupSecs.toNat)

variable {rules : List AlertRuleConfig} {now : UInt64} {dedup : DedupCache}
  {log : List Sent}

theorem dispatched_one (hbacked : Backed dedup log) (event : AlertEvent) :
    Backed (dispatch rules now (dedup, log) event).1 (dispatch rules now (dedup, log) event).2 ∧
      Dispatched rules now [event] log (dispatch rules now (dedup, log) event).2 := by
  cases hfind : rules.find? (·.name == event.rule) with
  | none =>
    simp only [dispatch, hfind]
    exact ⟨hbacked, fun _ h => h, fun _ h => .inl h, by simp [hfind]⟩
  | some rule =>
    simp only [dispatch, hfind]
    split
    next next hallow =>
      -- A send of the same rule and target is recent enough.
      rw [allow_false_eq hallow]
      refine ⟨hbacked, fun _ h => h, fun _ h => .inl h, ?_⟩
      simp only [mem_singleton, forall_eq, hfind, Option.some.injEq]
      rintro _ rfl
      unfold DedupCache.allow at hallow
      split at hallow
      · rename_i last hlast
        obtain ⟨sent, hsent, hkey, rfl⟩ := hbacked _ _ hlast
        split at hallow
        · exact ⟨sent, hsent, hkey, .inr (by assumption)⟩
        · cases hallow
      · cases hallow
    next next hallow =>
      rw [allow_true_eq hallow]
      refine ⟨fun key last hlast => ?_, subset_append_left _ _, ?_, ?_⟩
      · dsimp only at hlast ⊢
        by_cases hkey : key = (event.rule, event.target)
        · rw [hkey, Function.update_self] at hlast
          cases hlast
          exact ⟨_, mem_append_right _ (mem_singleton_self _), hkey.symm, rfl⟩
        · rw [Function.update_of_ne hkey] at hlast
          obtain ⟨sent, hsent, hold⟩ := hbacked key last hlast
          exact ⟨sent, mem_append_left _ hsent, hold⟩
      · intro sent hsent
        rcases mem_append.mp hsent with hold | hnew
        · exact .inl hold
        · obtain rfl := mem_singleton.mp hnew
          exact .inr ⟨mem_singleton_self _, rfl, hfind, rfl⟩
      · simp only [mem_singleton, forall_eq, hfind, Option.some.injEq]
        rintro _ rfl
        exact ⟨_, mem_append_right _ (mem_singleton_self _), rfl, .inl rfl⟩

theorem dispatched_all (hbacked : Backed dedup log) (events : List AlertEvent) :
    Backed (events.foldl (dispatch rules now) (dedup, log)).1
        (events.foldl (dispatch rules now) (dedup, log)).2 ∧
      Dispatched rules now events log (events.foldl (dispatch rules now) (dedup, log)).2 := by
  induction events generalizing dedup log with
  | nil => exact ⟨hbacked, fun _ h => h, fun _ h => .inl h, by simp⟩
  | cons event rest ih =>
    obtain ⟨hnext, hone⟩ := @dispatched_one rules now dedup log hbacked event
    obtain ⟨hfinal, hrest⟩ := ih hnext
    refine ⟨hfinal, fun _ h => hrest.keeps (hone.keeps h), fun sent hsent => ?_, ?_⟩
    · rcases hrest.adds sent hsent with hmiddle | ⟨hevent, hadded⟩
      · rcases hone.adds sent hmiddle with hold | ⟨hevent, hadded⟩
        · exact .inl hold
        · exact .inr ⟨mem_cons.mpr (.inl (mem_singleton.mp hevent)), hadded⟩
      · exact .inr ⟨mem_cons_of_mem event hevent, hadded⟩
    · refine forall_mem_cons.mpr ⟨fun rule hrule => ?_, hrest.answers⟩
      obtain ⟨sent, hsent, hanswer⟩ := hone.answers event (mem_singleton_self _) rule hrule
      exact ⟨sent, hrest.keeps hsent, hanswer⟩

theorem rule_of_mem_events {snap : ClusterSnapshot} {engine : EngineState}
    {event : AlertEvent} (hevent : event ∈ rule.events percent snap engine now) :
    event.rule = rule.name := by
  unfold AlertRuleConfig.events at hevent
  dsimp only at hevent
  split at hevent
  · obtain ⟨entry, -, hevent⟩ := mem_filterMap.mp hevent
    obtain ⟨since, -, hevent⟩ := Option.bind_eq_some_iff.mp hevent
    split at hevent <;> cases hevent
    rfl
  · obtain ⟨entry, -, hevent⟩ := mem_filterMap.mp hevent
    repeat' split at hevent
    all_goals cases hevent
    rfl
  · obtain ⟨entry, -, hevent⟩ := mem_filterMap.mp hevent
    split at hevent <;> cases hevent
    rfl
  · cases hevent

variable (percent rule events) in
/-- The daemon in a run: every send of the rule is about some node's pool. -/
structure Sourced (state : WatchState) : Prop where
  backed : Backed state.dedup state.log
  disk : state.saved = true → loadAlertDedup state.disk = state.dedup
  about : ∀ sent ∈ state.log, sent.event.rule = rule.name →
    sent.channels = rule.route.filterMap parseRoute ∧
      ∃ node pool, OverAt percent rule events sent.time node pool ∧
        sent.event = storageEvent percent rule pool sent.time

section Run

variable (hwhen : rule.when = "storage_above")
  (hrules : ∀ now rules reports saves, .tick now rules reports saves ∈ events →
    rule ∈ rules ∧ (rules.map (·.name)).Nodup)
include hwhen hrules

variable {state : WatchState}

theorem Sourced.processed {reports : List NodeReport}
    {saves : Bool} (hstate : Sourced percent rule events state)
    (htick : .tick now rules (.ok reports) saves ∈ events) :
    Sourced percent rule events (state.processed percent now rules (snapshot reports) saves) ∧
      Dispatched rules now (evaluate percent rules (snapshot reports) state.engine now).1 state.log
        (state.processed percent now rules (snapshot reports) saves).log := by
  obtain ⟨hbacked, hlog⟩ := @dispatched_all rules now _ _ hstate.backed
    (evaluate percent rules (snapshot reports) state.engine now).1
  refine ⟨⟨fun key last hlast => ?_, fun hsaved => ?_, fun sent hsent hname => ?_⟩, hlog⟩
  · exact hbacked key last (Option.filter_eq_some_iff.mp hlast).1
  · obtain rfl : saves = true := hsaved
    exact loadAlertDedup_saveAlertDedup _
  · obtain ⟨hrule, hdistinct⟩ := hrules _ _ _ _ htick
    rcases hlog.adds sent hsent with hold | ⟨hevent, rfl, hfind, hchannels⟩
    · exact hstate.about sent hold hname
    · have hsame : ∀ other ∈ rules, other.name = rule.name → other = rule :=
        fun other hother => inj_on_of_nodup_map hdistinct hother hrule
      have hfound := List.find?_some hfind
      rw [beq_iff_eq, hname] at hfound
      rw [hsame _ (List.mem_of_find?_eq_some hfind) hfound] at hchannels
      refine ⟨hchannels, ?_⟩
      obtain ⟨other, hother, hmem⟩ := mem_flatMap.mp hevent
      obtain rfl := hsame other hother ((rule_of_mem_events hmem).symm.trans hname)
      obtain ⟨report, hreport, honline, pool, hpool, hover, hmade⟩ :=
        (mem_events_storage hwhen).mp hmem
      exact ⟨_, pool, ⟨_, _, _, htick, report, hreport, honline, rfl, hpool, hover⟩, hmade⟩

theorem Sourced.step {next : WatchState} {event : PoolEvent}
    (hevent : event ∈ events) (hstep : state.step percent event.watch = some next)
    (hstate : Sourced percent rule events state) :
    Sourced percent rule events next := by
  cases event with
  | tick now rules reports saves =>
    simp only [PoolEvent.watch, WatchState.step] at hstep
    split at hstep
    · cases hstep
    · cases reports with
      | error text =>
        cases hstep
        exact ⟨hstate.backed, hstate.disk, hstate.about⟩
      | ok reports =>
        cases rules with
        | nil => cases (hrules _ _ _ _ hevent).1
        | cons first others =>
          cases hstep
          exact (hstate.processed hwhen hrules hevent).1
  | restart =>
    simp only [PoolEvent.watch, WatchState.step] at hstep
    split at hstep
    · rename_i hsaved
      cases hstep
      have hload := hstate.disk hsaved
      exact ⟨by simpa only [hload] using hstate.backed, fun _ => rfl, hstate.about⟩
    · cases hstep

theorem Sourced.run {last : WatchState} {front : List PoolEvent} (hfront : front ⊆ events)
    (hrun : runFrom (WatchState.step percent) state (front.map PoolEvent.watch) =
      some last) (hstate : Sourced percent rule events state) :
    Sourced percent rule events last := by
  induction front generalizing state with
  | nil =>
    cases hrun
    exact hstate
  | cons event rest ih =>
    obtain ⟨next, hstep, hrest⟩ := runFrom_cons_eq_some.mp hrun
    obtain ⟨hevent, hmore⟩ := cons_subset.mp hfront
    exact ih hmore hrest (hstate.step hwhen hrules hevent hstep)

end Run

/-- If in a run no two nodes have a pool of one name above the threshold, every
pool above it is reported at that tick or was within the rule's window. -/
theorem pools_reported_of_one_owner (hwhen : rule.when = "storage_above")
    (hroute : rule.route.filterMap parseRoute ≠ [])
    (hrules : ∀ now rules reports saves, .tick now rules reports saves ∈ events →
      rule ∈ rules ∧ (rules.map (·.name)).Nodup)
    (howner : ∀ now node pool now' node' pool', OverAt percent rule events now node pool →
        OverAt percent rule events now' node' pool' → pool.storage = pool'.storage → node = node')
    {front : List PoolEvent} {reports : List NodeReport} {saves : Bool}
    (hevents : events = front ++ [.tick now rules (.ok reports) saves])
    {last : WatchState}
    (hrun : runFrom (WatchState.step percent) (.start fun _ => none)
      (events.map PoolEvent.watch) = some last)
    {report : NodeReport} (hreport : report ∈ reports)
    (honline : report.entry.status = .online) {pool : StorageEntry}
    (hpool : pool ∈ report.pools) (hover : Over percent rule pool) :
    ∃ sent ∈ last.log, IsAbout percent rule events report.entry.node pool.storage sent ∧
        sent.channels ≠ [] ∧ sent.time.toNat ≤ now.toNat ∧
        (sent.time = now ∨ now.toNat - sent.time.toNat < rule.dedupSecs.toNat) := by
  have htick : .tick now rules (.ok reports) saves ∈ events := by simp [hevents]
  obtain ⟨hrule, hdistinct⟩ := hrules _ _ _ _ htick
  have hkeeps : last.Keeps 0 := invariant_of_step
    (fun hstep hkeeps => keeps_step (Nat.zero_le _) hstep hkeeps) (keeps_start _) hrun
  rw [hevents, map_append, runFrom_append_eq_some] at hrun
  obtain ⟨middle, hfront, htail⟩ := hrun
  have hstart : Sourced percent rule events (.start fun _ => none) :=
    ⟨by simp [Backed, WatchState.start, loadAlertDedup], fun _ => rfl, by simp [WatchState.start]⟩
  have hmiddle : Sourced percent rule events middle :=
    Sourced.run hwhen hrules (hevents ▸ subset_append_left _ _) hfront hstart
  obtain ⟨next, hstep, hdone⟩ := runFrom_cons_eq_some.mp htail
  obtain rfl : next = last := Option.some.inj hdone
  have hprocessed : middle.processed percent now rules (snapshot reports) saves = next := by
    cases rules with
    | nil => cases hrule
    | cons first others =>
      simp only [PoolEvent.watch, WatchState.step] at hstep
      split at hstep
      · cases hstep
      · exact Option.some.inj hstep
  subst hprocessed
  obtain ⟨hlast, hlog⟩ := hmiddle.processed hwhen hrules htick
  have hmade : storageEvent percent rule pool now ∈
      (evaluate percent rules (snapshot reports) middle.engine now).1 :=
    mem_flatMap.mpr ⟨rule, hrule, (mem_events_storage hwhen).mpr
      ⟨report, hreport, honline, pool, hpool, hover, rfl⟩⟩
  have hfind : rules.find? (·.name == rule.name) = some rule := by
    cases hfound : rules.find? (·.name == rule.name) with
    | none => simpa using List.find?_eq_none.mp hfound rule hrule
    | some other =>
      rw [inj_on_of_nodup_map hdistinct (List.mem_of_find?_eq_some hfound) hrule
        (by simpa using List.find?_some hfound)]
  obtain ⟨sent, hsent, hkey, hrecent⟩ := hlog.answers _ hmade rule hfind
  obtain ⟨hname, htarget⟩ := Prod.mk.inj hkey
  obtain ⟨hchannels, node, source, hsource, hevent⟩ := hlast.about sent hsent hname
  have hstorage : source.storage = pool.storage := by
    rw [hevent] at htarget
    exact String.append_right_inj _ |>.mp htarget
  obtain rfl := howner _ _ _ _ _ _ hsource
    ⟨_, _, _, htick, report, hreport, honline, rfl, hpool, hover⟩ hstorage
  exact ⟨sent, hsent, ⟨source, hsource, hstorage, hevent⟩, by rwa [hchannels],
    (hkeeps.covers sent hsent).1, hrecent⟩

/-- A rule for pools that are nearly full. -/
def fullRule : AlertRuleConfig :=
  { offlineRule 600 with name := "full", when := "storage_above" }

/-- A node that is online and has one pool, of the given size in percent. -/
def localReport (node : String) (used : UInt64) : NodeReport :=
  ⟨⟨node, .online⟩, [⟨"local", used, 100⟩], []⟩

def localTick (reports : List NodeReport) : PoolEvent :=
  .tick 60 [fullRule] (.ok reports) true

theorem overAt_localTick {reports : List NodeReport} {now : UInt64} {node : String}
    {pool : StorageEntry} (hover : OverAt (fun used _ => used.toNat) fullRule
      [localTick reports] now node pool) :
    ∃ report ∈ reports, report.entry.node = node ∧ pool ∈ report.pools := by
  obtain ⟨_, _, _, htick, report, hreport, -, hnode, hpool, -⟩ := hover
  cases mem_singleton.mp htick
  exact ⟨report, hreport, hnode, hpool⟩

/-- Two nodes have a pool of one name above the threshold: the second one is not
reported. -/
theorem second_local_unreported : ∃ last, runFrom (WatchState.step fun used _ => used.toNat)
      (.start fun _ => none)
      [(localTick [localReport "pve1" 95, localReport "pve2" 97]).watch] = some last ∧
    last.log.map (·.event.summary) = ["storage local at 95% (threshold 90)"] ∧
    ¬∃ sent ∈ last.log, IsAbout (fun used _ => used.toNat) fullRule
      [localTick [localReport "pve1" 95, localReport "pve2" 97]] "pve2" "local"
      sent := by
  have hlog : ∀ last, last = WatchState.processed (fun used _ => used.toNat)
      (.start fun _ => none) 60 [fullRule]
      (snapshot [localReport "pve1" 95, localReport "pve2" 97]) true →
      last.log.map (·.event.summary) = ["storage local at 95% (threshold 90)"] := by
    rintro _ rfl
    decide +kernel
  refine ⟨_, rfl, hlog _ rfl, ?_⟩
  rintro ⟨sent, hsent, pool, hover, -, hevent⟩
  have hfirst := mem_map_of_mem (f := (·.event.summary)) hsent
  obtain ⟨report, hreport, hnode, hpool⟩ := overAt_localTick hover
  obtain rfl : pool = ⟨"local", 97, 100⟩ := by
    simp only [mem_cons, not_mem_nil, or_false] at hreport
    rcases hreport with rfl | rfl
    · exact absurd hnode (by decide)
    · exact mem_singleton.mp hpool
  have hsummary : sent.event.summary = (storageEvent (fun used _ => used.toNat)
      fullRule ⟨"local", 97, 100⟩ 60).summary := by
    rw [hevent]
    rfl
  rw [hlog _ rfl, hsummary] at hfirst
  exact absurd hfirst (by decide +kernel)

theorem one_local_reported : ∃ last, runFrom (WatchState.step fun used _ => used.toNat)
      (.start fun _ => none) [(localTick [localReport "pve1" 95]).watch] = some last ∧
    ∃ sent ∈ last.log, IsAbout (fun used _ => used.toNat) fullRule
      [localTick [localReport "pve1" 95]] "pve1" "local" sent := by
  have hroute : parseRoute "telegram" = some .telegram := by decide +kernel
  refine ⟨_, rfl, ?_⟩
  obtain ⟨sent, hsent, habout, -⟩ := @pools_reported_of_one_owner
    (fun used _ => used.toNat) fullRule [localTick [localReport "pve1" 95]]
    [fullRule] 60 rfl (by simp [fullRule, offlineRule, hroute])
    (fun _ _ _ _ htick => by
      cases mem_singleton.mp htick
      exact ⟨mem_singleton_self _, nodup_singleton _⟩)
    (fun _ _ _ _ _ _ hover hover' _ => by
      obtain ⟨_, hreport, rfl, -⟩ := overAt_localTick hover
      obtain ⟨_, hreport', rfl, -⟩ := overAt_localTick hover'
      rw [mem_singleton.mp hreport, mem_singleton.mp hreport'])
    [] [localReport "pve1" 95] true rfl _ rfl _ (mem_singleton_self _) rfl
    ⟨"local", 95, 100⟩ (mem_singleton_self _)
    ⟨.inl rfl, by decide, by decide⟩
  exact ⟨sent, hsent, habout⟩

end Pools

end Proxxx.Alerts
