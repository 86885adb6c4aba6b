/-
Quorum: whatever the daemons, senders and prunings do to the shared store, a
request is carried out at most once, and only behind enough signed votes and no
deny.
-/
import Proxxx.HitlDaemons

namespace Proxxx

open StepSystem List

section Statements

variable (mac : Mac) (log : List Observation)

/-- A request was stored under the id. -/
def Known (id : String) : Prop :=
  ∃ profile request, .stored profile request ∈ log ∧ request.id = id

def DenyRecorded (id : String) : Prop :=
  ∃ entry ∈ log, entry.denies id = true

/-- A request was stored under the id, as many different approvers as it
requires voted for it before it expired, and no deny was recorded. -/
structure Justified (id : String) : Prop where
  votes : ∃ profile request, ∃ approvers : List Int,
    .stored profile request ∈ log ∧ request.id = id ∧ approvers.Nodup ∧
    max request.require 1 ≤ approvers.length ∧
    ∀ approver ∈ approvers, Vote mac log id request.expiresAt approver
  noDeny : ¬DenyRecorded log id

/-- How often the request was carried out. -/
def performances (id : String) : Nat :=
  log.countP (·.performs id)

/-- The row goes back to a stored request, and its approvers voted. -/
def Backed (row : PendingRequest) : Prop :=
  ∃ profile request, .stored profile request ∈ log ∧ request.id = row.id ∧
    request.require = row.require ∧ request.expiresAt = row.expiresAt ∧
    row.approvers.Nodup ∧
    ∀ approver ∈ row.approvers, Vote mac log row.id row.expiresAt approver

/-- What the log says about every id at every time. -/
structure LogSound : Prop where
  denials : ∀ id, DenyRecorded log id → Known log id
  once : ∀ id, performances log id ≤ 1
  justified : AtEach (fun before entry => ∀ id, entry.performs id = true →
    Justified mac before id) log

/-- Nothing was decided about the id. -/
structure Undecided (state : HitlState) (id : String) : Prop where
  noDeny : ¬DenyRecorded state.log id
  notPerformed : performances state.log id = 0
  notHeld : ∀ index config request, state.Holds index config request → request.id ≠ id

/-- The invariant of the system. -/
structure Sound (state : HitlState) : Prop where
  log : LogSound mac state.log
  rows : ∀ id row, state.table.row id = some row → Backed mac state.log row
  pending : ∀ id row, state.table.row id = some row → row.status = .pending → Undecided state id
  held : ∀ index config request, state.Holds index config request →
    Justified mac state.log request.id ∧ performances state.log request.id = 0
  alone : ∀ index config request other config' request',
    state.Holds index config request → state.Holds other config' request' →
    request.id = request'.id → index = other

end Statements

section Log

variable {mac : Mac} {log entries : List Observation} {id : String}
variable {entry : Observation}

theorem Observation.denies_of_quiet (hquiet : entry.quiet = true) : entry.denies id = false := by
  cases entry with
  | handled telegram callback now outcome =>
    cases outcome <;> simp_all [Observation.quiet, Observation.denies]
  | _ => rfl

theorem Observation.performs_of_quiet (hquiet : entry.quiet = true) :
    entry.performs id = false := by
  cases entry with
  | performed other cluster history => simp [Observation.quiet] at hquiet
  | _ => rfl

theorem Known.append (hknown : Known log id) : Known (log ++ entries) id := by
  obtain ⟨profile, request, hstored, hid⟩ := hknown
  exact ⟨profile, request, mem_append_left _ hstored, hid⟩

theorem Vote.append {expiresAt approver : Int} (hvote : Vote mac log id expiresAt approver) :
    Vote mac (log ++ entries) id expiresAt approver := by
  obtain ⟨telegram, callback, now, outcome, hmem, hrest⟩ := hvote
  exact ⟨telegram, callback, now, outcome, mem_append_left _ hmem, hrest⟩

theorem denyRecorded_append (hentries : ∀ entry ∈ entries, entry.denies id = false) :
    DenyRecorded (log ++ entries) id ↔ DenyRecorded log id := by
  constructor
  · rintro ⟨entry, hmem, hdenies⟩
    rcases mem_append.mp hmem with hold | hnew
    · exact ⟨entry, hold, hdenies⟩
    · simp [hentries entry hnew] at hdenies
  · rintro ⟨entry, hmem, hdenies⟩
    exact ⟨entry, mem_append_left _ hmem, hdenies⟩

theorem performances_append (hentries : ∀ entry ∈ entries, entry.performs id = false) :
    performances (log ++ entries) id = performances log id := by
  unfold performances
  rw [countP_append, Nat.add_eq_left, countP_eq_zero]
  intro entry hmem
  simp [hentries entry hmem]

theorem Justified.append (hjustified : Justified mac log id)
    (hentries : ∀ entry ∈ entries, entry.denies id = false) :
    Justified mac (log ++ entries) id := by
  obtain ⟨profile, request, approvers, hstored, hid, hnodup, hquorum, hvotes⟩ := hjustified.votes
  refine ⟨⟨profile, request, approvers, mem_append_left _ hstored, hid,
    hnodup, hquorum, fun approver hmem => (hvotes approver hmem).append⟩, ?_⟩
  rw [denyRecorded_append hentries]
  exact hjustified.noDeny

theorem Justified.known (hjustified : Justified mac log id) : Known log id := by
  obtain ⟨profile, request, approvers, hstored, hid, -⟩ := hjustified.votes
  exact ⟨profile, request, hstored, hid⟩

variable {row : PendingRequest}

theorem Backed.known (hbacked : Backed mac log row) : Known log row.id := by
  obtain ⟨profile, request, hstored, hid, -⟩ := hbacked
  exact ⟨profile, request, hstored, hid⟩

theorem nodup_addApprover {approvers : List Int} (approver : Int)
    (hnodup : approvers.Nodup) : (addApprover approvers approver).Nodup := by
  unfold addApprover
  split
  next => exact hnodup
  next hnew =>
    rw [← concat_eq_append]
    exact hnodup.concat (by simpa using hnew)

theorem mem_addApprover {approvers : List Int} {approver other : Int}
    (hmem : other ∈ addApprover approvers approver) :
    other ∈ approvers ∨ other = approver := by
  unfold addApprover at hmem
  split at hmem
  next => exact .inl hmem
  next => simpa using hmem

theorem Backed.change {before : PendingRequest} (hbacked : Backed mac log before)
    (hchange : RowChange mac (log ++ entries) before row) :
    Backed mac (log ++ entries) row := by
  obtain ⟨profile, request, hstored, hid, hrequire, hexpires, hnodup, hvotes⟩ := hbacked
  have hold : ∀ approver ∈ before.approvers,
      Vote mac (log ++ entries) row.id row.expiresAt approver := by
    intro approver hmem
    rw [hchange.id, hchange.expiresAt]
    exact (hvotes approver hmem).append
  refine ⟨profile, request, mem_append_left _ hstored,
    hid.trans hchange.id.symm, hrequire.trans hchange.require.symm,
    hexpires.trans hchange.expiresAt.symm, ?_⟩
  rcases hchange.approvers with hsame | ⟨approver, hadded, hvote⟩
  · rw [hsame]
    exact ⟨hnodup, hold⟩
  · rw [hadded]
    refine ⟨nodup_addApprover approver hnodup, fun other hmem => ?_⟩
    rcases mem_addApprover hmem with hmem | rfl
    · exact hold other hmem
    · exact hvote

/-- A backed row with enough approvers justifies its execution. -/
theorem Backed.justified (hbacked : Backed mac log row)
    (hquorum : max row.require 1 ≤ row.approvers.length)
    (hnoDeny : ¬DenyRecorded log row.id) : Justified mac log row.id := by
  obtain ⟨profile, request, hstored, hid, hrequire, hexpires, hnodup, hvotes⟩ := hbacked
  refine ⟨⟨profile, request, row.approvers, hstored, hid, hnodup, ?_, ?_⟩, hnoDeny⟩
  · rw [hrequire]
    exact hquorum
  · rw [hexpires]
    exact hvotes

/-- Entries that carry nothing out, and deny only known ids. -/
theorem LogSound.append (hsound : LogSound mac log)
    (hdenies : ∀ entry ∈ entries, ∀ id, entry.denies id = true → Known log id)
    (hperforms : ∀ entry ∈ entries, ∀ id, entry.performs id = false) :
    LogSound mac (log ++ entries) where
  denials id := by
    rintro ⟨entry, hmem, hentry⟩
    apply Known.append
    rcases mem_append.mp hmem with hold | hnew
    · exact hsound.denials id ⟨entry, hold, hentry⟩
    · exact hdenies entry hnew id hentry
  once id := by
    rw [performances_append fun entry hmem => hperforms entry hmem id]
    exact hsound.once id
  justified := by
    apply hsound.justified.append
    intro before entry hmem id hperformed
    simp [hperforms entry hmem id] at hperformed

theorem LogSound.concat_performed {cluster : String} {history : History}
    (hsound : LogSound mac log) (hjustified : Justified mac log id)
    (hfirst : performances log id = 0) :
    LogSound mac (log ++ [.performed id cluster history]) where
  denials other := by
    rw [denyRecorded_append (by simp [Observation.denies])]
    exact fun hdenied => (hsound.denials other hdenied).append
  once other := by
    by_cases hother : id = other
    · subst hother
      unfold performances at hfirst ⊢
      rw [countP_append, hfirst, Nat.zero_add]
      exact countP_le_length
    · rw [performances_append (by simp [Observation.performs, hother])]
      exact hsound.once other
  justified := by
    refine hsound.justified.concat fun other hperforms => ?_
    obtain rfl : id = other := by simpa [Observation.performs] using hperforms
    exact hjustified

theorem LogSound.known_of_performs (hsound : LogSound mac log)
    (hmem : entry ∈ log) (hperforms : entry.performs id = true) :
    Known log id := by
  obtain ⟨before, rest, rfl⟩ := append_of_mem hmem
  exact (hsound.justified before entry rest rfl id hperforms).known.append

theorem LogSound.performances_eq_zero (hsound : LogSound mac log)
    (hfresh : ¬Known log id) : performances log id = 0 := by
  rw [performances, countP_eq_zero]
  exact fun entry hmem hperforms => hfresh (hsound.known_of_performs hmem hperforms)

end Log

section Steps

variable {world : HitlWorld} {state next : HitlState} {event : HitlEvent}

theorem sound_start : Sound world.mac .start where
  log :=
    { denials := by simp [HitlState.start, DenyRecorded]
      once := by simp [HitlState.start, performances]
      justified := atEach_nil }
  rows := by simp [HitlState.start, PendingTable.empty]
  pending := by simp [HitlState.start, PendingTable.empty]
  held := by simp [HitlState.start, HitlState.Holds]
  alone := by simp [HitlState.start, HitlState.Holds]

variable {entries : List Observation} {id : String}

/-- An id stays undecided over entries that are not about it. -/
theorem Undecided.mono (hundecided : Undecided state id) (hlog : next.log = state.log ++ entries)
    (hdenies : ∀ entry ∈ entries, entry.denies id = false)
    (hperforms : ∀ entry ∈ entries, entry.performs id = false)
    (hheld : ∀ index config request, next.Holds index config request →
      request.id = id → state.Holds index config request) :
    Undecided next id where
  noDeny := by
    rw [hlog, denyRecorded_append hdenies]
    exact hundecided.noDeny
  notPerformed := by
    rw [hlog, performances_append hperforms]
    exact hundecided.notPerformed
  notHeld index config request hholds hid := hundecided.notHeld index config request
      (hheld index config request hholds hid) hid

/-- Before an event a sender stores under an id, the id is new. -/
def FreshId (state : HitlState) : HitlEvent → Prop
  | .insert _ id _ _ => ¬Known state.log id
  | _ => True

theorem Sound.rows_change (hsound : Sound world.mac state) (hlog : next.log = state.log ++ entries)
    (hrows : RowsFrom world.mac next.log state.table next.table) :
    ∀ id row, next.table.row id = some row → Backed world.mac next.log row := by
  intro id row hrow
  obtain ⟨before, hbefore, hchange⟩ := hrows id row hrow
  rw [hlog] at hchange ⊢
  exact (hsound.rows id before hbefore).change hchange

variable {request : PendingRequest} {config : DaemonConfig}

/-- A held request stays justified over entries that are not about it. -/
theorem Sound.held_append {index : Nat} (hsound : Sound world.mac state)
    (hlog : next.log = state.log ++ entries)
    (hholds : state.Holds index config request)
    (hdenies : ∀ entry ∈ entries, entry.denies request.id = false)
    (hperforms : ∀ entry ∈ entries, entry.performs request.id = false) :
    Justified world.mac next.log request.id ∧ performances next.log request.id = 0 := by
  obtain ⟨hjustified, hfirst⟩ := hsound.held index config request hholds
  rw [hlog, performances_append hperforms]
  exact ⟨hjustified.append hdenies, hfirst⟩

/-- No daemon takes a request and nothing is carried out, and a request that is
denied was undecided. -/
theorem Sound.extend (hsound : Sound world.mac state) (hlog : next.log = state.log ++ entries)
    (hperforms : ∀ entry ∈ entries, ∀ id, entry.performs id = false)
    (hdenies : ∀ entry ∈ entries, ∀ id, entry.denies id = true →
      Known state.log id ∧ Undecided state id)
    (hrows : ∀ id row, next.table.row id = some row → Backed world.mac next.log row)
    (hpending : ∀ id row, next.table.row id = some row → row.status = .pending →
      Undecided state id ∧ ∀ entry ∈ entries, entry.denies id = false)
    (hheld : ∀ index config request, next.Holds index config request →
      state.Holds index config request) :
    Sound world.mac next where
  log := by
    rw [hlog]
    exact hsound.log.append (fun entry hmem id hentry => (hdenies entry hmem id hentry).1) hperforms
  rows := hrows
  pending id row hrow hstatus := by
    obtain ⟨hundecided, hother⟩ := hpending id row hrow hstatus
    exact hundecided.mono hlog hother (fun entry hmem => hperforms entry hmem id)
      fun _ _ _ hholds _ => hheld _ _ _ hholds
  held index config request hholds := by
    have hbefore := hheld _ _ _ hholds
    refine hsound.held_append hlog hbefore (fun entry hmem => ?_) fun entry hmem =>
      hperforms entry hmem _
    refine Bool.eq_false_iff.mpr fun hdenied => ?_
    exact (hdenies entry hmem _ hdenied).2.notHeld _ _ _ hbefore rfl
  alone _ _ _ _ _ _ hone htwo :=
    hsound.alone _ _ _ _ _ _ (hheld _ _ _ hone) (hheld _ _ _ htwo)

theorem Sound.quiet (hsound : Sound world.mac state) (hlog : next.log = state.log ++ entries)
    (hentries : ∀ entry ∈ entries, entry.quiet = true)
    (hrows : RowsFrom world.mac next.log state.table next.table)
    (hheld : ∀ index config request, next.Holds index config request →
      state.Holds index config request) :
    Sound world.mac next := by
  have hdenies : ∀ id, ∀ entry ∈ entries, entry.denies id = false :=
    fun id entry hmem => Observation.denies_of_quiet (hentries entry hmem)
  refine hsound.extend hlog (fun entry hmem id => Observation.performs_of_quiet (hentries entry hmem))
    ?_ (hsound.rows_change hlog hrows) ?_ hheld
  · intro entry hmem id hentry
    simp [hdenies id entry hmem] at hentry
  · intro id row hrow hpending
    obtain ⟨before, hbefore, hchange⟩ := hrows id row hrow
    exact ⟨hsound.pending id before hbefore (hchange.pending hpending), hdenies id⟩

variable {now : Int}

theorem insertAt_eq_some {table after : PendingTable} {new : NewPendingRequest}
    (hinsert : table.insertAt id new now = some (request, after)) :
    request.id = id ∧ request.approvers = [] ∧ ∀ other row, after.row other = some row →
        table.row other = some row ∨ row = request ∧ other = id := by
  unfold PendingTable.insertAt at hinsert
  split at hinsert
  · simp at hinsert
  cases hinsert
  refine ⟨rfl, rfl, fun other row hrow => ?_⟩
  dsimp only at hrow
  split at hrow
  next hother => exact .inr ⟨(Option.some.inj hrow).symm, hother⟩
  next => exact .inl hrow

/-- A request is stored under a new id: nothing is decided about it. -/
theorem Sound.stored {profile : String} {new : NewPendingRequest}
    (hsound : Sound world.mac state) (hfresh : ¬Known state.log id)
    (hinsert : state.table.insertAt id new now = some (request, next.table))
    (hlog : next.log = state.log ++ [.stored profile request])
    (hdaemons : next.daemons = state.daemons) : Sound world.mac next := by
  have hheld : ∀ index config request, next.Holds index config request →
      state.Holds index config request := by
    unfold HitlState.Holds
    rw [hdaemons]
    exact fun _ _ _ hholds => hholds
  obtain ⟨hid, hnone, hrows⟩ := insertAt_eq_some hinsert
  have hnew : Undecided state id := by
    constructor
    · exact fun hdenied => hfresh (hsound.log.denials id hdenied)
    · exact hsound.log.performances_eq_zero hfresh
    · rintro index config held hholds rfl
      exact hfresh (hsound.held _ _ _ hholds).1.known
  refine hsound.extend hlog (by simp [Observation.performs]) (by simp [Observation.denies]) ?_ ?_
    hheld
  · intro other row hrow
    rw [hlog]
    rcases hrows other row hrow with hold | ⟨rfl, rfl⟩
    · exact (hsound.rows other row hold).change (.refl row)
    · exact ⟨profile, row, by simp, rfl, rfl, rfl, by simp [hnone]⟩
  · intro other row hrow hpending
    refine ⟨?_, by simp [Observation.denies]⟩
    rcases hrows other row hrow with hold | ⟨rfl, rfl⟩
    · exact hsound.pending other row hold hpending
    · exact hnew

section Decided

variable {callback : CallbackQuery} {before : PendingRequest} (hsound : Sound world.mac state)
  (hrow : state.table.row request.id = some before) (hpending : before.status = .pending)
  (hrows : RowsFrom world.mac next.log state.table next.table)
  (hafter : next.table.row request.id = some request)
include hsound hrows hafter

/-- A row that is still pending is another one, and was pending before. -/
theorem Sound.pending_other {row : PendingRequest} (hstatus : request.status ≠ .pending)
    (hother : next.table.row id = some row) (hpending : row.status = .pending) :
    request.id ≠ id ∧ Undecided state id := by
  constructor
  · rintro rfl
    obtain rfl := Option.some.inj (hafter.symm.trans hother)
    exact hstatus hpending
  · obtain ⟨source, hsource, hchange⟩ := hrows id row hother
    exact hsound.pending id source hsource (hchange.pending hpending)

include hrow hpending

/-- A deny is recorded: the row was pending, so no daemon held the request. -/
theorem Sound.denied {telegram : TelegramGateway}
    (hlog : next.log = state.log ++ [.handled telegram callback now (.denied request)])
    (hstatus : request.status = .denied)
    (hheld : ∀ index config held, next.Holds index config held → state.Holds index config held) :
    Sound world.mac next := by
  have hundecided := hsound.pending request.id before hrow hpending
  have hid : before.id = request.id := state.table.row_id hrow
  refine hsound.extend hlog (by simp [Observation.performs]) ?_ (hsound.rows_change hlog hrows) ?_
    hheld
  · intro entry hmem id hentry
    obtain rfl := mem_singleton.mp hmem
    obtain rfl : request.id = id := by simpa [Observation.denies] using hentry
    exact ⟨hid ▸ (hsound.rows _ before hrow).known, hundecided⟩
  · intro id row hother hpending'
    obtain ⟨hne, hbefore⟩ := hsound.pending_other hrows hafter (by simp [hstatus]) hother hpending'
    exact ⟨hbefore, by simpa [Observation.denies] using hne⟩

/-- A quorum is complete: the row was pending, so the daemon is the first to
hold the request. -/
theorem Sound.approved {index : Nat}
    (hlog : next.log = state.log ++ [.handled config.telegram callback now (.approved request)])
    (hstatus : request.status = .approved)
    (hquorum : max request.require 1 ≤ request.approvers.length)
    (hheld : ∀ other config' held, next.Holds other config' held → state.Holds other config' held ∨
        other = index ∧ config' = config ∧ held = request) :
    Sound world.mac next := by
  have hundecided := hsound.pending request.id before hrow hpending
  have hdenies : ∀ id, ∀ entry ∈ [Observation.handled config.telegram callback
      now (.approved request)], entry.denies id = false := by simp [Observation.denies]
  have hperforms : ∀ id, ∀ entry ∈ [Observation.handled config.telegram
      callback now (.approved request)], entry.performs id = false := by simp [Observation.performs]
  have hbacked := hsound.rows_change hlog hrows
  constructor
  · rw [hlog]
    apply hsound.log.append
    · intro entry hmem id hentry
      simp [hdenies id entry hmem] at hentry
    · exact fun entry hmem id => hperforms id entry hmem
  · exact hbacked
  · intro id row hother hpending'
    obtain ⟨hne, hbefore⟩ := hsound.pending_other hrows hafter (by simp [hstatus]) hother hpending'
    refine hbefore.mono hlog (hdenies id) (hperforms id) fun _ _ held hholds hid => ?_
    rcases hheld _ _ _ hholds with hold | ⟨rfl, rfl, rfl⟩
    · exact hold
    · exact absurd hid hne
  · intro other config' held hholds
    rcases hheld _ _ _ hholds with hold | ⟨rfl, rfl, rfl⟩
    · exact hsound.held_append hlog hold (hdenies _) (hperforms _)
    · constructor
      · apply (hbacked _ _ hafter).justified hquorum
        rw [hlog, denyRecorded_append (hdenies _)]
        exact hundecided.noDeny
      · rw [hlog, performances_append (hperforms _)]
        exact hundecided.notPerformed
  · intro one config₁ held₁ two config₂ held₂ hone htwo hid
    rcases hheld _ _ _ hone with hone | ⟨rfl, rfl, rfl⟩
    · rcases hheld _ _ _ htwo with htwo | ⟨rfl, rfl, rfl⟩
      · exact hsound.alone _ _ _ _ _ _ hone htwo hid
      · exact absurd hid (hundecided.notHeld _ _ _ hone)
    · rcases hheld _ _ _ htwo with htwo | ⟨rfl, rfl, rfl⟩
      · exact absurd hid.symm (hundecided.notHeld _ _ _ htwo)
      · rfl

end Decided

/-- A request is carried out: no other daemon holds it, and its row is no
longer pending. -/
theorem Sound.performed {index : Nat} {cluster : String} {history : History}
    (hsound : Sound world.mac state)
    (hholder : state.Holds index config request)
    (hlog : next.log = state.log ++ [.performed request.id cluster history])
    (htable : next.table = state.table)
    (hheld : ∀ other config' held, next.Holds other config' held →
      state.Holds other config' held ∧ other ≠ index) :
    Sound world.mac next := by
  obtain ⟨hjustified, hfirst⟩ := hsound.held _ _ _ hholder
  have hdenies : ∀ id, ∀ entry ∈ [Observation.performed request.id cluster history],
      entry.denies id = false := by simp [Observation.denies]
  have hperforms : ∀ id, request.id ≠ id → ∀ entry ∈
      [Observation.performed request.id cluster history],
      entry.performs id = false := by
    intro id hother
    simpa [Observation.performs] using hother
  constructor
  · rw [hlog]
    exact hsound.log.concat_performed hjustified hfirst
  · apply hsound.rows_change hlog
    rw [htable]
    exact rowsFrom_refl
  · intro id row hrow hpending
    rw [htable] at hrow
    have hundecided := hsound.pending id row hrow hpending
    exact hundecided.mono hlog (hdenies id) (hperforms id (hundecided.notHeld _ _ _ hholder))
      fun _ _ _ hholds _ => (hheld _ _ _ hholds).1
  · intro other config' held hholds
    obtain ⟨hbefore, hother⟩ := hheld _ _ _ hholds
    apply hsound.held_append hlog hbefore (hdenies _)
    apply hperforms
    exact fun hid => hother (hsound.alone _ _ _ _ _ _ hbefore hholder hid.symm)
  · intro one config₁ held₁ two config₂ held₂ hone htwo
    exact hsound.alone _ _ _ _ _ _ (hheld _ _ _ hone).1 (hheld _ _ _ htwo).1

theorem sound_step (hfresh : FreshId state event) (hstep : hitlStep world state event = some next)
    (hsound : Sound world.mac state) : Sound world.mac next := by
  cases hitlStep_change hstep with
  | quiet event entries hlog hentries hrows hheld => exact hsound.quiet hlog hentries hrows hheld
  | stored profile id new now request hinsert hlog hdaemons =>
    exact hsound.stored hfresh hinsert hlog hdaemons
  | denied _ _ _ _ _ _ hrow hpending hlog hrows hafter hstatus hheld =>
    exact hsound.denied hrow hpending hrows hafter hlog hstatus hheld
  | approved _ _ _ _ _ _ _ _ _ _ hrow hpending hlog hrows hafter hstatus hquorum hheld =>
    exact hsound.approved hrow hpending hrows hafter hlog hstatus hquorum hheld
  | performed event index config request history hholder hlog htable hheld =>
    exact hsound.performed hholder hlog htable hheld

/-- Only an insert makes an id known. -/
theorem known_of_step (hstep : hitlStep world state event = some next)
    (hknown : Known next.log id) :
    Known state.log id ∨ id ∈ insertedIds [event] := by
  obtain ⟨profile, stored, hmem, hid⟩ := hknown
  have hold : ∀ entries, next.log = state.log ++ entries →
      .stored profile stored ∉ entries → Known state.log id := by
    intro entries hlog hnew
    rw [hlog, mem_append] at hmem
    exact ⟨profile, stored, hmem.resolve_right hnew, hid⟩
  cases hitlStep_change hstep with
  | quiet event entries hlog hentries hrows hheld =>
    refine .inl (hold entries hlog fun hnew => ?_)
    simpa [Observation.quiet] using hentries _ hnew
  | stored profile' id' new now request hinsert hlog hdaemons =>
    rw [hlog, mem_append] at hmem
    rcases hmem with hmem | hmem
    · exact .inl ⟨profile, stored, hmem, hid⟩
    · obtain ⟨-, rfl⟩ : profile = profile' ∧ stored = request := by simpa using hmem
      right
      simp [insertedIds, ← hid, (insertAt_eq_some hinsert).1]
  | denied | approved | performed => exact .inl (hold _ (by assumption) (by simp))

/-- Ids that are all different are fresh when they are drawn. -/
theorem freshIds_of_nodup {events : List HitlEvent}
    (hnew : ∀ id ∈ insertedIds events, ¬Known state.log id)
    (hnodup : (insertedIds events).Nodup) :
    StepsMeet (hitlStep world) FreshId state events := by
  induction events generalizing state with
  | nil => trivial
  | cons event rest ih =>
    have hids : insertedIds (event :: rest) = insertedIds [event] ++ insertedIds rest :=
      filterMap_append (l := [event])
    rw [hids] at hnew hnodup
    obtain ⟨-, hrest, hdisjoint⟩ := nodup_append.mp hnodup
    constructor
    · cases event with
      | insert profile id new now => exact hnew id (by simp [insertedIds])
      | _ => trivial
    · intro next hstep
      refine ih (fun id hid hknown => ?_) hrest
      rcases known_of_step hstep hknown with hold | hdrawn
      · exact hnew id (mem_append_right _ hid) hold
      · exact hdisjoint id hdrawn id hid rfl

/-- In every run of any number of daemons over one store, a request is carried
out at most once, and only after enough approvers voted and nobody denied. -/
theorem performed_once_with_quorum {events : List HitlEvent}
    {last : HitlState} (hids : (insertedIds events).Nodup)
    (hrun : runFrom (hitlStep world) .start events = some last) :
    (∀ id, performances last.log id ≤ 1) ∧ ∀ before id cluster history rest,
        last.log = before ++ .performed id cluster history :: rest →
        Justified world.mac before id := by
  have hfresh : StepsMeet (hitlStep world) FreshId .start events :=
    freshIds_of_nodup (by simp [HitlState.start, Known]) hids
  have hsound : Sound world.mac last := invariant_of_stepsMeet sound_step hfresh sound_start hrun
  refine ⟨hsound.log.once, ?_⟩
  intro before id cluster history rest heq
  exact hsound.log.justified before _ rest heq id (by simp [Observation.performs])

end Steps

namespace QuorumWitness

def world : HitlWorld :=
  { mac := HandlerWitness.env.mac, libs := HandlerWitness.env.libs, clusterOf := id }

def config : DaemonConfig :=
  { profile := "homelab", telegram := HandlerWitness.env.telegram }

def events : List HitlEvent :=
  [.insert "homelab" "r1" HandlerWitness.newRequest 0, .startDaemon 0 config 1,
    .startDaemon 1 config 2, .receive 0 (some HandlerWitness.callback) 5,
    .receive 1 (some HandlerWitness.callback) 6, .perform 0 HandlerWitness.env.gateway, .mark 0]

/-- What is in the log before the guest is deleted. -/
def before : List Observation :=
  [.stored "homelab"
      { HandlerWitness.request with status := .pending, approvers := [] },
    .handled config.telegram HandlerWitness.callback 5
      (.approved HandlerWitness.request), .handled config.telegram HandlerWitness.callback 6
      (.alreadyHandled HandlerWitness.request)]

def history : History :=
  [.found 100 (.ok (some HandlerWitness.guest)),
    .sent (.deleteGuest "pve1" 100 .qemu) (.ok "UPID:1")]

/-- Two daemons take the same press, and one of them deletes the guest. -/
theorem performed_once_with_quorum_delete : Justified world.mac before "r1" := by
  have hlog : (runFrom (hitlStep world) .start events).map (·.log) =
      some (before ++ [.performed "r1" "homelab" history]) := by decide +kernel
  obtain ⟨last, hrun, hlast⟩ := Option.map_eq_some_iff.mp hlog
  exact (performed_once_with_quorum (by decide) hrun).2 before "r1" "homelab" history [] hlast

end QuorumWitness

end Proxxx
