/-
Read-modify-write commands of many processes on one shared value.  A command
loads the value, works on its copy and saves the copy over whatever is there by
then; a command that saves nothing ends with its load.  Where every save finds
what its command had loaded, a run is the sequential run of its commands in the
order in which they ended.
-/
import Proxxx.StepSystem

namespace SharedStore

open StepSystem

universe u v w

variable {ι : Type u} [DecidableEq ι] {σ : Type v} {ρ : Type w}

/-- A command: from what it loads, its reply and what it saves, if anything. -/
abbrev Job (σ : Type v) (ρ : Type w) := σ → ρ × Option σ

inductive Event (ι : Type u) where
  | load (process : ι)
  | save (process : ι)
deriving Repr, DecidableEq

/-- A command between its load and its save. -/
structure Held (σ : Type v) (ρ : Type w) where
  loaded : σ
  reply : ρ
  saved : σ
deriving Repr, DecidableEq

structure State (ι : Type u) (σ : Type v) (ρ : Type w) where
  disk : σ
  held : ι → Option (Held σ ρ) := fun _ => none
  /-- The commands that ended, in their order, with their replies. -/
  ended : List (ι × ρ) := []

/-- What the processes hold, with one of them changed. -/
def State.hold (state : State ι σ ρ) (process : ι)
    (held : Option (Held σ ρ)) : ι → Option (Held σ ρ) :=
  fun other => if other = process then held else state.held other

/-- A process runs one command. -/
def step (jobs : ι → Job σ ρ) (state : State ι σ ρ) : Event ι → Option (State ι σ ρ)
  | .load process =>
    if (state.held process).isSome || process ∈ state.ended.map Prod.fst then
      none
    else
      match jobs process state.disk with
      | (reply, none) => some { state with ended := state.ended ++ [(process, reply)] }
      | (reply, some saved) =>
        let held := { loaded := state.disk, reply, saved }
        some { state with held := state.hold process (some held) }
  | .save process =>
    (state.held process).map fun held =>
      { disk := held.saved, held := state.hold process none
        ended := state.ended ++ [(process, held.reply)] }

/-- One command after the other, each alone with the value. -/
def sequential (jobs : ι → Job σ ρ) : List ι → σ → σ × List (ι × ρ)
  | [], disk => (disk, [])
  | process :: rest, disk =>
    let (reply, saved) := jobs process disk
    let (last, replies) := sequential jobs rest (saved.getD disk)
    (last, (process, reply) :: replies)

/-- The value and the replies are those of some sequential order of the
commands that ended. -/
def Serializable (jobs : ι → Job σ ρ) (start : σ) (last : State ι σ ρ) : Prop :=
  ∃ order, order.Perm (last.ended.map Prod.fst) ∧ (sequential jobs order start).1 = last.disk ∧
    (sequential jobs order start).2.Perm last.ended

/-- A save that finds what its command loaded. -/
def Undisturbed (state : State ι σ ρ) : Event ι → Prop
  | .load _ => True
  | .save process => ∀ held, state.held process = some held → held.loaded = state.disk

instance [DecidableEq σ] (state : State ι σ ρ) (event : Event ι) :
    Decidable (Undisturbed state event) :=
  match event with
  | .load _ => isTrue trivial
  | .save process =>
    match hheld : state.held process with
    | none => isTrue (by simp [Undisturbed, hheld])
    | some held => decidable_of_iff (held.loaded = state.disk) (by simp [Undisturbed, hheld])

section Order

variable {jobs : ι → Job σ ρ} {start : σ} {state next last : State ι σ ρ}

omit [DecidableEq ι] in
theorem sequential_append (jobs : ι → Job σ ρ) (front back : List ι) (disk : σ) :
    sequential jobs (front ++ back) disk = ((sequential jobs back (sequential jobs front disk).1).1,
        (sequential jobs front disk).2 ++
          (sequential jobs back (sequential jobs front disk).1).2) := by
  induction front generalizing disk with
  | nil => rfl
  | cons process rest ih => simp [sequential, ih]

/-- What has ended is its own sequential run, and every held command is what
its job makes of what it loaded. -/
structure InOrder (jobs : ι → Job σ ρ) (start : σ) (state : State ι σ ρ) : Prop where
  ended : sequential jobs (state.ended.map Prod.fst) start = (state.disk, state.ended)
  held : ∀ process held, state.held process = some held →
    jobs process held.loaded = (held.reply, some held.saved)

omit [DecidableEq ι] in
theorem InOrder.end (hstate : InOrder jobs start state) {process : ι} {reply : ρ}
    {saved : Option σ} (hjob : jobs process state.disk = (reply, saved)) :
    sequential jobs ((state.ended ++ [(process, reply)]).map Prod.fst) start =
      (saved.getD state.disk, state.ended ++ [(process, reply)]) := by
  rw [List.map_append, sequential_append, hstate.ended]
  simp [sequential, hjob]

theorem InOrder.step {event : Event ι} (hundisturbed : Undisturbed state event)
    (hstep : step jobs state event = some next)
    (hstate : InOrder jobs start state) : InOrder jobs start next := by
  cases event with
  | load process =>
    rw [SharedStore.step] at hstep
    split at hstep
    · cases hstep
    · split at hstep
      · next reply hjob =>
          cases hstep
          exact ⟨hstate.end hjob, hstate.held⟩
      · next reply saved hjob =>
          cases hstep
          refine ⟨hstate.ended, fun other held hheld => ?_⟩
          dsimp only [State.hold] at hheld
          split at hheld
          · next hsame =>
              cases hheld
              rw [hsame]
              exact hjob
          · exact hstate.held other held hheld
  | save process =>
    rw [SharedStore.step] at hstep
    obtain ⟨held, hheld, rfl⟩ := Option.map_eq_some_iff.mp hstep
    have hjob := hstate.held process held hheld
    rw [hundisturbed held hheld] at hjob
    refine ⟨hstate.end hjob, fun other later hlater => ?_⟩
    dsimp only [State.hold] at hlater
    split at hlater
    · cases hlater
    · exact hstate.held other later hlater

/-- In a run whose saves are undisturbed, the commands take effect in the order
in which they ended. -/
theorem inOrder_of_undisturbed {events : List (Event ι)}
    (hmeet : StepsMeet (step jobs) Undisturbed { disk := start } events)
    (hrun : runFrom (step jobs) { disk := start } events = some last) :
    InOrder jobs start last := by
  have hstart : InOrder jobs start { disk := start } := ⟨rfl, by simp⟩
  exact invariant_of_stepsMeet (fun hok hstep hinv => hinv.step hok hstep) hmeet hstart hrun

theorem serializable_of_undisturbed {events : List (Event ι)}
    (hmeet : StepsMeet (step jobs) Undisturbed { disk := start } events)
    (hrun : runFrom (step jobs) { disk := start } events = some last) :
    Serializable jobs start last := by
  have hlast := inOrder_of_undisturbed hmeet hrun
  refine ⟨last.ended.map Prod.fst, .refl _, ?_, ?_⟩
  · rw [hlast.ended]
  · rw [hlast.ended]

end Order

end SharedStore
