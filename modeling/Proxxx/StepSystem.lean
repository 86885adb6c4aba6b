/-
Runs of a deterministic labelled step system.  A disabled event has no
successor, so a run is a list of events every one of which was enabled, and a
property of every interleaving is a property of every such list.
-/
import Mathlib.Data.List.Basic

namespace StepSystem

open List

universe u v

variable {S : Type u} {E : Type v}

/-- Fire the events in order; the first disabled event ends the run. -/
def runFrom (step : S → E → Option S) : S → List E → Option S
  | state, [] => some state
  | state, event :: rest => (step state event).bind fun next => runFrom step next rest

/-- Every event of the run meets `Ok` in the state it fires in. -/
def StepsMeet (step : S → E → Option S) (Ok : S → E → Prop) : S → List E → Prop
  | _, [] => True
  | state, event :: rest =>
    Ok state event ∧ ∀ next, step state event = some next → StepsMeet step Ok next rest

instance stepsMeetDecidable (step : S → E → Option S) (Ok : S → E → Prop)
    [∀ state event, Decidable (Ok state event)] :
    ∀ (state : S) (events : List E), Decidable (StepsMeet step Ok state events)
  | _, [] => isTrue trivial
  | state, event :: rest =>
    match hstep : step state event with
    | none => decidable_of_iff (Ok state event) (by simp [StepsMeet, hstep])
    | some next =>
      have := stepsMeetDecidable step Ok next rest
      decidable_of_iff (Ok state event ∧ StepsMeet step Ok next rest) (by simp [StepsMeet, hstep])

variable {step : S → E → Option S}

@[simp] theorem runFrom_nil (state : S) : runFrom step state [] = some state := rfl

theorem runFrom_cons_eq_some {state last : S} {event : E} {rest : List E} :
    runFrom step state (event :: rest) = some last ↔
      ∃ next, step state event = some next ∧ runFrom step next rest = some last := by
  simp [runFrom, Option.bind_eq_some_iff]

theorem runFrom_append_eq_some {state last : S} {front back : List E} :
    runFrom step state (front ++ back) = some last ↔
      ∃ middle, runFrom step state front = some middle ∧ runFrom step middle back = some last := by
  induction front generalizing state with
  | nil => simp [runFrom]
  | cons event rest ih =>
    simp only [cons_append, runFrom_cons_eq_some]
    constructor
    · rintro ⟨next, hstep, hrun⟩
      obtain ⟨middle, hfront, hback⟩ := ih.mp hrun
      exact ⟨middle, ⟨next, hstep, hfront⟩, hback⟩
    · rintro ⟨middle, ⟨next, hstep, hfront⟩, hback⟩
      exact ⟨next, hstep, ih.mpr ⟨middle, hfront, hback⟩⟩

/-- The invariant rule under a step condition: what every admissible step
preserves holds at the end of every run of admissible steps. -/
theorem invariant_of_stepsMeet {Ok : S → E → Prop} {Inv : S → Prop}
    (hstep : ∀ {state event next}, Ok state event →
      step state event = some next → Inv state → Inv next)
    {state last : S} {events : List E}
    (hmeet : StepsMeet step Ok state events) (hinv : Inv state)
    (hrun : runFrom step state events = some last) : Inv last := by
  induction events generalizing state with
  | nil =>
    cases hrun
    exact hinv
  | cons event rest ih =>
    obtain ⟨next, hfire, hrest⟩ := runFrom_cons_eq_some.mp hrun
    exact ih (hmeet.2 next hfire) (hstep hmeet.1 hfire hinv) hrest

theorem StepsMeet.and {Ok Ok' : S → E → Prop} {state : S} {events : List E}
    (hone : StepsMeet step Ok state events)
    (htwo : StepsMeet step Ok' state events) :
    StepsMeet step (fun state event => Ok state event ∧ Ok' state event) state events := by
  induction events generalizing state with
  | nil => trivial
  | cons event rest ih =>
    exact ⟨⟨hone.1, htwo.1⟩, fun next hstep => ih (hone.2 next hstep) (htwo.2 next hstep)⟩

theorem stepsMeet_true (state : S) (events : List E) :
    StepsMeet step (fun _ _ => True) state events := by
  induction events generalizing state with
  | nil => trivial
  | cons event rest ih => exact ⟨trivial, fun next _ => ih next⟩

/-- The unconditional invariant rule. -/
theorem invariant_of_step {Inv : S → Prop}
    (hstep : ∀ {state event next}, step state event = some next → Inv state → Inv next)
    {state last : S} {events : List E} (hinv : Inv state)
    (hrun : runFrom step state events = some last) : Inv last :=
  invariant_of_stepsMeet (fun _ => hstep) (stepsMeet_true state events) hinv hrun

/-- The exact form of the rule: when a step keeps `Good` exactly under its
condition, a run ends in `Good` exactly when every step met it. -/
theorem good_iff_stepsMeet {Ok : S → E → Prop} {Inv Good : S → Prop}
    (hinv : ∀ {state event next}, step state event = some next → Inv state → Inv next)
    (hgood : ∀ {state event next}, step state event = some next →
      Inv state → (Good next ↔ Good state ∧ Ok state event))
    {state last : S} {events : List E} (hstart : Inv state)
    (hrun : runFrom step state events = some last) :
    Good last ↔ Good state ∧ StepsMeet step Ok state events := by
  induction events generalizing state with
  | nil =>
    cases hrun
    exact ⟨fun hlast => ⟨hlast, trivial⟩, And.left⟩
  | cons event rest ih =>
    obtain ⟨next, hfire, hrest⟩ := runFrom_cons_eq_some.mp hrun
    rw [ih (hinv hfire hstart) hrest, hgood hfire hstart, and_assoc]
    constructor
    · rintro ⟨hstate, hok, hmeet⟩
      refine ⟨hstate, hok, fun other hother => ?_⟩
      obtain rfl := Option.some.inj (hfire.symm.trans hother)
      exact hmeet
    · rintro ⟨hstate, hok, hmeet⟩
      exact ⟨hstate, hok, hmeet next hfire⟩

section Logs

variable {A : Type u} {P : List A → A → Prop} {log : List A}

/-- `P` holds of every entry of the log, seen from the entries before it. -/
def AtEach (P : List A → A → Prop) (log : List A) : Prop :=
  ∀ before entry rest, log = before ++ entry :: rest → P before entry

theorem atEach_nil : AtEach P [] := by
  intro before entry rest heq
  simp at heq

theorem AtEach.concat {entry : A} (hlog : AtEach P log)
    (hentry : P log entry) : AtEach P (log ++ [entry]) := by
  intro before other rest heq
  rcases eq_nil_or_concat rest with rfl | ⟨front, last, rfl⟩
  · obtain ⟨rfl, hsame⟩ := append_inj' heq rfl
    exact singleton_injective hsame ▸ hentry
  · have hsplit : log ++ [entry] = (before ++ other :: front) ++ [last] := by simpa using heq
    obtain ⟨hfront, -⟩ := append_inj' hsplit rfl
    exact hlog before other front hfront

theorem AtEach.append {entries : List A} (hlog : AtEach P log)
    (hentries : ∀ before, ∀ entry ∈ entries, P before entry) :
    AtEach P (log ++ entries) := by
  induction entries generalizing log with
  | nil => simpa using hlog
  | cons entry rest ih =>
    rw [append_cons]
    apply ih
    · exact hlog.concat (hentries log entry (by simp))
    · exact fun before other hother => hentries before other (mem_cons_of_mem _ hother)

/-- Where an entry of two joined logs stands. -/
theorem place_of_append {front rest before after : List A} {entry : A}
    (heq : front ++ rest = before ++ entry :: after) :
    (∃ middle, before = front ++ middle ∧ rest = middle ++ entry :: after) ∨
      ∃ back, front = before ++ entry :: back ∧ after = back ++ rest := by
  rcases append_eq_append_iff.mp heq with
    ⟨middle, hbefore, hrest⟩ | ⟨back, hfront, hafter⟩
  · exact .inl ⟨middle, hbefore, hrest⟩
  · cases back with
    | nil => exact .inl ⟨[], by simpa using hfront.symm, hafter.symm⟩
    | cons head back =>
      obtain ⟨rfl, rfl⟩ := List.cons.inj hafter
      exact .inr ⟨back, hfront, rfl⟩

/-- An entry that is not in the front of the log is behind it. -/
theorem split_behind (front : List A) {rest before after : List A} {entry : A}
    (heq : front ++ rest = before ++ entry :: after) (hentry : entry ∉ front) :
    ∃ middle, before = front ++ middle ∧ rest = middle ++ entry :: after := by
  rcases place_of_append heq with hbehind | ⟨back, hfront, -⟩
  · exact hbehind
  · exact absurd (by simp [hfront]) hentry

/-- An entry that is not in the front of the log is the one behind it. -/
theorem split_last (front : List A) {before after : List A} {last entry : A}
    (heq : front ++ [last] = before ++ entry :: after)
    (hentry : entry ∉ front) : after = [] := by
  obtain ⟨middle, -, hrest⟩ := split_behind front heq hentry
  cases middle with
  | nil =>
    have hlast : last = entry ∧ after = [] := by simpa using hrest
    exact hlast.2
  | cons head tail => simp at hrest

end Logs

end StepSystem
