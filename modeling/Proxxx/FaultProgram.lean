/-
Programs over a shared state whose operations can fail and whose process can
stop at any operation.  A failure is an error the program may catch and clean
up after; a stop ends everything and leaves the state as it is.  `Ends` says
what holds however the program ends, with one rule for each construct, so that
a program's fault behaviour is read off its text.
-/
import Mathlib.Data.List.Basic

namespace FaultProgram

/-- What befalls one operation. -/
inductive Fault where
  | none
  | fails
  | stops
deriving Repr, DecidableEq

/-- Why a program ended without its result. -/
inductive Halt (ε : Type) where
  | error (e : ε)
  | stopped
deriving Repr, DecidableEq

abbrev Program (σ ε : Type) := ExceptT (Halt ε) (StateM σ)

variable {σ ε α β : Type}

/-- One operation: its effect, or an error, or the end of the process. -/
def attempt (fault : Fault) (e : ε) (effect : σ → σ) : Program σ ε Unit :=
  match fault with
  | .none => modify effect
  | .fails => throw (.error e)
  | .stops => throw .stopped

/-- An operation whose failure is ignored. -/
def ignoring (fault : Fault) (effect : σ → σ) : Program σ ε Unit :=
  match fault with
  | .none => modify effect
  | .fails => pure ()
  | .stops => throw .stopped

/-- A check that ends the program with an error. -/
def ensure (holds : Bool) (e : ε) : Program σ ε Unit :=
  if holds then pure () else throw (.error e)

/-- The result of a computation that does not touch the state. -/
def liftResult (result : Except ε α) : Program σ ε α :=
  match result with
  | .ok value => pure value
  | .error e => throw (.error e)

/-- Clean up after an error, but not after a stop. -/
def onError (body : Program σ ε α) (handler : ε → Program σ ε α) : Program σ ε α :=
  tryCatch body fun halt =>
    match halt with
    | .error e => handler e
    | .stopped => throw .stopped

/-- The answer to a call: a value, an error, or the end of the process. -/
inductive Reply (ε α : Type) where
  | ok (value : α)
  | fails (e : ε)
  | stops
deriving Repr, DecidableEq

/-- Call out.  The answer may depend on everything so far, and the call is noted
with its answer. -/
def call (reply : σ → Reply ε α) (note : Reply ε α → σ → σ) : Program σ ε α := do
  let state ← get
  modify (note (reply state))
  match reply state with
  | .ok value => pure value
  | .fails e => throw (.error e)
  | .stops => throw .stopped

/-- Give the errors of a program another form. -/
def mapError {ε' : Type} (convert : ε → ε') (program : Program σ ε α) : Program σ ε' α :=
  ExceptT.adapt (fun halt =>
    match halt with
    | .error e => .error (convert e)
    | .stopped => .stopped) program

/-- The result of a program, or its error as a value; a stop goes through. -/
def toResult (program : Program σ ε α) : Program σ ε (Except ε α) :=
  onError (do let value ← program; return .ok value) fun e =>
    pure (.error e)

/-- How the program ends, and the state it leaves. -/
def execute (program : Program σ ε α) (state : σ) : Except (Halt ε) α × σ :=
  program.run.run state

/-- Run a program on a part of the state. -/
def onPart {τ : Type} (part : σ → τ) (replace : τ → σ → σ)
    (program : Program τ ε α) : Program σ ε α :=
  ExceptT.mk fun state =>
    let (result, final) := execute program (part state)
    (result, replace final state)

/-- The program ends with a result and a state that satisfy `Done`, or it halts
for a reason and in a state that satisfy `Halted`. -/
def Ends (program : Program σ ε α) (state : σ) (Done : α → σ → Prop)
    (Halted : Halt ε → σ → Prop) : Prop :=
  match execute program state with
  | (.ok result, final) => Done result final
  | (.error halt, final) => Halted halt final

theorem execute_bind (first : Program σ ε β) (rest : β → Program σ ε α) (state : σ) :
    execute (first >>= rest) state = match execute first state with
      | (.ok result, middle) => execute (rest result) middle
      | (.error halt, final) => (.error halt, final) := by
  simp only [execute, ExceptT.run_bind, StateT.run_bind]
  rcases first.run.run state with ⟨_ | result, middle⟩ <;> rfl

theorem execute_onError (body : Program σ ε α) (handler : ε → Program σ ε α) (state : σ) :
    execute (onError body handler) state = match execute body state with
      | (.ok result, middle) => (.ok result, middle)
      | (.error (.error e), middle) => execute (handler e) middle
      | (.error .stopped, middle) => (.error .stopped, middle) := by
  simp only [execute, onError, ExceptT.run_tryCatch, StateT.run_bind]
  rcases body.run.run state with ⟨(_ | _) | result, middle⟩ <;> rfl

section Rules

variable {state : σ} {Done : α → σ → Prop} {Halted : Halt ε → σ → Prop}

theorem Ends.pure {result : α} (hdone : Done result state) :
    Ends (Pure.pure result) state Done Halted :=
  hdone

theorem Ends.throw {e : ε} (hhalted : Halted (.error e) state) :
    Ends (MonadExcept.throw (.error e) : Program σ ε α) state Done Halted :=
  hhalted

/-- Composition, with what is known in between. -/
theorem Ends.bind (Mid : β → σ → Prop) {first : Program σ ε β}
    {rest : β → Program σ ε α} (hfirst : Ends first state Mid Halted)
    (hrest : ∀ result middle, Mid result middle → Ends (rest result) middle Done Halted) :
    Ends (first >>= rest) state Done Halted := by
  revert hfirst
  unfold Ends
  rw [execute_bind]
  rcases execute first state with ⟨_ | result, middle⟩
  · exact id
  · exact hrest result middle

/-- The same, read from the end: what is left to show of the rest is shown of the
first part. -/
theorem Ends.seq {first : Program σ ε β} {rest : β → Program σ ε α} (hfirst : Ends first state
      (fun result middle => Ends (rest result) middle Done Halted) Halted) :
    Ends (first >>= rest) state Done Halted :=
  Ends.bind _ hfirst fun _ _ hrest => hrest

theorem Ends.get {Mid : σ → σ → Prop} (hmid : Mid state state) :
    Ends (MonadState.get : Program σ ε σ) state Mid Halted :=
  hmid

variable {Mid : Unit → σ → Prop} {effect : σ → σ}

theorem Ends.modify (hmid : Mid () (effect state)) :
    Ends (modify effect : Program σ ε Unit) state Mid Halted :=
  hmid

theorem Ends.attempt {fault : Fault} {e : ε} (hnone : fault = .none → Mid () (effect state))
    (hfails : fault = .fails → Halted (.error e) state)
    (hstops : fault = .stops → Halted .stopped state) :
    Ends (FaultProgram.attempt fault e effect) state Mid Halted := by
  cases fault with
  | none => exact hnone rfl
  | fails => exact hfails rfl
  | stops => exact hstops rfl

/-- An operation that does not take place, whatever the reason. -/
theorem Ends.attempt_or {fault : Fault} {e : ε} (hnone : fault = .none → Mid () (effect state))
    (hfault : fault ≠ .none → ∀ halt, Halted halt state) :
    Ends (FaultProgram.attempt fault e effect) state Mid Halted :=
  Ends.attempt hnone (fun hfails => hfault (by simp [hfails]) _)
    fun hstops => hfault (by simp [hstops]) _

theorem Ends.ignoring {fault : Fault} (hnone : fault = .none → Mid () (effect state))
    (hfails : fault = .fails → Mid () state)
    (hstops : fault = .stops → Halted .stopped state) :
    Ends (FaultProgram.ignoring fault effect) state Mid Halted := by
  cases fault with
  | none => exact hnone rfl
  | fails => exact hfails rfl
  | stops => exact hstops rfl

theorem Ends.ensure {holds : Bool} {e : ε} (hholds : holds = true → Mid () state)
    (hfails : holds = false → Halted (.error e) state) :
    Ends (FaultProgram.ensure holds e) state Mid Halted := by
  cases holds with
  | true => exact hholds rfl
  | false => exact hfails rfl

variable {Mid : β → σ → Prop}

theorem Ends.liftResult {result : Except ε β} (hok : ∀ value, result = .ok value → Mid value state)
    (herror : ∀ e, result = .error e → Halted (.error e) state) :
    Ends (FaultProgram.liftResult result) state Mid Halted := by
  cases result with
  | ok value => exact hok value rfl
  | error e => exact herror e rfl

/-- The same for a result whose error is put in the program's form. -/
theorem Ends.liftMapError {δ : Type} {result : Except δ β} {convert : δ → ε}
    (hok : ∀ value, result = .ok value → Mid value state)
    (herror : ∀ e, result = .error e → Halted (.error (convert e)) state) :
    Ends (FaultProgram.liftResult (result.mapError convert)) state Mid Halted := by
  cases result with
  | ok value => exact hok value rfl
  | error e => exact herror e rfl

theorem Ends.call {reply : σ → Reply ε β} {note : Reply ε β → σ → σ}
    (hok : ∀ value, reply state = .ok value → Mid value (note (.ok value) state))
    (hfails : ∀ e, reply state = .fails e → Halted (.error e) (note (.fails e) state))
    (hstops : reply state = .stops → Halted .stopped (note .stops state)) :
    Ends (FaultProgram.call reply note) state Mid Halted := by
  have hends : Ends (match reply state with
      | .ok value => Pure.pure value
      | .fails e => MonadExcept.throw (.error e)
      | .stops => MonadExcept.throw .stopped : Program σ ε β)
      (note (reply state) state) Mid Halted := by
    rcases hreply : reply state with value | e | _
    · exact hok value hreply
    · exact hfails e hreply
    · exact hstops hreply
  exact hends

/-- A call that is noted in the same way whatever the answer. -/
theorem Ends.call_or {reply : σ → Reply ε β} {note : Reply ε β → σ → σ}
    (hok : ∀ value, reply state = .ok value → Mid value (note (.ok value) state))
    (hfault : ∀ halt answer, Halted halt (note answer state)) :
    Ends (FaultProgram.call reply note) state Mid Halted :=
  Ends.call hok (fun _ _ => hfault _ _) fun _ => hfault _ _

variable {program : Program σ ε α}

theorem Ends.mapError {ε' : Type} {convert : ε → ε'} {Halted' : Halt ε' → σ → Prop}
    (hends : Ends program state Done fun halt final =>
      match halt with
      | .error e => Halted' (.error (convert e)) final
      | .stopped => Halted' .stopped final) :
    Ends (FaultProgram.mapError convert program) state Done Halted' := by
  have hexecute : execute (FaultProgram.mapError convert program) state =
      match execute program state with
      | (.ok result, final) => (.ok result, final)
      | (.error (.error e), final) => (.error (.error (convert e)), final)
      | (.error .stopped, final) => (.error .stopped, final) := by
    simp only [execute, FaultProgram.mapError, ExceptT.run_adapt, StateT.run_map]
    rcases program.run.run state with ⟨(_ | _) | result, final⟩ <;> rfl
  revert hends
  unfold Ends
  rw [hexecute]
  rcases execute program state with ⟨(_ | _) | result, final⟩ <;> exact id

theorem Ends.imp {Done' : α → σ → Prop}
    {Halted' : Halt ε → σ → Prop} (hends : Ends program state Done Halted)
    (hdone : ∀ result final, Done result final → Done' result final)
    (hhalted : ∀ halt final, Halted halt final → Halted' halt final) :
    Ends program state Done' Halted' := by
  revert hends
  unfold Ends
  rcases execute program state with ⟨_ | result, final⟩
  · exact hhalted _ _
  · exact hdone _ _

/-- Handled errors, with what is known when the handler starts. -/
theorem Ends.onError (Caught : ε → σ → Prop) {body : Program σ ε α} {handler : ε → Program σ ε α}
    (hbody : Ends body state Done fun halt middle =>
      match halt with
      | .error e => Caught e middle
      | .stopped => Halted .stopped middle)
    (hhandler : ∀ e middle, Caught e middle → Ends (handler e) middle Done Halted) :
    Ends (FaultProgram.onError body handler) state Done Halted := by
  revert hbody
  unfold Ends
  rw [execute_onError]
  rcases execute body state with ⟨(e | _) | result, middle⟩
  · exact hhandler e middle
  · exact id
  · exact id

/-- Handled errors, where it does not matter why the body and the handler end. -/
theorem Ends.onError_alike {Failed : σ → Prop} {body : Program σ ε α}
    {handler : ε → Program σ ε α} (hbody : Ends body state Done fun _ => Failed)
    (hhandler : ∀ e middle, Failed middle → Ends (handler e) middle Done fun _ => Failed) :
    Ends (FaultProgram.onError body handler) state Done fun _ => Failed :=
  Ends.onError (fun _ => Failed)
    (hbody.imp (fun _ _ hdone => hdone) fun halt _ hfailed => by cases halt <;> exact hfailed)
    hhandler

theorem Ends.onPart {τ : Type} {part : σ → τ} {replace : τ → σ → σ} {program : Program τ ε α}
    (hends : Ends program (part state) (fun result final => Done result (replace final state))
      (fun halt final => Halted halt (replace final state))) :
    Ends (FaultProgram.onPart part replace program) state Done Halted := by
  have hexecute : execute (FaultProgram.onPart part replace program) state =
      ((execute program (part state)).1, replace (execute program (part state)).2 state) := rfl
  revert hends
  unfold Ends
  rw [hexecute]
  rcases execute program (part state) with ⟨_ | result, final⟩ <;> exact id

/-- What holds however the program ends holds of the state it leaves. -/
theorem Ends.final (Holds : σ → Prop)
    (hends : Ends program state (fun _ => Holds) (fun _ => Holds)) :
    Holds (execute program state).2 := by
  revert hends
  unfold Ends
  rcases execute program state with ⟨_ | result, final⟩ <;> exact id

end Rules

/-- However the program ends, the state it leaves is related to the one it
started in. -/
def Stays (R : σ → σ → Prop) (program : Program σ ε α) : Prop :=
  ∀ state, Ends program state (fun _ => R state) (fun _ => R state)

section Stays

variable {R : σ → σ → Prop}

theorem Stays.pure [Std.Refl R] (value : α) : Stays R (Pure.pure value : Program σ ε α) :=
  fun state => Ends.pure (Std.Refl.refl state)

theorem Stays.throw [Std.Refl R] (e : ε) : Stays R (MonadExcept.throw (.error e) : Program σ ε α) :=
  fun state => Ends.throw (Std.Refl.refl state)

theorem Stays.ensure [Std.Refl R] (holds : Bool) (e : ε) :
    Stays R (FaultProgram.ensure holds e) := by
  cases holds with
  | true => exact Stays.pure ()
  | false => exact Stays.throw e

theorem Stays.liftResult [Std.Refl R] (result : Except ε α) :
    Stays R (FaultProgram.liftResult result) := by
  cases result with
  | ok value => exact Stays.pure value
  | error e => exact Stays.throw e

theorem Stays.call {reply : σ → Reply ε α} {note : Reply ε α → σ → σ}
    (hnote : ∀ answer state, R state (note answer state)) :
    Stays R (FaultProgram.call reply note) :=
  fun state => Ends.call_or (fun _ _ => hnote _ state) fun _ _ => hnote _ state

/-- From a state that has already moved on. -/
theorem Stays.after [IsTrans σ R] {program : Program σ ε α}
    (hprogram : Stays R program) {start state : σ} (hstate : R start state) :
    Ends program state (fun _ => R start) (fun _ => R start) :=
  (hprogram state).imp (fun _ final hfinal => IsTrans.trans start state final hstate hfinal)
    (fun _ final hfinal => IsTrans.trans start state final hstate hfinal)

theorem Stays.bind [IsTrans σ R] {first : Program σ ε β}
    {rest : β → Program σ ε α} (hfirst : Stays R first)
    (hrest : ∀ value, Stays R (rest value)) : Stays R (first >>= rest) := by
  intro state
  exact Ends.bind (fun _ => R state) (hfirst state)
    fun value _ hmiddle => (hrest value).after hmiddle

theorem Stays.onError [IsTrans σ R] {body : Program σ ε α}
    {handler : ε → Program σ ε α} (hbody : Stays R body)
    (hhandler : ∀ e, Stays R (handler e)) :
    Stays R (FaultProgram.onError body handler) := by
  intro state
  exact Ends.onError_alike (hbody state) fun e _ hmiddle => (hhandler e).after hmiddle

theorem Stays.toResult [Std.Refl R] [IsTrans σ R] {program : Program σ ε α}
    (hprogram : Stays R program) : Stays R (FaultProgram.toResult program) :=
  (hprogram.bind fun _ => Stays.pure _).onError fun _ => Stays.pure _

end Stays

end FaultProgram
