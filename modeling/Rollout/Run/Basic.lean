import Rollout.Time.Clock
/-!
# Runs

A run acts on a state from some instant on. It ends in a value, a failure or a panic, leaves a new
state, and has taken some time; time only ever moves forward, because a run says how long it took
and not when it ended. How long its sleeps last depends on the clock. Instants and durations are in
nanoseconds.
-/

namespace Rollout

inductive Outcome (ε α : Type) where
  | done (value : α)
  | failed (fault : ε)
  /-- The run was abandoned; only cleanup still happens. -/
  | panicked (text : String)
  deriving DecidableEq, Repr

structure Step (σ ε α : Type) where
  outcome : Outcome ε α
  state : σ
  elapsed : Nat

/-- From the clock, the instant at which the run starts and the state it finds. -/
def Run (σ ε α : Type) := Time.Clock → Nat → σ → Step σ ε α

namespace Run

variable {σ τ ε φ α β : Type}

protected def pure (a : α) : Run σ ε α := fun _ _ s => ⟨.done a, s, 0⟩

protected def bind (x : Run σ ε α) (f : α → Run σ ε β) : Run σ ε β := fun clock now s =>
  match x clock now s with
  | ⟨.done a, s, t⟩ =>
    let next := f a clock (now + t) s
    ⟨next.outcome, next.state, t + next.elapsed⟩
  | ⟨.failed e, s, t⟩ => ⟨.failed e, s, t⟩
  | ⟨.panicked text, s, t⟩ => ⟨.panicked text, s, t⟩

instance : Monad (Run σ ε) where
  pure := Run.pure
  bind := Run.bind

@[ext] theorem ext {x y : Run σ ε α} (h : ∀ clock now s, x clock now s = y clock now s) :
    x = y :=
  funext fun clock => funext fun now => funext (h clock now)

theorem pure_apply (a : α) (clock : Time.Clock) (now : Nat) (s : σ) :
    (pure a : Run σ ε α) clock now s = ⟨.done a, s, 0⟩ := rfl

/-- After a value the second run starts where and when the first one ended. -/
theorem bind_apply (x : Run σ ε α) (f : α → Run σ ε β) (clock : Time.Clock) (now : Nat)
    (s : σ) : (x >>= f) clock now s = match x clock now s with
      | ⟨.done a, s, t⟩ =>
        ⟨(f a clock (now + t) s).outcome, (f a clock (now + t) s).state,
          t + (f a clock (now + t) s).elapsed⟩
      | ⟨.failed e, s, t⟩ => ⟨.failed e, s, t⟩
      | ⟨.panicked text, s, t⟩ => ⟨.panicked text, s, t⟩ := rfl

instance : LawfulMonad (Run σ ε) := by
  refine LawfulMonad.mk' _ (fun x => ?_) (fun a f => ?_) (fun x f g => ?_)
  · ext clock now s
    change (x >>= pure) clock now s = x clock now s
    rw [bind_apply]
    rcases x clock now s with ⟨_ | _ | _, _, _⟩ <;> rfl
  · ext clock now s
    simp [bind_apply, pure_apply]
  · ext clock now s
    simp only [bind_apply]
    rcases x clock now s with ⟨a | _ | _, s, t⟩
    · simp only
      rcases f a clock (now + t) s with ⟨_ | _ | _, _, _⟩ <;> simp [Nat.add_assoc]
    · rfl
    · rfl

def fail (e : ε) : Run σ ε α := fun _ _ s => ⟨.failed e, s, 0⟩

def panic (text : String) : Run σ ε α := fun _ _ s => ⟨.panicked text, s, 0⟩

/-- Lets time pass. -/
def sleep (nanos : Nat) : Run σ ε Unit := fun clock _ s =>
  ⟨.done (), s, clock.lasting nanos⟩

/-- The instant it is now. -/
def now : Run σ ε Nat := fun _ now s => ⟨.done now, s, 0⟩

def get : Run σ ε σ := fun _ _ s => ⟨.done s, s, 0⟩

def modify (f : σ → σ) : Run σ ε Unit := fun _ _ s => ⟨.done (), f s, 0⟩

def ofExcept : Except ε α → Run σ ε α
  | .ok a => Run.pure a
  | .error e => fail e

theorem ofExcept_ok_bind (a : α) (f : α → Run σ ε β) : ofExcept (.ok a) >>= f = f a :=
  pure_bind a f

/-- A failure as a value; a panic goes on. -/
def attempt (x : Run σ ε α) : Run σ φ (Except ε α) := fun clock now s =>
  match x clock now s with
  | ⟨.done a, s, t⟩ => ⟨.done (.ok a), s, t⟩
  | ⟨.failed e, s, t⟩ => ⟨.done (.error e), s, t⟩
  | ⟨.panicked text, s, t⟩ => ⟨.panicked text, s, t⟩

/-- Every outcome as a value. -/
def settle (x : Run σ ε α) : Run σ φ (Outcome ε α) := fun clock now s =>
  let step := x clock now s
  ⟨.done step.outcome, step.state, step.elapsed⟩

/-- Ends in the given way. -/
def ofOutcome : Outcome ε α → Run σ ε α
  | .done a => Run.pure a
  | .failed e => fail e
  | .panicked text => panic text

/-- Failures of another type. -/
def mapFault (f : ε → φ) (x : Run σ ε α) : Run σ φ α := fun clock now s =>
  match x clock now s with
  | ⟨.done a, s, t⟩ => ⟨.done a, s, t⟩
  | ⟨.failed e, s, t⟩ => ⟨.failed (f e), s, t⟩
  | ⟨.panicked text, s, t⟩ => ⟨.panicked text, s, t⟩

/-- A run on the second part of a state. -/
def onSnd (x : Run σ ε α) : Run (τ × σ) ε α := fun clock now s =>
  let step := x clock now s.2
  ⟨step.outcome, (s.1, step.state), step.elapsed⟩

/-- A run with a state of its own beside the given one; its own part is dropped at the end. -/
def startingWith (t : τ) (x : Run (τ × σ) ε α) : Run σ ε α := fun clock now s =>
  let step := x clock now (t, s)
  ⟨step.outcome, step.state.2, step.elapsed⟩

/-- One run for each item, in order. -/
def forEach (items : List α) (f : α → Run σ ε Unit) : Run σ ε Unit :=
  match items with
  | [] => Run.pure ()
  | a :: rest => (f a).bind fun _ => forEach rest f

/-- One run for each item, in order, and all their values. -/
def mapEach (items : List α) (f : α → Run σ ε β) : Run σ ε (List β) :=
  match items with
  | [] => Run.pure []
  | a :: rest => (f a).bind fun b => (mapEach rest f).bind fun bs => Run.pure (b :: bs)

end Run

end Rollout
