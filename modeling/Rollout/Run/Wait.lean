import Rollout.Run.Basic
/-!
# Bounded waiting

A check is evaluated until it yields a value or fails, or until time has run out. It is evaluated
at least once, one evaluation at a time, and the last evaluation starts no later than the deadline,
because the pause before it is cut short to end there.
-/

namespace Rollout

open Time

/-- How long to wait in all, and how long between two evaluations. -/
structure Patience where
  timeout : Span
  interval : Span
  deriving DecidableEq

namespace Patience

/-- Two minutes, looking every second. -/
def usual : Patience := ⟨.ofSecs 120, .ofSecs 1⟩

def withTimeout (p : Patience) (timeout : Span) : Patience := { p with timeout }

end Patience

/-- The seconds of an instant are below this. -/
def instantLimit : Nat := UInt64.size / 2 * nanosPerSecond

/-- The instant after a span, if there is one. -/
def deadline? (now : Nat) (timeout : Span) : Option Nat :=
  if now + timeout.nanos < instantLimit then some (now + timeout.nanos) else none

/-- What comes of a sum that is out of range: it wraps around, or where that is checked the run
panics. -/
inductive Overflow where
  | wraps
  | panics
  deriving DecidableEq, Repr

namespace Run

variable {σ ε α : Type}

/-- Evaluates the check from `now` on with a pause between evaluations. Every round but the last
brings the deadline nearer. The evaluations are not numbered; `pollNumbered` says what that leaves
out. -/
def pollFrom (check : Run σ ε (Option α)) (clock : Clock) (interval deadline : Nat)
    (h : 0 < interval) (now : Nat) (s : σ) : Step σ ε (Option α) :=
  let step := check clock now s
  match step.outcome with
  | .done (some a) => ⟨.done (some a), step.state, step.elapsed⟩
  | .failed e => ⟨.failed e, step.state, step.elapsed⟩
  | .panicked text => ⟨.panicked text, step.state, step.elapsed⟩
  | .done none =>
    let reached := now + step.elapsed
    if deadline ≤ reached then ⟨.done none, step.state, step.elapsed⟩
    else
      let pause := clock.lasting (min interval (deadline - reached))
      let rest := pollFrom check clock interval deadline h (reached + pause) step.state
      ⟨rest.outcome, rest.state, step.elapsed + pause + rest.elapsed⟩
termination_by deadline - now
decreasing_by
  have : 0 < pause := clock.lasting_pos _ (by omega)
  change deadline - (reached + pause) < deadline - now
  omega

/-- As many evaluations can be numbered in thirty-two bits. -/
def spinLimit : Nat := UInt32.size - 1

/-- Evaluates the check without pauses, for as long as there are numbers for the evaluations. On a
clock that stands still nothing else ends it. -/
def spinFrom (check : Run σ ε (Option α)) (clock : Clock) (deadline : Nat) :
    Nat → Nat → σ → Step σ ε (Option α)
  | 0, _, s => ⟨.panicked "attempt to add with overflow", s, 0⟩
  | n + 1, now, s =>
    let step := check clock now s
    match step.outcome with
    | .done (some a) => ⟨.done (some a), step.state, step.elapsed⟩
    | .failed e => ⟨.failed e, step.state, step.elapsed⟩
    | .panicked text => ⟨.panicked text, step.state, step.elapsed⟩
    | .done none =>
      let reached := now + step.elapsed
      if deadline ≤ reached then ⟨.done none, step.state, step.elapsed⟩
      else
        let rest := spinFrom check clock deadline n reached step.state
        ⟨rest.outcome, rest.state, step.elapsed + rest.elapsed⟩

/-- Evaluates the check until it yields a value; `none` when time has run out before. -/
def pollUntil (p : Patience) (check : Run σ ε (Option α)) : Run σ ε (Option α) :=
  fun clock now s =>
    match deadline? now p.timeout with
    | none => ⟨.panicked "overflow when adding duration to instant", s, 0⟩
    | some deadline =>
      if h : 0 < p.interval.nanos then pollFrom check clock p.interval.nanos deadline h now s
      else spinFrom check clock deadline spinLimit now s

/-- Takes the next number in thirty-two bits before it starts. -/
def numbered (o : Overflow) (x : Run σ ε α) : Run (UInt32 × σ) ε α := fun clock now s =>
  if s.1 + 1 = 0 ∧ o = .panics then ⟨.panicked "attempt to add with overflow", s, 0⟩
  else x.onSnd clock now (s.1 + 1, s.2)

/-- `pollUntil` with its evaluations numbered from one on, as they are for the log. -/
def pollNumbered (o : Overflow) (p : Patience) (check : Run σ ε (Option α)) :
    Run σ ε (Option α) :=
  (pollUntil p (check.numbered o)).startingWith 0

/-- Waits for a check that cannot fail. -/
def pollSurely (p : Patience) (check : Run σ Empty (Option α)) : Run σ Empty (Option α) :=
  pollUntil p check

/-- Whether a condition holds, as a check. -/
def met (condition : Run σ ε Bool) : Run σ ε (Option Unit) := do
  return if ← condition then some () else none

/-- Waits for a condition and says whether it was met. A failure of the condition ends the wait;
`false` only means that time has run out. -/
def awaitUntil (p : Patience) (condition : Run σ ε Bool) : Run σ ε Bool := do
  return (← pollUntil p (met condition)).isSome

/-- Waits for a condition that cannot fail. -/
def awaitSurely (p : Patience) (condition : Run σ Empty Bool) : Run σ Empty Bool := do
  return (← pollSurely p (met condition)).isSome

end Run

end Rollout
