import Rollout.Run.Basic
/-!
# Cleanup

A body and the cleanup that follows it whatever happens. The outcome of the body goes first: its
failure or panic hides a failure of the cleanup, which only shows after a success.
-/

namespace Rollout

variable {σ ε α : Type}

/-- How a body and its cleanup end together. -/
def Outcome.afterCleanup : Outcome ε α → Except ε Unit → Outcome ε α
  | .done _, .error e => .failed e
  | outcome, _ => outcome

/-- Runs the body and then the cleanup, also after a failure or a panic. -/
def Run.withCleanup (body : Run σ ε α) (cleanup : Run σ ε Unit) : Run σ ε α := do
  let outcome ← body.settle
  let cleaned ← cleanup.attempt
  ofOutcome (outcome.afterCleanup cleaned)

/-- Runs both, also after a failure of the first, and fails with the first failure. -/
def Run.both (first second : Run σ ε Unit) : Run σ ε Unit := do
  let a ← first.attempt
  let b ← second.attempt
  match a with
  | .error e => fail e
  | .ok () => ofExcept b

end Rollout
