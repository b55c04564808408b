import Rollout.Run.Basic
import Rollout.Settings
/-!
# Scenario time

Scenarios are written in units of time. A unit is a second on a real cluster, and the intervals of
readiness checks are in the same units.
-/

namespace Rollout

open Time

structure Timings where
  unit : Span
  deriving DecidableEq

namespace Timings

variable {σ ε : Type}

def usual : Timings := ⟨.ofSecs 1⟩

def ofSettings (s : Settings) : Timings := ⟨s.timeUnit⟩

/-- The span of `n` units, if it is not too long. -/
def units? (t : Timings) (n : UInt32) : Option Span := t.unit.times? n

/-- The span of `n` units. -/
def units (t : Timings) (n : UInt32) : Run σ ε Span :=
  match t.units? n with
  | some span => pure span
  | none => .panic "overflow when multiplying duration by scalar"

/-- Lets `n` units pass. -/
def sleep (t : Timings) (n : UInt32) : Run σ ε Unit := do
  let span ← t.units n
  .sleep span.nanos

end Timings

end Rollout
