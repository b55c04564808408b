import Rollout.Time.Span
/-!
# Clocks

How long a sleep really lasts. A clock may cut sleeps short, but a sleep that is meant to take time
takes some.
-/

namespace Rollout.Time

structure Clock where
  /-- How long a sleep lasts that is meant to last this long. -/
  lasting : Nat → Nat
  lasting_pos : ∀ n, 0 < n → 0 < lasting n

namespace Clock

/-- Sleeps last as long as they are meant to. -/
def exact : Clock := ⟨id, fun _ h => h⟩

/-- No sleep lasts longer than `longest`. -/
def limited (longest : Nat) (h : 0 < longest) : Clock :=
  ⟨fun n => min n longest, fun n hn => by omega⟩

/-- Thirty years of 365 days. -/
def thirtyYears : Nat := 30 * 365 * 86400 * nanosPerSecond

/-- The clock that runs go by: no sleep lasts longer than thirty years. -/
def usual : Clock := limited thirtyYears (by decide)

theorem lasting_exact (n : Nat) : exact.lasting n = n := rfl

end Clock

end Rollout.Time
