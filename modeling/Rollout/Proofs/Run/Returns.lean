import Rollout.Proofs.Run.Invariant
import Rollout.Proofs.Run.Outcome
/-!
# Runs that return

Some runs end in a value or a failure wherever they start, and so does what is put together from
them. A wait for such a check is the exception: it panics when its deadline is no instant.
-/

namespace Rollout.Run

open Time

variable {σ ε φ α β : Type}

/-- The run never panics. -/
def Returns (x : Run σ ε α) : Prop :=
  ∀ clock now s, (x clock now s).outcome.returns = true

namespace Returns

theorem pure (a : α) : Returns (Pure.pure a : Run σ ε α) :=
  fun _ _ _ => rfl

theorem fail (e : ε) : Returns (Run.fail e : Run σ ε α) :=
  fun _ _ _ => rfl

theorem ofExcept (x : Except ε α) : Returns (Run.ofExcept x : Run σ ε α) := by
  cases x with
  | ok a => exact pure a
  | error e => exact fail e

theorem sleep (n : Nat) : Returns (Run.sleep n : Run σ ε Unit) :=
  fun _ _ _ => rfl

theorem bind {x : Run σ ε α} {f : α → Run σ ε β} (hx : Returns x)
    (hf : ∀ a, Returns (f a)) :
    Returns (x >>= f) := by
  intro clock now s
  have hfirst := hx clock now s
  rw [bind_apply]
  rcases hstep : x clock now s with ⟨a | e | text, t, n⟩
  · exact hf a clock (now + n) t
  · rfl
  · rwa [hstep] at hfirst

end Returns

/-- How a wait ends that starts at some instant: it returns, unless its deadline is no instant. Then
it panics before anything has happened. -/
def Deadlined (now : Nat) (timeout : Span) (s : σ) (step : Step σ ε α) : Prop :=
  if now + timeout.nanos < instantLimit then step.outcome.returns = true
  else step = ⟨.panicked "overflow when adding duration to instant", s, 0⟩

theorem pollUntil_deadlined {check : Run σ ε (Option α)} (hcheck : Returns check) (p : Patience)
    (hp : 0 < p.interval.nanos) (clock : Clock) (now : Nat) (s : σ) :
    Deadlined now p.timeout s (pollUntil p check clock now s) := by
  unfold Deadlined
  split
  · obtain ⟨es, e, hrounds, hlast, hpoll⟩ := pollUntil_rounds check clock hp ‹_› s
    have rule : WaitRule check clock (fun _ _ => True)
        (fun outcome _ _ => outcome.returns = true) :=
      { evaluated := fun _ => hcheck clock _ _
        paused := fun _ _ _ _ => trivial }
    rw [hpoll]
    exact rule.post_of_rounds hrounds trivial hlast
  · exact pollUntil_of_no_deadline check clock ‹_› s

namespace Deadlined

variable {clock : Clock} {now : Nat} {s : σ} {timeout : Span}

theorem bind {x : Run σ ε α} (h : Deadlined now timeout s (x clock now s))
    {f : α → Run σ ε β}
    (hf : ∀ a, Returns (f a)) : Deadlined now timeout s ((x >>= f) clock now s) := by
  unfold Deadlined at h ⊢
  rw [bind_apply]
  split
  · rename_i hdeadline
    rw [if_pos hdeadline] at h
    rcases hstep : x clock now s with ⟨a | e | text, t, n⟩
    · exact hf a clock (now + n) t
    · rfl
    · rwa [hstep] at h
  · rename_i hdeadline
    rw [if_neg hdeadline] at h
    rw [h]

end Deadlined

theorem awaitUntil_deadlined {condition : Run σ ε Bool} (h : Returns condition) (p : Patience)
    (hp : 0 < p.interval.nanos) (clock : Clock) (now : Nat) (s : σ) :
    Deadlined now p.timeout s (awaitUntil p condition clock now s) :=
  (pollUntil_deadlined (h.bind fun _ => .pure _) p hp clock now s).bind fun _ => .pure _

end Rollout.Run
