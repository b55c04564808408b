import Rollout.Proofs.Run.Rounds
/-!
# Invariants of waits

What holds before each evaluation of a wait, and what follows from it for the outcome of the wait.
The rule is the same for waits with and without pauses. A wait panics on its own only if it has no
deadline or makes no pauses.
-/

namespace Rollout.Run

open Time

variable {σ ε α : Type}

/-- `inv` holds at the start of every evaluation and `post` at the end. A pause of any length may
follow an evaluation that has yielded nothing. -/
structure WaitRule (check : Run σ ε (Option α)) (clock : Clock) (inv : Nat → σ → Prop)
    (post : Outcome ε (Option α) → Nat → σ → Prop) : Prop where
  evaluated : ∀ {now s}, inv now s →
    post (check clock now s).outcome (now + (check clock now s).elapsed) (check clock now s).state
  paused : ∀ {now s}, inv now s → (check clock now s).outcome = .done none →
    ∀ later, now + (check clock now s).elapsed ≤ later → inv later (check clock now s).state

namespace WaitRule

variable {check : Run σ ε (Option α)} {clock : Clock} {inv : Nat → σ → Prop}
  {post : Outcome ε (Option α) → Nat → σ → Prop} (rule : WaitRule check clock inv post)
include rule

theorem post_of_rounds {interval deadline now : Nat} {s : σ} {es : List (Evaluation σ ε α)}
    (h : Rounds check clock interval deadline now s es) (hinv : inv now s) {e : Evaluation σ ε α}
    (he : es.getLast? = some e) : post e.step.outcome e.reached e.step.state := by
  induction h with
  | last closed =>
      cases he
      exact rule.evaluated hinv
  | again goesOn later ih =>
      rw [List.getLast?_cons_of_ne_nil later.ne_nil] at he
      refine ih (rule.paused hinv goesOn.1 _ ?_) he
      exact Nat.le_add_right _ _

theorem post_of_spinFrom (spun : ∀ {now s}, inv now s → ∀ text, post (.panicked text) now s)
    (deadline n now : Nat) (s : σ) (hinv : inv now s) :
    post (spinFrom check clock deadline n now s).outcome
      (now + (spinFrom check clock deadline n now s).elapsed)
      (spinFrom check clock deadline n now s).state := by
  induction n generalizing now s with
  | zero => exact spun hinv _
  | succ n ih =>
      have heval := rule.evaluated hinv
      have hpause := rule.paused hinv
      rw [spinFrom]
      rcases hstep : check clock now s with ⟨⟨_ | a⟩ | e | text, t, k⟩
      · rw [hstep] at heval hpause
        by_cases hlate : deadline ≤ now + k
        · simpa only [hlate, if_true] using heval
        · have hrest := ih (now + k) t (hpause rfl _ (Nat.le_refl _))
          simpa only [hlate, if_false, Nat.add_assoc] using hrest
      · rwa [hstep] at heval
      · rwa [hstep] at heval
      · rwa [hstep] at heval

theorem post_of_pollUntil (p : Patience) {now : Nat} {s : σ} (hinv : inv now s)
    (late : ∀ text, post (.panicked text) now s)
    (spun : p.interval.nanos = 0 → ∀ {now s}, inv now s →
      ∀ text, post (.panicked text) now s) :
    post (pollUntil p check clock now s).outcome (now + (pollUntil p check clock now s).elapsed)
      (pollUntil p check clock now s).state := by
  unfold pollUntil
  cases deadline? now p.timeout with
  | none => exact late _
  | some deadline =>
      by_cases hinterval : 0 < p.interval.nanos
      · obtain ⟨es, e, hrounds, hlast, hpoll⟩ :=
          pollFrom_rounds check clock p.interval.nanos deadline hinterval now s
        have hpost := rule.post_of_rounds hrounds hinv hlast
        have hstart := hrounds.le_start (List.mem_of_getLast? hlast)
        have hend : now + (e.reached - now) = e.reached := by
          have hle := e.start_le_reached
          omega
        simp only [dif_pos hinterval, hpoll]
        change post e.step.outcome (now + (e.reached - now)) e.step.state
        rwa [hend]
      · simp only [dif_neg hinterval]
        exact rule.post_of_spinFrom (spun (by omega)) deadline spinLimit now s hinv

end WaitRule

end Rollout.Run
