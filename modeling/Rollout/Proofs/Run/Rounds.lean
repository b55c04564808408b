import Rollout.Run.Wait
/-!
# Rounds of a wait

A wait is a chain of evaluations. Each but the last has yielded nothing before the deadline, and
the next one starts after a pause that is cut to end at the deadline. The chain is defined on its
own here, and what the wait answers is what the last evaluation of its chain has yielded.
-/

namespace Rollout

open Time

namespace Run

variable {σ ε α : Type}

/-- An evaluation of a check: when it starts and what becomes of it. -/
structure Evaluation (σ ε α : Type) where
  start : Nat
  step : Step σ ε (Option α)

def evaluate (check : Run σ ε (Option α)) (clock : Clock) (now : Nat) (s : σ) :
    Evaluation σ ε α :=
  ⟨now, check clock now s⟩

namespace Evaluation

/-- The instant at which an evaluation ends. -/
def reached (e : Evaluation σ ε α) : Nat := e.start + e.step.elapsed

/-- The instant after the pause that follows an evaluation. -/
def following (clock : Clock) (interval deadline : Nat) (e : Evaluation σ ε α) : Nat :=
  e.reached + clock.lasting (min interval (deadline - e.reached))

/-- Whether the wait goes on after an evaluation. -/
def Open (deadline : Nat) (e : Evaluation σ ε α) : Prop :=
  e.step.outcome = .done none ∧ e.reached < deadline

/-- How a wait ends that started at `now`, if this is its last evaluation. -/
def verdict (now : Nat) (e : Evaluation σ ε α) : Step σ ε (Option α) :=
  ⟨e.step.outcome, e.step.state, e.reached - now⟩

theorem start_le_reached (e : Evaluation σ ε α) : e.start ≤ e.reached :=
  Nat.le_add_right _ _

theorem reached_lt_following {clock : Clock} {interval deadline : Nat} {e : Evaluation σ ε α}
    (h : 0 < interval) (goesOn : e.Open deadline) :
    e.reached < e.following clock interval deadline := by
  have hreached := goesOn.2
  have hpause : 0 < clock.lasting (min interval (deadline - e.reached)) :=
    clock.lasting_pos _ (by omega)
  unfold following
  omega

theorem following_le {clock : Clock} (hclock : ∀ n, clock.lasting n ≤ n)
    {interval deadline : Nat}
    {e : Evaluation σ ε α} (goesOn : e.Open deadline) :
    e.following clock interval deadline ≤ deadline := by
  have hreached := goesOn.2
  have hpause := hclock (min interval (deadline - e.reached))
  unfold following
  omega

end Evaluation

/-- The evaluations of a wait from an instant and a state on, in order. -/
inductive Rounds (check : Run σ ε (Option α)) (clock : Clock) (interval deadline : Nat) :
    Nat → σ → List (Evaluation σ ε α) → Prop where
  | last {now : Nat} {s : σ} (closed : ¬ (check.evaluate clock now s).Open deadline) :
      Rounds check clock interval deadline now s [check.evaluate clock now s]
  | again {now : Nat} {s : σ} {rest : List (Evaluation σ ε α)}
      (goesOn : (check.evaluate clock now s).Open deadline)
      (later : Rounds check clock interval deadline
        ((check.evaluate clock now s).following clock interval deadline)
        (check.evaluate clock now s).step.state rest) :
      Rounds check clock interval deadline now s (check.evaluate clock now s :: rest)

namespace Rounds

variable {check : Run σ ε (Option α)} {clock : Clock} {interval deadline now : Nat} {s : σ}
  {es : List (Evaluation σ ε α)}

theorem head?_eq (h : Rounds check clock interval deadline now s es) :
    es.head? = some (check.evaluate clock now s) := by
  cases h <;> rfl

theorem ne_nil (h : Rounds check clock interval deadline now s es) : es ≠ [] := by
  cases h <;> exact List.cons_ne_nil _ _

theorem eq_evaluate_of_getElem?_succ (h : Rounds check clock interval deadline now s es) {k : Nat}
    {e next : Evaluation σ ε α} (he : es[k]? = some e) (hnext : es[k + 1]? = some next) :
    next = check.evaluate clock (e.following clock interval deadline) e.step.state := by
  induction h generalizing k with
  | last closed => simp at hnext
  | again goesOn later ih =>
      cases k with
      | zero =>
          rw [List.getElem?_cons_zero] at he
          rw [List.getElem?_cons_succ, ← List.head?_eq_getElem?, later.head?_eq] at hnext
          cases he
          cases hnext
          rfl
      | succ k =>
          rw [List.getElem?_cons_succ] at he hnext
          exact ih he hnext

theorem not_open_of_getLast? (h : Rounds check clock interval deadline now s es)
    {e : Evaluation σ ε α} (he : es.getLast? = some e) : ¬ e.Open deadline := by
  induction h with
  | last closed =>
      cases he
      exact closed
  | again goesOn later ih =>
      apply ih
      rwa [List.getLast?_cons_of_ne_nil later.ne_nil] at he

theorem open_of_lt (h : Rounds check clock interval deadline now s es) {k : Nat}
    {e : Evaluation σ ε α} (he : es[k]? = some e) (hk : k + 1 < es.length) :
    e.Open deadline := by
  induction h generalizing k with
  | last closed => simp at hk
  | again goesOn later ih =>
      cases k with
      | zero =>
          rw [List.getElem?_cons_zero] at he
          cases he
          exact goesOn
      | succ k =>
          rw [List.getElem?_cons_succ] at he
          exact ih he (Nat.lt_of_succ_lt_succ hk)

theorem le_start (h : Rounds check clock interval deadline now s es) {e : Evaluation σ ε α}
    (he : e ∈ es) : now ≤ e.start := by
  induction h with
  | last closed =>
      rw [List.mem_singleton.mp he]
      exact Nat.le_refl _
  | @again now s rest goesOn later ih =>
      rcases List.mem_cons.mp he with hfirst | hrest
      · rw [hfirst]
        exact Nat.le_refl _
      · have hle := ih hrest
        have hstart := (check.evaluate clock now s).start_le_reached
        change now ≤ _ at hstart
        unfold Evaluation.following at hle
        omega

theorem start_le (h : Rounds check clock interval deadline now s es)
    (hclock : ∀ n, clock.lasting n ≤ n) (hnow : now ≤ deadline) {e : Evaluation σ ε α}
    (he : e ∈ es) : e.start ≤ deadline := by
  induction h with
  | last closed =>
      rw [List.mem_singleton.mp he]
      exact hnow
  | again goesOn later ih =>
      rcases List.mem_cons.mp he with hfirst | hrest
      · rw [hfirst]
        exact hnow
      · exact ih (Evaluation.following_le hclock goesOn) hrest

/-- If pauses last for some time or are not cut short, each evaluation but the first and the last
takes that much off the time there is. -/
theorem length_le_of_pause (h : Rounds check clock interval deadline now s es) {pause : Nat}
    (hpos : 0 < pause) (hle : pause ≤ interval)
    (hclock : ∀ n ≤ interval, min n pause ≤ clock.lasting n) :
    es.length ≤ (deadline - now + (pause - 1)) / pause + 1 := by
  -- The bound goes down by one with each round that leaves the wait going.
  induction h with
  | last closed => exact Nat.le_add_left _ _
  | @again now s rest goesOn later ih =>
      let first := check.evaluate clock now s
      have hreached : first.reached < deadline := goesOn.2
      have hstart : now ≤ first.reached := first.start_le_reached
      have hpause := hclock _ (Nat.min_le_left interval (deadline - first.reached))
      have hnext : first.following clock interval deadline =
        first.reached + clock.lasting (min interval (deadline - first.reached)) := rfl
      change rest.length ≤
        (deadline - first.following clock interval deadline + (pause - 1)) / pause + 1 at ih
      refine Nat.succ_le_succ (Nat.le_trans ih ?_)
      by_cases hcut : deadline - first.reached < pause
      · -- The pause ends at the deadline, where one evaluation is left.
        have hend : deadline - first.following clock interval deadline = 0 := by omega
        rw [hend, Nat.zero_add, Nat.div_eq_of_lt (by omega)]
        exact Nat.div_pos (by omega) hpos
      · rw [← Nat.add_div_right _ hpos]
        exact Nat.div_le_div_right (by omega)

/-- On a clock that cuts no pause short, each evaluation but the first and the last takes an
interval off the time there is. -/
theorem length_le (h : Rounds check clock interval deadline now s es)
    (hinterval : 0 < interval) (hclock : ∀ n ≤ interval, n ≤ clock.lasting n) :
    es.length ≤ (deadline - now + (interval - 1)) / interval + 1 := by
  apply h.length_le_of_pause hinterval (Nat.le_refl _)
  intro n hn
  exact Nat.le_trans (Nat.min_le_left _ _) (hclock n hn)

theorem length_of_idle (h : Rounds check .exact interval deadline now s es)
    (hinterval : 0 < interval)
    (hidle : ∀ now t, (check .exact now t).outcome = .done none ∧
      (check .exact now t).elapsed = 0) :
    es.length = (deadline - now + (interval - 1)) / interval + 1 := by
  generalize hclock : Clock.exact = clock at h hidle
  induction h with
  | @last now s closed =>
      have hlate : deadline ≤ now := by
        refine Nat.le_of_not_lt fun hearly => closed ⟨(hidle now s).1, ?_⟩
        change now + (check clock now s).elapsed < deadline
        rw [(hidle now s).2]
        omega
      rw [Nat.sub_eq_zero_of_le hlate, Nat.zero_add, Nat.div_eq_of_lt (by omega)]
      rfl
  | @again now s rest goesOn later ih =>
      have hreached : (check.evaluate clock now s).reached = now := by
        change now + (check clock now s).elapsed = now
        rw [(hidle now s).2, Nat.add_zero]
      have hopen : now < deadline := hreached ▸ goesOn.2
      have hpause : clock.lasting (min interval (deadline - now)) = min interval (deadline - now) :=
        hclock ▸ rfl
      have hfollowing : (check.evaluate clock now s).following clock interval deadline =
          now + min interval (deadline - now) := by
        unfold Evaluation.following
        rw [hreached, hpause]
      rw [List.length_cons, ih, hfollowing]
      congr 1
      by_cases hcut : deadline - now ≤ interval
      · have hend : deadline - (now + min interval (deadline - now)) = 0 := by omega
        rw [hend, Nat.zero_add, Nat.div_eq_of_lt (by omega)]
        refine (Nat.div_eq_of_lt_le ?_ ?_).symm <;> omega
      · rw [← Nat.add_div_right _ hinterval]
        congr 1
        omega

theorem eq_evaluate_of_mem (h : Rounds check clock interval deadline now s es)
    {e : Evaluation σ ε α} (he : e ∈ es) : ∃ t, e = check.evaluate clock e.start t := by
  induction h with
  | @last now s closed =>
      rw [List.mem_singleton.mp he]
      exact ⟨s, rfl⟩
  | @again now s rest goesOn later ih =>
      rcases List.mem_cons.mp he with hfirst | hrest
      · rw [hfirst]
        exact ⟨s, rfl⟩
      · exact ih hrest

end Rounds

/-! ## The wait follows its rounds -/

variable (check : Run σ ε (Option α)) (clock : Clock) (interval deadline : Nat)
  (h : 0 < interval)

theorem pollFrom_of_not_open {now : Nat} {s : σ}
    (closed : ¬ (check.evaluate clock now s).Open deadline) :
    pollFrom check clock interval deadline h now s = check clock now s := by
  rw [pollFrom]
  unfold Evaluation.Open evaluate Evaluation.reached at closed
  rcases hstep : check clock now s with ⟨⟨_ | a⟩ | e | text, t, n⟩
  · rw [hstep] at closed
    have hlate : deadline ≤ now + n := by simpa using closed
    simp [hlate]
  · rfl
  · rfl
  · rfl

theorem pollFrom_of_open {now : Nat} {s : σ}
    (goesOn : (check.evaluate clock now s).Open deadline) :
    pollFrom check clock interval deadline h now s =
      let first := check.evaluate clock now s
      let rest := pollFrom check clock interval deadline h
        (first.following clock interval deadline) first.step.state
      ⟨rest.outcome, rest.state,
        first.following clock interval deadline - now + rest.elapsed⟩ := by
  rw [pollFrom]
  obtain ⟨houtcome, hreached⟩ := goesOn
  change (check clock now s).outcome = .done none at houtcome
  change now + (check clock now s).elapsed < deadline at hreached
  have hearly : ¬ deadline ≤ now + (check clock now s).elapsed := by omega
  simp only [houtcome, if_neg hearly, evaluate, Evaluation.following, Evaluation.reached]
  congr 1
  omega

/-- A chain of evaluations ends, because every pause takes some time. -/
theorem exists_rounds (check : Run σ ε (Option α)) (clock : Clock) {interval : Nat}
    (h : 0 < interval) (deadline now : Nat) (s : σ) :
    ∃ es, Rounds check clock interval deadline now s es := by
  -- By the time that is left, since a round that is not the last ends after it has begun.
  induction hleft : deadline - now using Nat.strongRecOn generalizing now s with
  | _ left ih =>
      let first := check.evaluate clock now s
      by_cases hopen : first.Open deadline
      · have hforward : first.reached < first.following clock interval deadline :=
          Evaluation.reached_lt_following h hopen
        have hnow : now ≤ first.reached := first.start_le_reached
        have hreached := hopen.2
        obtain ⟨es, hrounds⟩ :=
          ih (deadline - first.following clock interval deadline) (by omega)
          (first.following clock interval deadline) first.step.state rfl
        exact ⟨first :: es, .again hopen hrounds⟩
      · exact ⟨[first], .last hopen⟩

theorem pollFrom_eq_verdict {check : Run σ ε (Option α)} {clock : Clock}
    {interval deadline : Nat}
    (h : 0 < interval) {now : Nat} {s : σ} {es : List (Evaluation σ ε α)}
    (hrounds : Rounds check clock interval deadline now s es) {e : Evaluation σ ε α}
    (hlast : es.getLast? = some e) :
    pollFrom check clock interval deadline h now s = e.verdict now := by
  induction hrounds with
  | @last now s closed =>
      obtain rfl : check.evaluate clock now s = e := Option.some.inj hlast
      rw [pollFrom_of_not_open _ _ _ _ h closed]
      unfold Evaluation.verdict Evaluation.reached
      simp only [evaluate, Nat.add_sub_cancel_left]
  | @again now s rest goesOn later ih =>
      let first := check.evaluate clock now s
      rw [List.getLast?_cons_of_ne_nil later.ne_nil] at hlast
      have hforward : first.reached < first.following clock interval deadline :=
        Evaluation.reached_lt_following h goesOn
      have hnow : now ≤ first.reached := first.start_le_reached
      have hstart := later.le_start (List.mem_of_getLast? hlast)
      have hend := e.start_le_reached
      rw [pollFrom_of_open _ _ _ _ h goesOn]
      simp only [first] at hforward hnow
      simp only [ih hlast]
      unfold Evaluation.verdict
      congr 1
      simp only
      omega

/-- Every wait with pauses is such a wait. -/
theorem pollFrom_rounds (now : Nat) (s : σ) :
    ∃ es e, Rounds check clock interval deadline now s es ∧ es.getLast? = some e ∧
      pollFrom check clock interval deadline h now s = e.verdict now := by
  obtain ⟨es, hrounds⟩ := exists_rounds check clock h deadline now s
  have hlast := List.getLast?_eq_some_getLast hrounds.ne_nil
  exact ⟨es, _, hrounds, hlast, pollFrom_eq_verdict h hrounds hlast⟩

theorem pollUntil_of_pos (check : Run σ ε (Option α)) (clock : Clock) {p : Patience}
    (hp : 0 < p.interval.nanos) {now : Nat} (hdeadline : now + p.timeout.nanos < instantLimit)
    (s : σ) : pollUntil p check clock now s =
      pollFrom check clock p.interval.nanos (now + p.timeout.nanos) hp now s := by
  unfold pollUntil deadline?
  rw [if_pos hdeadline]
  exact dif_pos hp

theorem pollUntil_rounds (check : Run σ ε (Option α)) (clock : Clock) {p : Patience}
    (hp : 0 < p.interval.nanos) {now : Nat} (hdeadline : now + p.timeout.nanos < instantLimit)
    (s : σ) : ∃ es e,
      Rounds check clock p.interval.nanos (now + p.timeout.nanos) now s es ∧
        es.getLast? = some e ∧ pollUntil p check clock now s = e.verdict now := by
  rw [pollUntil_of_pos check clock hp hdeadline s]
  exact pollFrom_rounds check clock p.interval.nanos (now + p.timeout.nanos) hp now s

theorem pollUntil_of_no_deadline (check : Run σ ε (Option α)) (clock : Clock) {p : Patience}
    {now : Nat} (hdeadline : ¬ now + p.timeout.nanos < instantLimit) (s : σ) :
    pollUntil p check clock now s =
      ⟨.panicked "overflow when adding duration to instant", s, 0⟩ := by
  unfold pollUntil deadline?
  rw [if_neg hdeadline]

end Run

end Rollout
