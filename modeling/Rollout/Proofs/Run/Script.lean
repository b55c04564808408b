import Rollout.Proofs.Run.Outcome
import Rollout.Proofs.Run.Rounds
/-!
# Waits over a script

A script lays down how long each evaluation of a check takes and what it yields. A wait over a
script is the most general wait there is, because the evaluations of any check can be written down
as one. Here a wait over an arbitrary script is pinned down in full: when evaluations start, where
they stop, and what is answered.
-/

namespace Rollout

open Time

variable {ε α : Type}

namespace Run

/-- How long an evaluation takes and what it yields. -/
structure Answer (ε α : Type) where
  duration : Nat
  result : Except ε (Option α)

/-- An evaluation that was made. -/
structure Attempt (ε α : Type) where
  start : Nat
  answer : Answer ε α

def Attempt.reached (a : Attempt ε α) : Nat := a.start + a.answer.duration

/-- The check that follows a script and writes down its evaluations in order. -/
def scripted (script : Nat → Answer ε α) : Run (List (Attempt ε α)) ε (Option α) :=
  fun _ now made =>
    let answer := script made.length
    ⟨.ofExcept answer.result, made ++ [⟨now, answer⟩], answer.duration⟩

/-- What a wait over a script is held to. The attempts that were made are in the state it leaves. -/
structure KeepsTo (script : Nat → Answer ε α) (start interval deadline : Nat)
    (step : Step (List (Attempt ε α)) ε (Option α)) : Prop where
  /-- There is an attempt, and the first one is made at once. -/
  starts : ∃ rest, step.state = ⟨start, script 0⟩ :: rest
  follows : ∀ k a, step.state[k]? = some a → a.answer = script k
  /-- An attempt follows on the end of the one before and a pause that ends at the deadline at the
  latest. -/
  pauses : ∀ k a b, step.state[k]? = some a → step.state[k + 1]? = some b →
    b.start = a.reached + min interval (deadline - a.reached)
  punctual : ∀ a ∈ step.state, a.start ≤ deadline
  /-- A value or a failure is answered as it is, and no attempt is made after it. -/
  stops : ∀ k a, step.state[k]? = some a → a.answer.result ≠ .ok none →
    k + 1 = step.state.length ∧ step.outcome = .ofExcept a.answer.result
  /-- Only time runs out in a wait that yields nothing, and only at its last attempt. -/
  timesOut : step.outcome = .done none ↔
    (∀ a ∈ step.state, a.answer.result = .ok none) ∧
      (∃ a, step.state.getLast? = some a ∧ deadline ≤ a.reached) ∧
      ∀ a ∈ step.state.dropLast, a.reached < deadline
  /-- The wait is over when its last attempt is, and answers what that has yielded. -/
  ends : ∃ a, step.state.getLast? = some a ∧ step.outcome = .ofExcept a.answer.result ∧
    start + step.elapsed = a.reached

/-! ## Rounds over a script -/

namespace Rounds

variable {script : Nat → Answer ε α} {clock : Clock} {interval deadline now : Nat}
  {made : List (Attempt ε α)} {es : List (Evaluation (List (Attempt ε α)) ε α)}

theorem scripted_of_getElem? (h : Rounds (scripted script) clock interval deadline now made es)
    {k : Nat} {e : Evaluation (List (Attempt ε α)) ε α} (he : es[k]? = some e) :
    e.step.outcome = .ofExcept (script (made.length + k)).result ∧
      e.step.elapsed = (script (made.length + k)).duration := by
  induction h generalizing k with
  | last closed =>
      rw [List.getElem?_singleton] at he
      split at he
      · rename_i hk
        subst hk
        cases he
        exact ⟨rfl, rfl⟩
      · cases he
  | @again now made rest goesOn later ih =>
      cases k with
      | zero =>
          rw [List.getElem?_cons_zero] at he
          cases he
          exact ⟨rfl, rfl⟩
      | succ k =>
          rw [List.getElem?_cons_succ] at he
          have hlater := ih he
          have hlength : ((scripted script).evaluate clock now made).step.state.length + k =
              made.length + (k + 1) := by
            simp only [evaluate, scripted, List.length_append, List.length_singleton]
            omega
          rwa [hlength] at hlater

theorem scripted_state (h : Rounds (scripted script) clock interval deadline now made es)
    {e : Evaluation (List (Attempt ε α)) ε α} (he : es.getLast? = some e) :
    e.step.state = made ++ es.mapIdx fun k e => ⟨e.start, script (made.length + k)⟩ := by
  induction h with
  | last closed =>
      cases he
      rfl
  | @again now made rest goesOn later ih =>
      rw [List.getLast?_cons_of_ne_nil later.ne_nil] at he
      have hshift : ∀ k, made.length + 1 + k = made.length + (k + 1) := by
        intro k
        omega
      rw [ih he, List.mapIdx_cons]
      simp [evaluate, scripted, hshift]

end Rounds

/-- The attempt that an evaluation makes at its place in a script. -/
def Evaluation.attempt (script : Nat → Answer ε α) (k : Nat)
    (e : Evaluation (List (Attempt ε α)) ε α) : Attempt ε α :=
  ⟨e.start, script k⟩

def attempts (script : Nat → Answer ε α) (es : List (Evaluation (List (Attempt ε α)) ε α)) :
    List (Attempt ε α) :=
  es.mapIdx (Evaluation.attempt script)

section

variable {script : Nat → Answer ε α} {interval deadline start : Nat}
  {es : List (Evaluation (List (Attempt ε α)) ε α)}
  {last : Evaluation (List (Attempt ε α)) ε α}

@[simp] theorem length_attempts : (attempts script es).length = es.length :=
  List.length_mapIdx

theorem getElem?_attempts {k : Nat} {a : Attempt ε α} (ha : (attempts script es)[k]? = some a) :
    ∃ e, es[k]? = some e ∧ a = e.attempt script k := by
  rw [attempts, List.getElem?_mapIdx] at ha
  obtain ⟨e, he, hattempt⟩ := Option.map_eq_some_iff.mp ha
  exact ⟨e, he, hattempt.symm⟩

namespace Rounds

variable (h : Rounds (scripted script) .exact interval deadline start [] es)
include h

theorem attempt_spec {k : Nat} {e : Evaluation (List (Attempt ε α)) ε α}
    (he : es[k]? = some e) :
    (e.attempt script k).reached = e.reached ∧
      e.step.outcome = .ofExcept (e.attempt script k).answer.result := by
  obtain ⟨houtcome, helapsed⟩ := h.scripted_of_getElem? he
  rw [List.length_nil, Nat.zero_add] at houtcome helapsed
  unfold Evaluation.attempt Attempt.reached Evaluation.reached
  exact ⟨by rw [helapsed], houtcome⟩

theorem attempts_cons : ∃ rest, attempts script es = ⟨start, script 0⟩ :: rest := by
  have hhead := h.head?_eq
  cases es with
  | nil => cases hhead
  | cons first rest =>
      cases hhead
      exact ⟨_, List.mapIdx_cons⟩

theorem start_attempts_succ {k : Nat} {a b : Attempt ε α} (ha : (attempts script es)[k]? = some a)
    (hb : (attempts script es)[k + 1]? = some b) :
    b.start = a.reached + min interval (deadline - a.reached) := by
  obtain ⟨e, he, rfl⟩ := getElem?_attempts ha
  obtain ⟨next, hnext, rfl⟩ := getElem?_attempts hb
  rw [(h.attempt_spec he).1, h.eq_evaluate_of_getElem?_succ he hnext]
  rfl

theorem start_attempts_le (hstart : start ≤ deadline) {a : Attempt ε α}
    (ha : a ∈ attempts script es) : a.start ≤ deadline := by
  obtain ⟨k, hk⟩ := List.mem_iff_getElem?.mp ha
  obtain ⟨e, he, rfl⟩ := getElem?_attempts hk
  exact h.start_le (fun n => Nat.le_of_eq (Clock.lasting_exact n)) hstart
    (List.mem_of_getElem? he)

theorem attempts_of_lt {k : Nat} {a : Attempt ε α} (ha : (attempts script es)[k]? = some a)
    (hk : k + 1 < es.length) : a.answer.result = .ok none ∧ a.reached < deadline := by
  obtain ⟨e, he, rfl⟩ := getElem?_attempts ha
  obtain ⟨houtcome, hreached⟩ := h.open_of_lt he hk
  obtain ⟨hsame, hyield⟩ := h.attempt_spec he
  rw [hyield, Outcome.ofExcept_eq_done_iff] at houtcome
  exact ⟨houtcome, by rwa [hsame]⟩

variable (hlast : es.getLast? = some last)
include hlast

theorem state_eq_attempts : last.step.state = attempts script es := by
  have hstate := h.scripted_state hlast
  simp only [List.length_nil, Nat.zero_add, List.nil_append] at hstate
  exact hstate

theorem getLast?_attempts : ∃ a, (attempts script es)[es.length - 1]? = some a ∧
    last.step.outcome = .ofExcept a.answer.result ∧ a.reached = last.reached ∧
    (a.answer.result = .ok none → deadline ≤ a.reached) := by
  have hend : es[es.length - 1]? = some last := by rwa [← List.getLast?_eq_getElem?]
  obtain ⟨hsame, hyield⟩ := h.attempt_spec hend
  refine ⟨last.attempt script (es.length - 1), ?_, hyield, hsame, ?_⟩
  · rw [attempts, List.getElem?_mapIdx, hend, Option.map_some]
  · intro hnone
    rw [hnone] at hyield
    have hclosed := h.not_open_of_getLast? hlast
    rw [hsame]
    exact Nat.le_of_not_lt fun hlt => hclosed ⟨hyield, hlt⟩

end Rounds

theorem Rounds.last_or_open (h : Rounds (scripted script) .exact interval deadline start [] es)
    {a b : Attempt ε α} (ha : (attempts script es)[es.length - 1]? = some a) {k : Nat}
    (hb : (attempts script es)[k]? = some b) :
    (k + 1 = es.length ∧ b = a) ∨ (b.answer.result = .ok none ∧ b.reached < deadline) := by
  have hlength : (attempts script es).length = es.length := length_attempts
  have hk : k < es.length := by
    rw [← hlength]
    exact (List.getElem?_eq_some_iff.mp hb).1
  rcases Nat.lt_or_ge (k + 1) es.length with hlt | hge
  · exact .inr (h.attempts_of_lt hb hlt)
  · have hkl : k = es.length - 1 := by omega
    subst hkl
    rw [ha] at hb
    exact .inl ⟨by omega, (Option.some.inj hb).symm⟩

theorem Rounds.outcome_eq_none_iff
    (h : Rounds (scripted script) .exact interval deadline start [] es) {a : Attempt ε α}
    (ha : (attempts script es)[es.length - 1]? = some a)
    (houtcome : last.step.outcome = .ofExcept a.answer.result)
    (hlate : a.answer.result = .ok none → deadline ≤ a.reached) :
    last.step.outcome = .done none ↔
      (∀ b ∈ attempts script es, b.answer.result = .ok none) ∧
        (∃ b, (attempts script es).getLast? = some b ∧ deadline ≤ b.reached) ∧
        ∀ b ∈ (attempts script es).dropLast, b.reached < deadline := by
  have hget : (attempts script es).getLast? = some a := by
    rw [List.getLast?_eq_getElem?, length_attempts, ha]
  constructor
  · intro hnone
    have hresult : a.answer.result = .ok none := by
      rwa [← Outcome.ofExcept_eq_done_iff, ← houtcome]
    refine ⟨?_, ⟨a, hget, hlate hresult⟩, ?_⟩
    · intro b hb
      obtain ⟨k, hk⟩ := List.mem_iff_getElem?.mp hb
      rcases h.last_or_open ha hk with ⟨-, rfl⟩ | ⟨hopen, -⟩
      · exact hresult
      · exact hopen
    · intro b hb
      obtain ⟨k, hk⟩ := List.mem_iff_getElem?.mp hb
      rw [List.getElem?_dropLast, length_attempts] at hk
      split at hk
      · exact (h.attempts_of_lt hk (by omega)).2
      · cases hk
  · rintro ⟨hall, -, -⟩
    rw [houtcome, hall a (List.mem_of_getLast? hget)]
    rfl

/-- The attempts of a chain of evaluations keep to the script, and the chain ends as they do. -/
theorem Rounds.keepsTo (h : Rounds (scripted script) .exact interval deadline start [] es)
    (hlast : es.getLast? = some last) (hstart : start ≤ deadline) :
    KeepsTo script start interval deadline (last.verdict start) := by
  have hstate : (last.verdict start).state = attempts script es := h.state_eq_attempts hlast
  obtain ⟨a, ha, houtcome, hreached, hlate⟩ := h.getLast?_attempts hlast
  have hget : (attempts script es).getLast? = some a := by
    rw [List.getLast?_eq_getElem?, length_attempts, ha]
  refine ⟨?_, ?_, ?_, ?_, ?_, ?_, ?_⟩ <;> rw [hstate]
  · exact h.attempts_cons
  · intro k b hb
    obtain ⟨e, he, rfl⟩ := getElem?_attempts hb
    rfl
  · intro k b c hb hc
    exact h.start_attempts_succ hb hc
  · intro b hb
    exact h.start_attempts_le hstart hb
  · intro k b hb hresult
    rcases h.last_or_open ha hb with ⟨hk, rfl⟩ | ⟨hnone, -⟩
    · exact ⟨by rw [length_attempts, hk], houtcome⟩
    · exact absurd hnone hresult
  · exact h.outcome_eq_none_iff ha houtcome hlate
  · refine ⟨a, hget, houtcome, ?_⟩
    have hle := h.le_start (List.mem_of_getLast? hlast)
    have hle' := last.start_le_reached
    rw [hreached]
    show start + (last.reached - start) = last.reached
    omega

end

/-- A wait with a deadline and pauses between its evaluations keeps to any script, if sleeps last
as long as they are meant to. -/
theorem pollUntil_keepsTo (p : Patience) (script : Nat → Answer ε α) (start : Nat)
    (hdeadline : start + p.timeout.nanos < instantLimit) (hinterval : 0 < p.interval.nanos) :
    KeepsTo script start p.interval.nanos (start + p.timeout.nanos)
      (pollUntil p (scripted script) .exact start []) := by
  obtain ⟨es, last, hrounds, hlast, hpoll⟩ := pollFrom_rounds (scripted script) .exact
    p.interval.nanos (start + p.timeout.nanos) hinterval start []
  have hstart : start ≤ start + p.timeout.nanos := Nat.le_add_right _ _
  rw [pollUntil, deadline?, if_pos hdeadline]
  simp only [dif_pos hinterval]
  rw [hpoll]
  exact hrounds.keepsTo hlast hstart

/-- The second pause is cut short, and the evaluation after it overruns the deadline. -/
theorem pollUntil_keepsTo_overrun :
    let p : Patience := ⟨.ofMillis 2500, .ofMillis 1000⟩
    let script : Nat → Answer String Unit := fun k => ⟨k * 900 * nanosPerMilli, .ok none⟩
    0 + p.timeout.nanos < instantLimit ∧ 0 < p.interval.nanos ∧
      KeepsTo script 0 p.interval.nanos (0 + p.timeout.nanos)
        (pollUntil p (scripted script) .exact 0 []) :=
  ⟨by decide, by decide, pollUntil_keepsTo _ _ 0 (by decide) (by decide)⟩

example :
    let script : Nat → Answer String Unit := fun k => ⟨k * 900 * nanosPerMilli, .ok none⟩
    let step := pollUntil ⟨.ofMillis 2500, .ofMillis 1000⟩ (scripted script) .exact 0 []
    step.state.map Attempt.start =
        [0, 1000 * nanosPerMilli, 2500 * nanosPerMilli] ∧
      step.outcome = .done none ∧ step.elapsed = 4300 * nanosPerMilli := by
  decide +kernel

end Run

end Rollout
