import Rollout.Proofs.Run.Agreement
import Rollout.Proofs.Run.Outcome
/-!
# Forms of a wait

A wait is for a value or for a condition, and what it looks at may fail or cannot. All four forms
come to the same: a condition that is met stands for a value, a condition that is not for none, and
what cannot fail may as well be looked at as something that could. They look as often and at the
same instants, and return together.
-/

namespace Rollout

open Time

variable {σ ε φ α β : Type}

/-- The same with another fault. -/
def Step.mapFault (f : ε → φ) (step : Step σ ε α) : Step σ φ α :=
  ⟨step.outcome.mapFault f, step.state, step.elapsed⟩

namespace Run

/-! ## Waits of another fault -/

def Evaluation.mapFault (f : ε → φ) (e : Evaluation σ ε α) : Evaluation σ φ α :=
  ⟨e.start, e.step.mapFault f⟩

section

variable (f : ε → φ)

theorem Evaluation.open_mapFault_iff (e : Evaluation σ ε α) (deadline : Nat) :
    (e.mapFault f).Open deadline ↔ e.Open deadline :=
  and_congr_left fun _ => Outcome.mapFault_eq_done_iff

theorem evaluate_mapFault (check : Run σ ε (Option α)) (clock : Clock) (now : Nat) (s : σ) :
    (check.mapFault f).evaluate clock now s = (check.evaluate clock now s).mapFault f := by
  unfold evaluate
  rw [mapFault_apply]
  rfl

theorem Rounds.mapFault {check : Run σ ε (Option α)} {clock : Clock}
    {interval deadline now : Nat}
    {s : σ} {es : List (Evaluation σ ε α)} (h : Rounds check clock interval deadline now s es) :
    Rounds (check.mapFault f) clock interval deadline now s (es.map (·.mapFault f)) := by
  induction h with
  | last closed =>
      rw [List.map_singleton, ← evaluate_mapFault]
      refine .last ?_
      rwa [evaluate_mapFault, Evaluation.open_mapFault_iff]
  | again goesOn later ih =>
      rw [List.map_cons, ← evaluate_mapFault]
      refine .again ?_ ?_
      · rwa [evaluate_mapFault, Evaluation.open_mapFault_iff]
      · rw [evaluate_mapFault]
        exact ih

theorem Evaluation.verdict_mapFault (e : Evaluation σ ε α) (now : Nat) :
    (e.mapFault f).verdict now = (e.verdict now).mapFault f := rfl

theorem pollFrom_mapFault (check : Run σ ε (Option α)) (clock : Clock) (interval deadline : Nat)
    (h : 0 < interval) (now : Nat) (s : σ) :
    pollFrom (check.mapFault f) clock interval deadline h now s =
      (pollFrom check clock interval deadline h now s).mapFault f := by
  obtain ⟨es, e, hrounds, hlast, hpoll⟩ := pollFrom_rounds check clock interval deadline h now s
  have hmapped : (es.map (·.mapFault f)).getLast? = some (e.mapFault f) := by
    rw [List.getLast?_map, hlast, Option.map_some]
  rw [pollFrom_eq_verdict h (hrounds.mapFault f) hmapped, hpoll, e.verdict_mapFault]

theorem spinFrom_mapFault (check : Run σ ε (Option α)) (clock : Clock) (deadline n now : Nat)
    (s : σ) : spinFrom (check.mapFault f) clock deadline n now s =
      (spinFrom check clock deadline n now s).mapFault f := by
  induction n generalizing now s with
  | zero => rfl
  | succ n ih =>
      rw [spinFrom, spinFrom, mapFault_apply]
      rcases check clock now s with ⟨(_ | a) | e | text, t, k⟩
      · by_cases hlate : deadline ≤ now + k
        · simp only [Outcome.mapFault, if_pos hlate]
          rfl
        · simp only [Outcome.mapFault, if_neg hlate, ih]
          rfl
      · rfl
      · rfl
      · rfl

theorem pollUntil_mapFault (p : Patience) (check : Run σ ε (Option α)) :
    pollUntil p (check.mapFault f) = (pollUntil p check).mapFault f := by
  ext clock now s
  rw [mapFault_apply]
  change _ = (pollUntil p check clock now s).mapFault f
  unfold pollUntil
  cases deadline? now p.timeout with
  | none => rfl
  | some deadline =>
      by_cases hinterval : 0 < p.interval.nanos
      · simp only [dif_pos hinterval]
        exact pollFrom_mapFault f check clock _ deadline hinterval now s
      · simp only [dif_neg hinterval]
        exact spinFrom_mapFault f check clock deadline spinLimit now s

theorem mapFault_bind_pure (x : Run σ ε α) (g : α → β) :
    (do return g (← x) : Run σ ε β).mapFault f = do return g (← x.mapFault f) := by
  ext clock now s
  rw [mapFault_apply, Run.bind_apply, Run.bind_apply, mapFault_apply]
  rcases x clock now s with ⟨a | e | text, t, n⟩ <;> rfl

theorem met_mapFault (condition : Run σ ε Bool) :
    met (condition.mapFault f) = (met condition).mapFault f := by
  unfold met
  exact (mapFault_bind_pure f condition fun holds => if holds then some () else none).symm

theorem awaitUntil_mapFault (p : Patience) (condition : Run σ ε Bool) :
    awaitUntil p (condition.mapFault f) = (awaitUntil p condition).mapFault f := by
  unfold awaitUntil
  rw [met_mapFault, pollUntil_mapFault, mapFault_bind_pure]

end

/-! ## Noted instants -/

/-- The run that also writes down when it starts. -/
def noted (x : Run σ ε α) : Run (List Nat × σ) ε α := do
  let start ← now
  modify fun s => (s.1 ++ [start], s.2)
  x.onSnd

theorem noted_apply (x : Run σ ε α) (clock : Clock) (now : Nat) (s : List Nat × σ) :
    x.noted clock now s = ⟨(x clock now s.2).outcome, (s.1 ++ [now], (x clock now s.2).state),
      (x clock now s.2).elapsed⟩ := by
  change (⟨_, _, 0 + (0 + (x clock (now + 0 + 0) s.2).elapsed)⟩ :
    Step (List Nat × σ) ε α) = _
  simp only [Nat.add_zero, Nat.zero_add]
  rfl

theorem noted_mapFault (f : ε → φ) (x : Run σ ε α) :
    (x.mapFault f).noted = x.noted.mapFault f := by
  ext clock now s
  rw [mapFault_apply, noted_apply, noted_apply, mapFault_apply]

theorem noted_agree (x : Run σ ε α) : Agree Over x.noted x := by
  rintro clock now s t rfl
  rw [noted_apply]
  exact ⟨rfl, rfl, rfl⟩

/-! ## The forms -/

/-- A value in place of the truth. -/
def token (holds : Bool) : Option Unit := if holds then some () else none

theorem isSome_eq_iff (value : Option Unit) (holds : Bool) :
    value.isSome = holds ↔ value = token holds := by
  cases value <;> cases holds <;> simp [token]

end Run

/-- One step comes to what the other one comes to, told in other values and faults, in the same
time and leaving the same. -/
structure Step.Mirrors (value : α → β) (fault : ε → φ) (x : Step σ ε α)
    (y : Step σ φ β) :
    Prop where
  done : ∀ a, x.outcome = .done a ↔ y.outcome = .done (value a)
  failed : ∀ e, y.outcome = .failed e ↔ ∃ cause, x.outcome = .failed cause ∧ fault cause = e
  panicked : ∀ text, x.outcome = .panicked text ↔ y.outcome = .panicked text
  state : x.state = y.state
  elapsed : x.elapsed = y.elapsed

namespace Step.Mirrors

theorem trans {γ χ : Type} {value : α → β} {fault : ε → φ} {value' : β → γ}
    {fault' : φ → χ}
    {x : Step σ ε α} {y : Step σ φ β} {z : Step σ χ γ} (hxy : x.Mirrors value fault y)
    (hyz : y.Mirrors value' fault' z) : x.Mirrors (value' ∘ value) (fault' ∘ fault) z where
  done a := (hxy.done a).trans (hyz.done (value a))
  failed e := by
    rw [hyz.failed]
    constructor
    · rintro ⟨reason, hreason, hlast⟩
      obtain ⟨cause, hcause, rfl⟩ := (hxy.failed reason).mp hreason
      exact ⟨cause, hcause, hlast⟩
    · rintro ⟨cause, hcause, hlast⟩
      exact ⟨fault cause, (hxy.failed _).mpr ⟨cause, hcause, rfl⟩, hlast⟩
  panicked text := (hxy.panicked text).trans (hyz.panicked text)
  state := hxy.state.trans hyz.state
  elapsed := hxy.elapsed.trans hyz.elapsed

theorem of_mapFault (f : ε → φ) (x : Step σ ε α) : x.Mirrors id f (x.mapFault f) := by
  obtain ⟨o, s, n⟩ := x
  refine ⟨fun a => Outcome.mapFault_eq_done_iff.symm, fun e => Outcome.mapFault_eq_failed_iff, ?_,
    rfl, rfl⟩
  intro text
  cases o <;> simp [Step.mapFault, Outcome.mapFault]

end Step.Mirrors

namespace Run

variable (p : Patience) (clock : Clock) (now : Nat)

theorem awaitUntil_mirrors (condition : Run σ ε Bool) (s : σ) :
    (awaitUntil p condition clock now s).Mirrors token id
      (pollUntil p (met condition) clock now s) := by
  unfold awaitUntil
  rw [bind_apply]
  rcases pollUntil p (met condition) clock now s with ⟨value | e | text, t, n⟩
  · refine ⟨fun holds => ?_, ?_, ?_, rfl, rfl⟩
    · change Outcome.done value.isSome = .done holds ↔ Outcome.done value = .done (token holds)
      rw [Outcome.done.injEq, Outcome.done.injEq]
      exact isSome_eq_iff value holds
    · simp [pure_apply]
    · simp [pure_apply]
  · refine ⟨?_, ?_, ?_, rfl, rfl⟩ <;> simp
  · refine ⟨?_, ?_, ?_, rfl, rfl⟩ <;> simp

theorem awaitSurely_mirrors (condition : Run σ Empty Bool) (s : σ) :
    (awaitSurely p condition clock now s).Mirrors id Empty.elim
      (awaitUntil p (condition.mapFault Empty.elim) clock now s : Step σ ε Bool) := by
  rw [awaitUntil_mapFault, mapFault_apply]
  exact .of_mapFault Empty.elim (awaitUntil p condition clock now s)

/-- The four forms of a wait for a condition that cannot fail come to the same, after looking at it
at the same instants; and so do the two forms of a wait for a condition that may fail. That the
instants are written down makes no difference to any of them. -/
theorem forms_agree (s : σ) :
    (∀ condition : Run σ Empty Bool,
      let fallible : Run σ ε Bool := condition.mapFault Empty.elim
      let sure := awaitSurely p condition.noted clock now ([], s)
      let tried := awaitUntil p fallible.noted clock now ([], s)
      let polled := pollSurely p (met condition.noted) clock now ([], s)
      let triedPolled := pollUntil p (met fallible.noted) clock now ([], s)
      (sure.Mirrors id Empty.elim tried ∧ sure.Mirrors token id polled ∧
        sure.Mirrors token Empty.elim triedPolled) ∧
      sure.Agree Over (awaitSurely p condition clock now s) ∧
      tried.Agree Over (awaitUntil p fallible clock now s) ∧
      polled.Agree Over (pollSurely p (met condition) clock now s) ∧
      triedPolled.Agree Over (pollUntil p (met fallible) clock now s)) ∧
    ∀ condition : Run σ ε Bool,
      let tried := awaitUntil p condition.noted clock now ([], s)
      let polled := pollUntil p (met condition.noted) clock now ([], s)
      tried.Mirrors token id polled ∧
      tried.Agree Over (awaitUntil p condition clock now s) ∧
      polled.Agree Over (pollUntil p (met condition) clock now s) := by
  have hawait {χ : Type} (condition : Run σ χ Bool) :=
    (noted_agree condition).awaitUntil p clock now ([], s) s rfl
  have hpoll {χ : Type} (condition : Run σ χ Bool) :=
    (noted_agree condition).met.pollUntil p clock now ([], s) s rfl
  refine ⟨fun condition => ?_, fun condition => ?_⟩
  · intro fallible sure tried polled triedPolled
    -- It is the same to note what could fail and to let fail what is noted.
    have hfallible : fallible.noted = condition.noted.mapFault Empty.elim :=
      noted_mapFault _ _
    have htried : sure.Mirrors id Empty.elim tried := by
      unfold tried
      rw [hfallible]
      exact awaitSurely_mirrors p clock now condition.noted ([], s)
    have htriedPolled := awaitUntil_mirrors p clock now fallible.noted ([], s)
    exact ⟨⟨htried, awaitUntil_mirrors p clock now condition.noted ([], s),
      htried.trans htriedPolled⟩, hawait condition, hawait fallible, hpoll condition,
        hpoll fallible⟩
  · intro tried polled
    exact ⟨awaitUntil_mirrors p clock now condition.noted ([], s), hawait condition,
      hpoll condition⟩

end Run

end Rollout
