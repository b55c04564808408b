import Rollout.Proofs.Run.Invariant
import Rollout.Run.Cleanup
/-!
# Agreement of runs

Two runs over different states agree if, from related states, they take the same time, end in the
same way and leave related states. Agreement goes through everything runs are put together with,
so that something kept beside a state can be shown to make no difference to what happens.
-/

namespace Rollout

open Time

variable {σ τ ε φ α β : Type}

structure Step.Agree (R : σ → τ → Prop) (x : Step σ ε α) (y : Step τ ε α) : Prop where
  outcome : x.outcome = y.outcome
  elapsed : x.elapsed = y.elapsed
  state : R x.state y.state

namespace Run

def Agree (R : σ → τ → Prop) (x : Run σ ε α) (y : Run τ ε α) : Prop :=
  ∀ clock now s t, R s t → (x clock now s).Agree R (y clock now t)

/-- States with an equal first part and related second parts. -/
def Beside {ρ : Type} (R : σ → τ → Prop) (s : ρ × σ) (t : ρ × τ) : Prop :=
  s.1 = t.1 ∧ R s.2 t.2

/-- A state, and what is left of it without its first part. -/
def Over {ρ : Type} (s : ρ × σ) (t : σ) : Prop := s.2 = t

namespace Agree

variable {R : σ → τ → Prop}

theorem steps {x : Run σ ε α} {y : Run τ ε α} (h : Agree R x y) (clock : Clock) (now : Nat)
    {s : σ} {t : τ} (hst : R s t) :
    ∃ o s' t' n,
      x clock now s = ⟨o, s', n⟩ ∧ y clock now t = ⟨o, t', n⟩ ∧ R s' t' := by
  obtain ⟨houtcome, helapsed, hstate⟩ := h clock now s t hst
  refine ⟨(x clock now s).outcome, _, _, (x clock now s).elapsed, rfl, ?_, hstate⟩
  rw [houtcome, helapsed]

theorem pure (a : α) : Agree R (Pure.pure a : Run σ ε α) (Pure.pure a) :=
  fun _ _ _ _ h => ⟨rfl, rfl, h⟩

theorem fail (e : ε) : Agree R (Run.fail e : Run σ ε α) (Run.fail e) :=
  fun _ _ _ _ h => ⟨rfl, rfl, h⟩

theorem ofExcept (x : Except ε α) : Agree R (Run.ofExcept x : Run σ ε α) (Run.ofExcept x) := by
  cases x with
  | ok a => exact pure a
  | error e => exact fail e

theorem panic (text : String) : Agree R (Run.panic text : Run σ ε α) (Run.panic text) :=
  fun _ _ _ _ h => ⟨rfl, rfl, h⟩

theorem sleep (n : Nat) : Agree R (Run.sleep n : Run σ ε Unit) (Run.sleep n) :=
  fun _ _ _ _ h => ⟨rfl, rfl, h⟩

theorem now : Agree R (Run.now : Run σ ε Nat) Run.now := fun _ _ _ _ h => ⟨rfl, rfl, h⟩

theorem modify {f : σ → σ} {g : τ → τ} (h : ∀ s t, R s t → R (f s) (g t)) :
    Agree R (Run.modify f : Run σ ε Unit) (Run.modify g) :=
  fun _ _ s t hst => ⟨rfl, rfl, h s t hst⟩

theorem bind {x : Run σ ε α} {y : Run τ ε α} {f : α → Run σ ε β}
    {g : α → Run τ ε β}
    (hxy : Agree R x y) (hfg : ∀ a, Agree R (f a) (g a)) : Agree R (x >>= f) (y >>= g) := by
  intro clock now s t hst
  obtain ⟨o, s', t', n, hx, hy, hstate⟩ := hxy.steps clock now hst
  rw [bind_apply, bind_apply, hx, hy]
  cases o with
  | done a =>
      obtain ⟨h₁, h₂, h₃⟩ := hfg a clock (now + n) s' t' hstate
      exact ⟨h₁, congrArg (n + ·) h₂, h₃⟩
  | failed e => exact ⟨rfl, rfl, hstate⟩
  | panicked text => exact ⟨rfl, rfl, hstate⟩

theorem ofExcept_bind {x : Except ε α} {f : α → Run σ ε β} {g : α → Run τ ε β}
    (hfg : ∀ a, x = .ok a → Agree R (f a) (g a)) :
    Agree R (Run.ofExcept x >>= f) (Run.ofExcept x >>= g) := by
  cases x with
  | ok a =>
      rw [ofExcept_ok_bind, ofExcept_ok_bind]
      exact hfg a rfl
  | error e => exact fail (α := β) e

theorem get_bind {f : σ → Run σ ε α} {g : τ → Run τ ε α}
    (h : ∀ clock now s t, R s t → (f s clock now s).Agree R (g t clock now t)) :
    Agree R (Run.get >>= f) (Run.get >>= g) := by
  intro clock now s t hst
  obtain ⟨h₁, h₂, h₃⟩ := h clock now s t hst
  exact ⟨h₁, congrArg (0 + ·) h₂, h₃⟩

theorem attempt {x : Run σ ε α} {y : Run τ ε α} (h : Agree R x y) :
    Agree R (x.attempt : Run σ φ (Except ε α)) y.attempt := by
  intro clock now s t hst
  obtain ⟨o, s', t', n, hx, hy, hstate⟩ := h.steps clock now hst
  unfold Run.attempt
  rw [hx, hy]
  cases o <;> exact ⟨rfl, rfl, hstate⟩

theorem mapFault {x : Run σ ε α} {y : Run τ ε α} (h : Agree R x y) (f : ε → φ) :
    Agree R (x.mapFault f) (y.mapFault f) := by
  intro clock now s t hst
  obtain ⟨o, s', t', n, hx, hy, hstate⟩ := h.steps clock now hst
  unfold Run.mapFault
  rw [hx, hy]
  cases o <;> exact ⟨rfl, rfl, hstate⟩

theorem settle {x : Run σ ε α} {y : Run τ ε α} (h : Agree R x y) :
    Agree R (x.settle : Run σ φ (Outcome ε α)) y.settle := by
  intro clock now s t hst
  obtain ⟨houtcome, helapsed, hstate⟩ := h clock now s t hst
  exact ⟨congrArg Outcome.done houtcome, helapsed, hstate⟩

theorem ofOutcome (o : Outcome ε α) :
    Agree R (Run.ofOutcome o : Run σ ε α) (Run.ofOutcome o) := by
  cases o with
  | done a => exact pure a
  | failed e => exact fail e
  | panicked text => exact panic text

theorem withCleanup {body : Run σ ε α} {body' : Run τ ε α} {cleanup : Run σ ε Unit}
    {cleanup' : Run τ ε Unit} (hbody : Agree R body body') (hcleanup : Agree R cleanup cleanup') :
    Agree R (body.withCleanup cleanup) (body'.withCleanup cleanup') :=
  bind hbody.settle fun _ => bind hcleanup.attempt fun _ => ofOutcome _

theorem both {first second : Run σ ε Unit} {first' second' : Run τ ε Unit}
    (hfirst : Agree R first first') (hsecond : Agree R second second') :
    Agree R (first.both second) (first'.both second') := by
  refine bind hfirst.attempt fun a => bind hsecond.attempt fun b => ?_
  cases a with
  | error e => exact fail e
  | ok _ => exact ofExcept b

theorem onSnd {ρ : Type} {x : Run σ ε α} {y : Run τ ε α} (h : Agree R x y) :
    Agree (Beside R) (x.onSnd : Run (ρ × σ) ε α) y.onSnd := by
  intro clock now s t hst
  obtain ⟨houtcome, helapsed, hstate⟩ := h clock now s.2 t.2 hst.2
  exact ⟨houtcome, helapsed, hst.1, hstate⟩

theorem startingWith {ρ : Type} (r : ρ) {x : Run (ρ × σ) ε α} {y : Run (ρ × τ) ε α}
    (h : Agree (Beside R) x y) : Agree R (x.startingWith r) (y.startingWith r) := by
  intro clock now s t hst
  obtain ⟨houtcome, helapsed, hstate⟩ := h clock now (r, s) (r, t) ⟨rfl, hst⟩
  exact ⟨houtcome, helapsed, hstate.2⟩

theorem forEach {f : α → Run σ ε Unit} {g : α → Run τ ε Unit}
    (h : ∀ a, Agree R (f a) (g a)) (items : List α) :
    Agree R (Run.forEach items f) (Run.forEach items g) := by
  induction items with
  | nil => exact pure ()
  | cons a rest ih => exact bind (h a) fun _ => ih

theorem mapEach {f : α → Run σ ε β} {g : α → Run τ ε β} {items : List α}
    (h : ∀ a ∈ items, Agree R (f a) (g a)) :
    Agree R (Run.mapEach items f) (Run.mapEach items g) := by
  induction items with
  | nil => exact pure []
  | cons a rest ih =>
      refine bind (h a List.mem_cons_self) fun _ => bind (ih fun b hb => ?_) fun _ => pure _
      exact h b (List.mem_cons_of_mem a hb)

/-! ## Beside something that makes no difference -/

theorem onSnd_over {ρ : Type} (x : Run σ ε α) : Agree (Over (ρ := ρ)) (x.onSnd) x := by
  rintro clock now s t rfl
  exact ⟨rfl, rfl, rfl⟩

theorem modify_over {ρ : Type} {f : ρ × σ → ρ × σ} (hf : ∀ s, (f s).2 = s.2) :
    Agree Over (Run.modify f : Run (ρ × σ) ε Unit) (Pure.pure ()) := by
  rintro clock now s t rfl
  exact ⟨rfl, rfl, hf s⟩

theorem startingWith_apply_eq {ρ : Type} {r : ρ} {x : Run (ρ × σ) ε α} {y : Run σ ε α}
    {clock : Clock} {now : Nat} {s : σ} (h : (x clock now (r, s)).Agree Over (y clock now s)) :
    x.startingWith r clock now s = y clock now s := by
  obtain ⟨houtcome, helapsed, hstate⟩ := h
  change (⟨(x clock now (r, s)).outcome, (x clock now (r, s)).state.2,
    (x clock now (r, s)).elapsed⟩ : Step σ ε α) = y clock now s
  rw [houtcome, helapsed, show (x clock now (r, s)).state.2 = (y clock now s).state from hstate]

theorem startingWith_eq {ρ : Type} {x : Run (ρ × σ) ε α} {y : Run σ ε α}
    (h : Agree Over x y) (r : ρ) : x.startingWith r = y :=
  Run.ext fun clock now s => startingWith_apply_eq (h clock now (r, s) s rfl)

/-! ## Waits -/

section

variable {x : Run σ ε (Option α)} {y : Run τ ε (Option α)} (hxy : Agree R x y)
include hxy

theorem open_iff {clock : Clock} {deadline now : Nat} {s : σ} {t : τ} (hst : R s t) :
    (x.evaluate clock now s).Open deadline ↔ (y.evaluate clock now t).Open deadline := by
  obtain ⟨houtcome, helapsed, -⟩ := hxy clock now s t hst
  unfold Evaluation.Open Evaluation.reached evaluate
  rw [houtcome, helapsed]

theorem pollFrom (clock : Clock) (interval deadline : Nat) (h : 0 < interval) (now : Nat) (s : σ)
    (t : τ) (hst : R s t) : (Run.pollFrom x clock interval deadline h now s).Agree R
      (Run.pollFrom y clock interval deadline h now t) := by
  -- By the time that is left: a round that leaves the wait going ends later than it has begun.
  induction hleft : deadline - now using Nat.strongRecOn generalizing now s t with
  | _ left ih =>
      obtain ⟨houtcome, helapsed, hstate⟩ := hxy clock now s t hst
      by_cases hopen : (x.evaluate clock now s).Open deadline
      · have hopen' := (hxy.open_iff hst).mp hopen
        have hfollowing : (x.evaluate clock now s).following clock interval deadline =
            (y.evaluate clock now t).following clock interval deadline := by
          unfold Evaluation.following Evaluation.reached evaluate
          rw [helapsed]
        have hforward : (x.evaluate clock now s).reached <
            (x.evaluate clock now s).following clock interval deadline :=
          Evaluation.reached_lt_following h hopen
        have hnow : now ≤ (x.evaluate clock now s).reached := Nat.le_add_right _ _
        have hreached := hopen.2
        obtain ⟨h₁, h₂, h₃⟩ := ih _ (by omega)
          ((x.evaluate clock now s).following clock interval deadline) _ _ hstate rfl
        rw [pollFrom_of_open _ _ _ _ h hopen, pollFrom_of_open _ _ _ _ h hopen']
        simp only [← hfollowing]
        exact ⟨h₁, congrArg _ h₂, h₃⟩
      · have hclosed := fun h => hopen ((hxy.open_iff hst).mpr h)
        rw [pollFrom_of_not_open _ _ _ _ h hopen, pollFrom_of_not_open _ _ _ _ h hclosed]
        exact ⟨houtcome, helapsed, hstate⟩

theorem spinFrom (clock : Clock) (deadline n now : Nat) (s : σ) (t : τ) (hst : R s t) :
    (Run.spinFrom x clock deadline n now s).Agree R (Run.spinFrom y clock deadline n now t) := by
  induction n generalizing now s t with
  | zero => exact ⟨rfl, rfl, hst⟩
  | succ n ih =>
      obtain ⟨o, s', t', k, hx, hy, hstate⟩ := hxy.steps clock now hst
      rw [Run.spinFrom, Run.spinFrom, hx, hy]
      rcases o with (_ | a) | e | text
      · by_cases hlate : deadline ≤ now + k
        · simpa only [hlate, if_true] using ⟨rfl, rfl, hstate⟩
        · obtain ⟨h₁, h₂, h₃⟩ := ih (now + k) s' t' hstate
          simp only [hlate, if_false]
          exact ⟨h₁, congrArg (k + ·) h₂, h₃⟩
      all_goals exact ⟨rfl, rfl, hstate⟩

theorem pollUntil (p : Patience) : Agree R (Run.pollUntil p x) (Run.pollUntil p y) := by
  intro clock now s t hst
  unfold Run.pollUntil
  cases deadline? now p.timeout with
  | none => exact ⟨rfl, rfl, hst⟩
  | some deadline =>
      by_cases hinterval : 0 < p.interval.nanos
      · simp only [dif_pos hinterval]
        exact hxy.pollFrom clock _ deadline hinterval now s t hst
      · simp only [dif_neg hinterval]
        exact hxy.spinFrom clock deadline spinLimit now s t hst

end

theorem met {x : Run σ ε Bool} {y : Run τ ε Bool} (h : Agree R x y) :
    Agree R (Run.met x) (Run.met y) :=
  bind h fun _ => pure _

theorem awaitUntil {x : Run σ ε Bool} {y : Run τ ε Bool} (h : Agree R x y) (p : Patience) :
    Agree R (Run.awaitUntil p x) (Run.awaitUntil p y) :=
  bind (pollUntil h.met p) fun _ => pure _

end Agree

end Run

end Rollout
