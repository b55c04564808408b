import Rollout.Proofs.Run.Invariant
import Rollout.Run.Cleanup
/-!
# Progress of runs

Some relations between the beginning and the end of a run hold of every run that is put together
from runs of which they hold, whatever their outcomes: those that time alone keeps and that
compose. What is sent over a network only ever being added to is such a relation.
-/

namespace Rollout

open Time

/-- A relation between two points of a run, each given by an instant and a state. -/
structure Progress (σ : Type) where
  Holds : Nat → σ → Nat → σ → Prop
  wait : ∀ {now later s}, now ≤ later → Holds now s later s
  trans : ∀ {now s mid t later u}, Holds now s mid t → Holds mid t later u →
    Holds now s later u

/-- The relation on the second part of a state. -/
def Progress.onSnd {σ τ : Type} (P : Progress σ) : Progress (τ × σ) where
  Holds now s later t := P.Holds now s.2 later t.2
  wait := P.wait
  trans := P.trans

namespace Run

variable {σ τ ε φ α β : Type} {P : Progress σ}

/-- The beginning and the end of the run are related. -/
def Follows (P : Progress σ) (x : Run σ ε α) : Prop :=
  ∀ clock now s, P.Holds now s (now + (x clock now s).elapsed) (x clock now s).state

namespace Follows

theorem pure (a : α) : Follows P (Pure.pure a : Run σ ε α) :=
  fun _ _ _ => P.wait (Nat.le_refl _)

theorem fail (e : ε) : Follows P (Run.fail e : Run σ ε α) :=
  fun _ _ _ => P.wait (Nat.le_refl _)

theorem panic (text : String) : Follows P (Run.panic text : Run σ ε α) :=
  fun _ _ _ => P.wait (Nat.le_refl _)

theorem ofExcept (x : Except ε α) : Follows P (Run.ofExcept x : Run σ ε α) := by
  cases x with
  | ok a => exact pure a
  | error e => exact fail e

theorem sleep (n : Nat) : Follows P (Run.sleep n : Run σ ε Unit) :=
  fun _ _ _ => P.wait (Nat.le_add_right _ _)

theorem bind {x : Run σ ε α} {f : α → Run σ ε β} (hx : Follows P x)
    (hf : ∀ a, Follows P (f a)) :
    Follows P (x >>= f) := by
  intro clock now s
  have hfirst := hx clock now s
  rw [bind_apply]
  rcases hstep : x clock now s with ⟨a | e | text, t, n⟩
  · rw [hstep] at hfirst
    have hrest := hf a clock (now + n) t
    simp only [Nat.add_assoc] at hrest
    exact P.trans hfirst hrest
  · rwa [hstep] at hfirst
  · rwa [hstep] at hfirst

theorem ofExcept_bind {x : Except ε α} {f : α → Run σ ε β}
    (hf : ∀ a, x = .ok a → Follows P (f a)) : Follows P (Run.ofExcept x >>= f) := by
  cases x with
  | ok a =>
      rw [ofExcept_ok_bind]
      exact hf a rfl
  | error e => exact fail (α := β) e

theorem attempt {x : Run σ ε α} (hx : Follows P x) :
    Follows P (x.attempt : Run σ φ (Except ε α)) := by
  intro clock now s
  have h := hx clock now s
  unfold Run.attempt
  rcases hstep : x clock now s with ⟨a | e | text, t, n⟩ <;> rwa [hstep] at h

theorem mapFault {x : Run σ ε α} (hx : Follows P x) (f : ε → φ) :
    Follows P (x.mapFault f) := by
  intro clock now s
  have h := hx clock now s
  unfold Run.mapFault
  rcases hstep : x clock now s with ⟨a | e | text, t, n⟩ <;> rwa [hstep] at h

theorem forEach {f : α → Run σ ε Unit} (hf : ∀ a, Follows P (f a)) (items : List α) :
    Follows P (Run.forEach items f) := by
  induction items with
  | nil => exact pure ()
  | cons a rest ih => exact bind (hf a) fun _ => ih

theorem pollUntil {check : Run σ ε (Option α)} (hcheck : Follows P check) (p : Patience) :
    Follows P (Run.pollUntil p check) := by
  intro clock now s
  have rule : WaitRule check clock (P.Holds now s) (fun _ => P.Holds now s) :=
    { evaluated := fun hinv => P.trans hinv (hcheck clock _ _)
      paused := fun hinv _ later hlater =>
        P.trans (P.trans hinv (hcheck clock _ _)) (P.wait hlater) }
  have hstart : P.Holds now s now s := P.wait (Nat.le_refl _)
  exact rule.post_of_pollUntil p hstart (fun _ => hstart) fun _ _ _ hinv _ => hinv

theorem awaitUntil {condition : Run σ ε Bool} (h : Follows P condition) (p : Patience) :
    Follows P (Run.awaitUntil p condition) :=
  bind (pollUntil (bind h fun _ => pure _) p) fun _ => pure _

theorem settle {x : Run σ ε α} (hx : Follows P x) :
    Follows P (x.settle : Run σ φ (Outcome ε α)) := hx

theorem ofOutcome (o : Outcome ε α) : Follows P (Run.ofOutcome o : Run σ ε α) := by
  cases o <;> exact fun _ _ _ => P.wait (Nat.le_refl _)

theorem withCleanup {body : Run σ ε α} {cleanup : Run σ ε Unit} (hbody : Follows P body)
    (hcleanup : Follows P cleanup) : Follows P (body.withCleanup cleanup) :=
  bind hbody.settle fun _ => bind hcleanup.attempt fun _ => ofOutcome _

theorem both {first second : Run σ ε Unit} (hfirst : Follows P first)
    (hsecond : Follows P second) : Follows P (first.both second) := by
  refine bind hfirst.attempt fun a => bind hsecond.attempt fun b => ?_
  cases a with
  | error e => exact fail e
  | ok _ => exact ofExcept b

theorem mapEach {f : α → Run σ ε β} {items : List α}
    (hf : ∀ a ∈ items, Follows P (f a)) :
    Follows P (Run.mapEach items f) := by
  induction items with
  | nil => exact pure []
  | cons a rest ih =>
      refine bind (hf a List.mem_cons_self) fun _ => bind (ih fun b hb => ?_) fun _ => pure _
      exact hf b (List.mem_cons_of_mem a hb)

/-! ### Beside a state of another kind -/

theorem onSnd {x : Run σ ε α} (hx : Follows P x) :
    Follows P.onSnd (x.onSnd : Run (τ × σ) ε α) :=
  fun clock now s => hx clock now s.2

theorem startingWith {x : Run (τ × σ) ε α} (hx : Follows P.onSnd x) (t : τ) :
    Follows P (x.startingWith t) :=
  fun clock now s => hx clock now (t, s)

theorem modify {f : τ × σ → τ × σ} (hf : ∀ s, (f s).2 = s.2) :
    Follows P.onSnd (Run.modify f : Run (τ × σ) ε Unit) := by
  intro clock now s
  change P.Holds now s.2 now (f s).2
  rw [hf]
  exact P.wait (Nat.le_refl _)

theorem get : Follows P (Run.get : Run σ ε σ) := fun _ _ _ => P.wait (Nat.le_refl _)

theorem now : Follows P (Run.now : Run σ ε Nat) := fun _ _ _ => P.wait (Nat.le_refl _)

end Follows

end Run

end Rollout
