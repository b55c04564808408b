import Mathlib.Data.List.Forall2
import Rollout.Run.Cleanup
import Rollout.Proofs.Run.Outcome
import Rollout.Proofs.Run.Progress
/-!
# Runs in turn

A list of runs, each of which starts where and when the one before it has ended, whatever that one
has returned. Runs that are put together to go through all of their parts and to fail with the first
failure are told from the turns of their parts.
-/

namespace Rollout

open Time

variable {σ ε φ α β : Type}

namespace Outcome

def fault? : Outcome ε α → Option ε
  | .failed e => some e
  | .done _ | .panicked _ => none

/-- A success gives way to a fault. -/
def orFault : Outcome ε α → Option ε → Outcome ε α
  | .done _, some e => .failed e
  | outcome, _ => outcome

/-- A failure if there is a fault. -/
def ofFault : Option ε → Outcome ε Unit
  | some e => .failed e
  | none => .done ()

theorem ofFault_fault? {x : Outcome ε Unit} (h : x.returns = true) : ofFault x.fault? = x := by
  cases x with
  | done _ => rfl
  | failed e => rfl
  | panicked text => cases h

@[simp] theorem fault?_ofFault (e : Option ε) : (ofFault e).fault? = e := by
  cases e <;> rfl

@[simp] theorem returns_ofFault (e : Option ε) : (ofFault e).returns = true := by
  cases e <;> rfl

end Outcome

/-- The same after some time. -/
def Step.delayed (nanos : Nat) (step : Step σ ε α) : Step σ ε α :=
  { step with elapsed := nanos + step.elapsed }

namespace Run

/-- A run that was made: when it started, what it found, and what became of it. -/
structure Turn (σ ε α : Type) where
  start : Nat
  before : σ
  step : Step σ ε α

def inTurn (clock : Clock) : List (Run σ ε α) → Nat → σ → List (Turn σ ε α)
  | [], _, _ => []
  | x :: rest, now, s =>
    let step := x clock now s
    ⟨now, s, step⟩ :: inTurn clock rest (now + step.elapsed) step.state

namespace Turn

/-- The instant at which a turn ends. -/
def finish (turn : Turn σ ε α) : Nat := turn.start + turn.step.elapsed

/-- The time that some turns take together. -/
def total : List (Turn σ ε α) → Nat
  | [] => 0
  | turn :: rest => turn.step.elapsed + total rest

/-- What turns leave that start from `s`. -/
def final (s : σ) : List (Turn σ ε α) → σ
  | [] => s
  | turn :: rest => final turn.step.state rest

/-- The fault of the first turn that has failed. -/
def firstFault? (turns : List (Turn σ ε α)) : Option ε :=
  turns.findSome? fun turn => turn.step.outcome.fault?

def allReturn (turns : List (Turn σ ε α)) : Prop :=
  ∀ turn ∈ turns, turn.step.outcome.returns = true

/-- How turns end that start from `s`, if the first failure counts. -/
def conclusion (s : σ) (turns : List (Turn σ ε α)) : Step σ ε Unit :=
  ⟨.ofFault (firstFault? turns), final s turns, total turns⟩

theorem total_append (xs ys : List (Turn σ ε α)) : total (xs ++ ys) = total xs + total ys := by
  induction xs with
  | nil => exact (Nat.zero_add _).symm
  | cons x rest ih =>
      rw [List.cons_append, total, total, ih, Nat.add_assoc]

theorem final_append (s : σ) (xs ys : List (Turn σ ε α)) :
    final s (xs ++ ys) = final (final s xs) ys := by
  induction xs generalizing s with
  | nil => rfl
  | cons x rest ih => exact ih x.step.state

theorem firstFault?_append (xs ys : List (Turn σ ε α)) :
    firstFault? (xs ++ ys) = (firstFault? xs).or (firstFault? ys) :=
  List.findSome?_append

theorem allReturn_append {xs ys : List (Turn σ ε α)} :
    allReturn (xs ++ ys) ↔ allReturn xs ∧ allReturn ys :=
  List.forall_mem_append

end Turn

theorem inTurn_append (clock : Clock) (xs ys : List (Run σ ε α)) (now : Nat) (s : σ) :
    let first := inTurn clock xs now s
    inTurn clock (xs ++ ys) now s =
      first ++ inTurn clock ys (now + Turn.total first) (Turn.final s first) := by
  induction xs generalizing now s with
  | nil => rfl
  | cons x rest ih =>
      simp only [List.cons_append, inTurn, Turn.total, Turn.final]
      rw [ih, Nat.add_assoc]

theorem attempt_bind_of_returns {x : Run σ ε α} {clock : Clock} {now : Nat} {s : σ}
    (h : (x clock now s).outcome.returns = true) :
    ∃ a, .ofExcept a = (x clock now s).outcome ∧ ∀ f : Except ε α → Run σ φ β,
      (x.attempt >>= f) clock now s =
        (f a clock (now + (x clock now s).elapsed) (x clock now s).state).delayed
          (x clock now s).elapsed := by
  rcases hstep : x clock now s with ⟨a | e | text, t, n⟩ <;> rw [hstep] at h
  · refine ⟨.ok a, rfl, fun f => ?_⟩
    rw [bind_apply, attempt_apply, hstep]
    rfl
  · refine ⟨.error e, rfl, fun f => ?_⟩
    rw [bind_apply, attempt_apply, hstep]
    rfl
  · cases h

theorem length_inTurn (clock : Clock) (xs : List (Run σ ε α)) (now : Nat) (s : σ) :
    (inTurn clock xs now s).length = xs.length := by
  induction xs generalizing now s with
  | nil => rfl
  | cons x rest ih =>
      rw [inTurn, List.length_cons, ih, List.length_cons]

theorem follows_of_mem_inTurn {P : Progress σ} {clock : Clock} {xs : List (Run σ ε α)}
    (hxs : ∀ x ∈ xs, Follows P x) {now : Nat} {s : σ} {turn : Turn σ ε α}
    (h : turn ∈ inTurn clock xs now s) :
    P.Holds turn.start turn.before turn.finish turn.step.state := by
  induction xs generalizing now s with
  | nil => cases h
  | cons x rest ih =>
      rcases List.mem_cons.mp h with rfl | hrest
      · exact hxs x List.mem_cons_self clock now s
      · exact ih (fun y hy => hxs y (List.mem_cons_of_mem _ hy)) hrest

theorem forall₂_inTurn {clock : Clock} {acts : List (σ → σ → Outcome ε α → Prop)}
    {xs : List (Run σ ε α)} (h : List.Forall₂ (fun act x => ∀ now s,
      (x clock now s).outcome.returns = true →
        act s (x clock now s).state (x clock now s).outcome) acts xs)
    {now : Nat} {s : σ} (hall : Turn.allReturn (inTurn clock xs now s)) :
    List.Forall₂ (fun act turn => act turn.before turn.step.state turn.step.outcome) acts
      (inTurn clock xs now s) := by
  induction h generalizing now s with
  | nil => exact .nil
  | cons hx _ ih =>
      obtain ⟨hfirst, hrest⟩ := List.forall_mem_cons.mp hall
      exact .cons (hx now s hfirst) (ih hrest)

theorem step_of_mem_zip_inTurn {clock : Clock} {f : β → Run σ ε α} {items : List β}
    {now : Nat}
    {s : σ} {a : β} {turn : Turn σ ε α}
    (h : (a, turn) ∈ items.zip (inTurn clock (items.map f) now s)) :
    turn.step = f a clock turn.start turn.before := by
  induction items generalizing now s with
  | nil => cases h
  | cons b rest ih =>
      rcases List.mem_cons.mp h with hfirst | hrest
      · cases hfirst
        rfl
      · exact ih hrest

theorem returns_of_bind {x : Run σ ε α} {f : α → Run σ ε β} {clock : Clock}
    {now : Nat} {s : σ}
    (h : ((x >>= f) clock now s).outcome.returns = true) :
    (x clock now s).outcome.returns = true := by
  rw [bind_apply] at h
  rcases hstep : x clock now s with ⟨_ | _ | _, t, n⟩ <;> rw [hstep] at h
  · rfl
  · rfl
  · exact h

theorem returns_of_attempt_bind {x : Run σ ε α} {f : Except ε α → Run σ φ β}
    {clock : Clock}
    {now : Nat} {s : σ} (h : ((x.attempt >>= f) clock now s).outcome.returns = true) :
    (x clock now s).outcome.returns = true := by
  have hattempt := returns_of_bind h
  rwa [returns_attempt] at hattempt

section

variable {x y : Run σ ε Unit} {clock : Clock} {now : Nat} {s : σ}

theorem both_apply (hx : (x clock now s).outcome.returns = true)
    (hy : (y clock (now + (x clock now s).elapsed) (x clock now s).state).outcome.returns = true) :
    let next := y clock (now + (x clock now s).elapsed) (x clock now s).state
    both x y clock now s = ⟨.ofFault ((x clock now s).outcome.fault?.or next.outcome.fault?),
      next.state, (x clock now s).elapsed + next.elapsed⟩ := by
  obtain ⟨a, ha, hfirst⟩ := attempt_bind_of_returns hx
  obtain ⟨b, hb, hsecond⟩ := attempt_bind_of_returns hy
  intro next
  change next.outcome.returns = true at hy
  unfold both
  rw [hfirst, hsecond, ← ha, ← hb]
  cases a with
  | error e => rfl
  | ok _ => cases b <;> rfl

theorem returns_of_both (h : (both x y clock now s).outcome.returns = true) :
    (x clock now s).outcome.returns = true ∧
      (y clock (now + (x clock now s).elapsed) (x clock now s).state).outcome.returns = true := by
  have hx := returns_of_attempt_bind h
  obtain ⟨a, -, hfirst⟩ := attempt_bind_of_returns hx
  unfold both at h
  rw [hfirst] at h
  exact ⟨hx, returns_of_attempt_bind h⟩

theorem withCleanup_apply {body : Run σ ε α}
    (h : (x clock (now + (body clock now s).elapsed) (body clock now s).state).outcome.returns =
      true) :
    let cleanup := x clock (now + (body clock now s).elapsed) (body clock now s).state
    withCleanup body x clock now s = ⟨(body clock now s).outcome.orFault cleanup.outcome.fault?,
      cleanup.state, (body clock now s).elapsed + cleanup.elapsed⟩ := by
  obtain ⟨a, ha, hcleanup⟩ := attempt_bind_of_returns h
  intro cleanup
  show ((x.attempt >>= fun cleaned => ofOutcome ((body clock now s).outcome.afterCleanup cleaned))
    clock (now + (body clock now s).elapsed) (body clock now s).state).delayed
      (body clock now s).elapsed = _
  rw [hcleanup]
  unfold cleanup
  rw [← ha]
  cases (body clock now s).outcome <;> cases a <;> rfl

theorem returns_of_withCleanup {body : Run σ ε α}
    (h : (withCleanup body x clock now s).outcome.returns = true) :
    (body clock now s).outcome.returns = true ∧
      (x clock (now + (body clock now s).elapsed) (body clock now s).state).outcome.returns =
        true := by
  have hcleanup := returns_of_attempt_bind h
  refine ⟨?_, hcleanup⟩
  rw [withCleanup_apply hcleanup] at h
  change ((body clock now s).outcome.orFault _).returns = true at h
  cases houtcome : (body clock now s).outcome with
  | done _ => rfl
  | failed e => rfl
  | panicked text =>
      rw [houtcome] at h
      exact h

end

/-- The run goes through the parts in turn and fails with their first failure, and a panic is always
one of a part. -/
structure GoesThrough (x : Run σ ε Unit) (parts : List (Run σ ε Unit)) : Prop where
  concludes : ∀ {clock now s}, Turn.allReturn (inTurn clock parts now s) →
    x clock now s = Turn.conclusion s (inTurn clock parts now s)
  returns : ∀ {clock now s}, (x clock now s).outcome.returns = true →
    Turn.allReturn (inTurn clock parts now s)

namespace GoesThrough

theorem nothing : GoesThrough (pure () : Run σ ε Unit) [] :=
  ⟨fun _ => rfl, fun _ => nofun⟩

theorem single (x : Run σ ε Unit) : GoesThrough x [x] := by
  refine ⟨?_, ?_⟩
  · intro clock now s h
    have hx := h _ (List.mem_singleton_self _)
    change (x clock now s).outcome.returns = true at hx
    have houtcome := Outcome.ofFault_fault? hx
    simp [Turn.conclusion, Turn.firstFault?, Turn.final, Turn.total, inTurn, houtcome]
  · intro clock now s h turn hturn
    rw [List.mem_singleton.mp hturn]
    exact h

theorem both {x y : Run σ ε Unit} {xs ys : List (Run σ ε Unit)} (hx : GoesThrough x xs)
    (hy : GoesThrough y ys) : GoesThrough (Run.both x y) (xs ++ ys) := by
  refine ⟨?_, ?_⟩
  · intro clock now s h
    rw [inTurn_append, Turn.allReturn_append] at h
    have hfirst := hx.concludes h.1
    have hsecond := hy.concludes h.2
    have hreturns : (x clock now s).outcome.returns = true := by
      rw [hfirst]
      exact Outcome.returns_ofFault _
    have hreturns' : (y clock (now + (x clock now s).elapsed) (x clock now s).state).outcome.returns
        = true := by
      rw [hfirst]
      exact (congrArg (·.outcome.returns) hsecond).trans (Outcome.returns_ofFault _)
    rw [both_apply hreturns hreturns', inTurn_append, hfirst]
    simp only [Turn.conclusion, Turn.firstFault?_append, Turn.final_append, Turn.total_append,
      Outcome.fault?_ofFault] at hsecond ⊢
    rw [hsecond]
    simp
  · intro clock now s h
    obtain ⟨hfirst, hsecond⟩ := returns_of_both h
    have hxs := hx.returns hfirst
    rw [hx.concludes hxs] at hsecond
    rw [inTurn_append, Turn.allReturn_append]
    exact ⟨hxs, hy.returns hsecond⟩

end GoesThrough

end Run

end Rollout
