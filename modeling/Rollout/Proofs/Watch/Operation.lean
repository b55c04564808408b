import Rollout.Proofs.Watch.Checks
/-!
# Operations of a watch

Everything that can be asked of a watch, as data, so that statements can be made about any sequence
of it. A failure of one operation does not keep the next from being made; a panic ends the
sequence.
-/

namespace Rollout

open Time Wire

variable {σ τ : Type}

namespace Watch

inductive Operation where
  | submitApp (app : App)
  | submitRemoval (appId : String) (force : Bool)
  | observe (h : Handle)
  | lastObserved (h : Handle)
  | await (h : Handle) (timeout : Span) (predicate : Snapshot → Bool)
  | awaitCompletion (h : Handle) (timeout : Span)
  | assertAbsent (h : Handle)
  | assertReadiness (h : Handle) (expected : Bool)
  /-- Nothing is asked for some time. -/
  | pause (nanos : Nat)

/-- The deployment that an operation looks up. -/
def Operation.target? : Operation → Option String
  | submitApp _ | submitRemoval _ _ | lastObserved _ | pause _ => none
  | observe h | await h _ _ | awaitCompletion h _ | assertAbsent h | assertReadiness h _ =>
    some h.deploymentId

/-- What an operation does; its value is dropped. -/
def Operation.run (w : Watch σ) : Operation → Run (Ledger × σ) Fault Unit
  | submitApp app => do let _ ← w.submitApp app
  | submitRemoval appId force => do let _ ← w.submitRemoval appId force
  | observe h => do let _ ← w.observe h
  | lastObserved h => do let _ ← w.lastObserved h
  | await h timeout predicate => do let _ ← w.await h timeout predicate
  | awaitCompletion h timeout => do let _ ← w.awaitCompletion h timeout
  | assertAbsent h => w.assertAbsent h
  | assertReadiness h expected => w.assertReadiness h expected
  | pause nanos => .sleep nanos

/-- Operations in order, whatever each of them returns. -/
def perform (w : Watch σ) (ops : List Operation) : Run (Ledger × σ) Fault Unit :=
  .forEach ops fun op => do
    let _ ← (op.run w).attempt

/-! ## What each operation comes to -/

variable (w : Watch σ) (clock : Clock) (now : Nat)

theorem observe_apply (h : Handle) (s : Ledger × σ) :
    w.observe h clock now s = match w.orchestrator.getDeployment h.deploymentId clock now s.2 with
      | ⟨.done snapshot, t, n⟩ =>
        ⟨.done snapshot, (s.1.record h.deploymentId snapshot, t), n⟩
      | ⟨.failed e, t, n⟩ => ⟨.failed e, (s.1, t), n⟩
      | ⟨.panicked text, t, n⟩ => ⟨.panicked text, (s.1, t), n⟩ := by
  unfold observe
  rw [Run.bind_apply]
  unfold Run.onSnd
  rcases w.orchestrator.getDeployment h.deploymentId clock now s.2
    with ⟨_ | _ | _, t, n⟩ <;> rfl

theorem look_apply (h : Handle) (predicate : Snapshot → Bool) (s : Option Snapshot × σ) :
    w.look h predicate clock now s =
      match w.orchestrator.getDeployment h.deploymentId clock now s.2 with
      | ⟨.done snapshot, t, n⟩ =>
        ⟨.done (if predicate snapshot then some () else none), (some snapshot, t), n⟩
      | ⟨.failed e, t, n⟩ => ⟨.failed e, (s.1, t), n⟩
      | ⟨.panicked text, t, n⟩ => ⟨.panicked text, (s.1, t), n⟩ := by
  unfold look
  rw [Run.bind_apply]
  unfold Run.onSnd
  rcases w.orchestrator.getDeployment h.deploymentId clock now s.2
    with ⟨_ | _ | _, t, n⟩ <;> rfl

theorem await_apply (h : Handle) (timeout : Span) (predicate : Snapshot → Bool) (l : Ledger)
    (s : σ) :
    w.await h timeout predicate clock now (l, s) =
      match Run.pollUntil (w.patience.withTimeout timeout) (w.look h predicate) clock now
          (none, s) with
      | ⟨.done met, t, n⟩ => ⟨.done met.isSome, (l.keep h.deploymentId t.1, t.2), n⟩
      | ⟨.failed e, t, n⟩ => ⟨.failed e, (l.keep h.deploymentId t.1, t.2), n⟩
      | ⟨.panicked text, t, n⟩ => ⟨.panicked text, (l, t.2), n⟩ := by
  unfold await
  rw [Run.bind_apply]
  unfold Run.onSnd Run.startingWith
  rw [Run.bind_apply]
  unfold Run.attempt
  rcases Run.pollUntil (w.patience.withTimeout timeout) (w.look h predicate) clock now (none, s)
    with ⟨_ | _ | _, t, n⟩ <;> rfl

/-- Operations act on the state as a submission, a lookup or a wait does, or not at all. -/
theorem Operation.post_run (op : Operation) (s : Ledger × σ)
    (post : Bool → Ledger × σ → Prop)
    (idle : post true s)
    (submitted : ∀ call : Run σ Fault String,
      (∃ app, call = w.orchestrator.addApp app) ∨
        (∃ id force, call = w.orchestrator.removeApp id force) →
      post (call clock now s.2).outcome.returns (s.1, (call clock now s.2).state))
    (observed : ∀ h, op.target? = some h.deploymentId →
      post (w.observe h clock now s).outcome.returns (w.observe h clock now s).state)
    (awaited : ∀ h timeout predicate, op.target? = some h.deploymentId →
      post (w.await h timeout predicate clock now s).outcome.returns
        (w.await h timeout predicate clock now s).state) :
    post (op.run w clock now s).outcome.returns (op.run w clock now s).state := by
  have dropped {α : Type} (_ : α) : Run.Decides (pure () : Run (Ledger × σ) Fault Unit) :=
    Run.decides_pure ()
  cases op with
  | submitApp app =>
      apply Run.post_bind_of_decides dropped
      exact Run.post_bind_of_decides (fun _ => Run.decides_pure _) clock now s
        (submitted _ (.inl ⟨app, rfl⟩))
  | submitRemoval appId force =>
      apply Run.post_bind_of_decides dropped
      exact Run.post_bind_of_decides (fun _ => Run.decides_pure _) clock now s
        (submitted _ (.inr ⟨appId, force, rfl⟩))
  | observe h => exact Run.post_bind_of_decides dropped clock now s (observed h rfl)
  | lastObserved h => exact idle
  | await h timeout predicate =>
      exact Run.post_bind_of_decides dropped clock now s (awaited h timeout predicate rfl)
  | awaitCompletion h timeout =>
      exact Run.post_bind_of_decides dropped clock now s (awaited h timeout Option.isNone rfl)
  | assertAbsent h =>
      rw [run, assertAbsent_eq]
      exact Run.post_bind_of_decides (fun _ => Run.decides_ofExcept _) clock now s (observed h rfl)
  | assertReadiness h expected =>
      rw [run, assertReadiness_eq]
      exact Run.post_bind_of_decides (fun _ => Run.decides_ofExcept _) clock now s (observed h rfl)
  | pause nanos => exact idle

theorem post_perform (post : Bool → Ledger × σ → Prop)
    (step : ∀ (op : Operation) now s, post true s →
      post (op.run w clock now s).outcome.returns (op.run w clock now s).state)
    (ops : List Operation) (s : Ledger × σ) (start : post true s) :
    post (w.perform ops clock now s).outcome.returns (w.perform ops clock now s).state := by
  apply Run.forEach_post clock ?_ ?_ ops now s start
  · intro op now s hs
    rw [Run.state_bind_of_decides fun _ => Run.decides_pure _,
      Run.returns_bind_of_decides fun _ => Run.decides_pure _, Run.state_attempt,
      Run.returns_attempt]
    exact step op now s hs
  · intro op now s e
    rw [Run.bind_apply]
    unfold Run.attempt
    rcases op.run w clock now s with ⟨_ | _ | _, t, n⟩ <;> exact nofun

end Watch

end Rollout
