import Rollout.Proofs.Run.Progress
import Rollout.Proofs.Watch.Operation
/-!
# Progress of watches

A watch reaches its orchestrator through three calls only, and its ledger lies beside the state that
they act on. What is kept by the calls is therefore kept by whatever is asked of the watch.
-/

namespace Rollout

open Time Wire

variable {σ : Type} {P : Progress σ}

/-- Every call of the orchestrator keeps the relation. -/
structure Orchestrator.Follows (P : Progress σ) (o : Orchestrator σ) : Prop where
  addApp : ∀ app, Run.Follows P (o.addApp app)
  removeApp : ∀ id force, Run.Follows P (o.removeApp id force)
  getDeployment : ∀ id, Run.Follows P (o.getDeployment id)

namespace Watch

variable {w : Watch σ} (hw : w.orchestrator.Follows P)
include hw

theorem follows_submitApp (app : App) : Run.Follows P.onSnd (w.submitApp app) :=
  .bind (hw.addApp app).onSnd fun _ => .pure _

theorem follows_submitRemoval (appId : String) (force : Bool) :
    Run.Follows P.onSnd (w.submitRemoval appId force) :=
  .bind (hw.removeApp appId force).onSnd fun _ => .pure _

theorem follows_observe (h : Handle) : Run.Follows P.onSnd (w.observe h) :=
  .bind (hw.getDeployment h.deploymentId).onSnd fun _ =>
    .bind (.modify fun _ => rfl) fun _ => .pure _

theorem follows_look (h : Handle) (predicate : Snapshot → Bool) :
    Run.Follows P.onSnd (w.look h predicate) :=
  .bind (hw.getDeployment h.deploymentId).onSnd fun _ =>
    .bind (.modify fun _ => rfl) fun _ => .pure _

theorem follows_await (h : Handle) (timeout : Span) (predicate : Snapshot → Bool) :
    Run.Follows P.onSnd (w.await h timeout predicate) := by
  have hpoll := (follows_look hw h predicate).pollUntil (w.patience.withTimeout timeout)
  have hwait : Run.Follows P.onSnd (do
      let met ← (Run.pollUntil (w.patience.withTimeout timeout) (w.look h predicate)).attempt
      return (met, (← .get).1) : Run (Option Snapshot × σ) Fault _) :=
    .bind hpoll.attempt fun _ => .bind .get fun _ => .pure _
  refine .bind (hwait.startingWith none).onSnd fun _ => ?_
  exact .bind (.modify fun _ => rfl) fun _ => .bind (.ofExcept _) fun _ => .pure _

theorem follows_assertAbsent (h : Handle) : Run.Follows P.onSnd (w.assertAbsent h) := by
  rw [assertAbsent_eq]
  exact .bind (follows_observe hw h) fun _ => .ofExcept _

theorem follows_assertReadiness (h : Handle) (expected : Bool) :
    Run.Follows P.onSnd (w.assertReadiness h expected) := by
  rw [assertReadiness_eq]
  exact .bind (follows_observe hw h) fun _ => .ofExcept _

theorem Operation.follows_run (op : Operation) : Run.Follows P.onSnd (op.run w) := by
  cases op with
  | submitApp app => exact .bind (follows_submitApp hw app) fun _ => .pure _
  | submitRemoval appId force => exact .bind (follows_submitRemoval hw appId force) fun _ => .pure _
  | observe h => exact .bind (follows_observe hw h) fun _ => .pure _
  | lastObserved h => exact .bind (.bind .get fun _ => .pure _) fun _ => .pure _
  | await h timeout predicate => exact .bind (follows_await hw h timeout predicate) fun _ => .pure _
  | awaitCompletion h timeout =>
      exact .bind (follows_await hw h timeout Option.isNone) fun _ => .pure _
  | assertAbsent h => exact follows_assertAbsent hw h
  | assertReadiness h expected => exact follows_assertReadiness hw h expected
  | pause nanos => exact .sleep nanos

theorem follows_perform (ops : List Operation) : Run.Follows P.onSnd (w.perform ops) :=
  .forEach (fun op => .bind (Operation.follows_run hw op).attempt fun _ => .pure _) ops

end Watch

end Rollout
