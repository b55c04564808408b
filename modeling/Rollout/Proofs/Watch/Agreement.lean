import Rollout.Proofs.Run.Agreement
import Rollout.Proofs.Watch.Operation
/-!
# Agreement of watches

Watches over orchestrators whose calls agree do the same: they return alike, take the same time and
keep the same ledger. An orchestrator may therefore be made to write down what it is asked without
any difference to the watch.
-/

namespace Rollout

open Time Wire

variable {σ τ : Type} {R : σ → τ → Prop}

structure Orchestrator.Agree (R : σ → τ → Prop) (o : Orchestrator σ) (o' : Orchestrator τ) :
    Prop where
  addApp : ∀ app, Run.Agree R (o.addApp app) (o'.addApp app)
  removeApp : ∀ id force, Run.Agree R (o.removeApp id force) (o'.removeApp id force)
  getDeployment : ∀ id, Run.Agree R (o.getDeployment id) (o'.getDeployment id)

namespace Watch

variable {o : Orchestrator σ} {o' : Orchestrator τ} (ho : o.Agree R o') (p : Patience)
include ho

theorem observe_agree (h : Handle) :
    Run.Agree (Run.Beside R) ((mk o p).observe h) ((mk o' p).observe h) := by
  refine .bind (ho.getDeployment h.deploymentId).onSnd fun snapshot => ?_
  refine .bind (.modify fun s t hst => ?_) fun _ => .pure snapshot
  exact ⟨congrArg (·.record h.deploymentId snapshot) hst.1, hst.2⟩

theorem look_agree (h : Handle) (predicate : Snapshot → Bool) :
    Run.Agree (Run.Beside R) ((mk o p).look h predicate) ((mk o' p).look h predicate) := by
  refine .bind (ho.getDeployment h.deploymentId).onSnd fun snapshot => ?_
  exact .bind (.modify fun s t hst => ⟨rfl, hst.2⟩) fun _ => .pure _

theorem await_agree (h : Handle) (timeout : Span) (predicate : Snapshot → Bool) :
    Run.Agree (Run.Beside R) ((mk o p).await h timeout predicate)
      ((mk o' p).await h timeout predicate) := by
  have hwait := (look_agree ho p h predicate).pollUntil (p.withTimeout timeout)
  refine .bind (Run.Agree.onSnd (.startingWith none (.bind hwait.attempt fun met => ?_)))
    fun waited => ?_
  · apply Run.Agree.get_bind
    intro clock now s t hst
    rw [hst.1]
    exact Run.Agree.pure _ clock now s t hst
  · refine .bind (.modify fun s t hst => ?_) fun _ => .bind (.ofExcept waited.1) fun _ => .pure _
    exact ⟨congrArg (·.keep h.deploymentId waited.2) hst.1, hst.2⟩

theorem submitApp_agree (app : App) :
    Run.Agree (Run.Beside R) ((mk o p).submitApp app) ((mk o' p).submitApp app) :=
  .bind (ho.addApp app).onSnd fun _ => .pure _

theorem submitRemoval_agree (appId : String) (force : Bool) :
    Run.Agree (Run.Beside R) ((mk o p).submitRemoval appId force)
      ((mk o' p).submitRemoval appId force) :=
  .bind (ho.removeApp appId force).onSnd fun _ => .pure _

omit ho in
theorem lastObserved_agree (w : Watch σ) (w' : Watch τ) (h : Handle) :
    Run.Agree (Run.Beside R) (w.lastObserved h) (w'.lastObserved h) := by
  refine .get_bind fun clock now s t hst => ?_
  rw [hst.1]
  exact Run.Agree.pure _ clock now s t hst

theorem assertAbsent_agree (h : Handle) :
    Run.Agree (Run.Beside R) ((mk o p).assertAbsent h) ((mk o' p).assertAbsent h) := by
  rw [assertAbsent_eq, assertAbsent_eq]
  exact .bind (observe_agree ho p h) fun _ => .ofExcept _

theorem assertReadiness_agree (h : Handle) (expected : Bool) :
    Run.Agree (Run.Beside R) ((mk o p).assertReadiness h expected)
      ((mk o' p).assertReadiness h expected) := by
  rw [assertReadiness_eq, assertReadiness_eq]
  exact .bind (observe_agree ho p h) fun _ => .ofExcept _

theorem Operation.run_agree (op : Operation) :
    Run.Agree (Run.Beside R) (op.run (mk o p)) (op.run (mk o' p)) := by
  cases op with
  | submitApp app => exact .bind (submitApp_agree ho p app) fun _ => .pure _
  | submitRemoval appId force => exact .bind (submitRemoval_agree ho p appId force) fun _ => .pure _
  | observe h => exact .bind (observe_agree ho p h) fun _ => .pure _
  | lastObserved h => exact .bind (lastObserved_agree _ _ h) fun _ => .pure _
  | await h timeout predicate => exact .bind (await_agree ho p h timeout predicate) fun _ => .pure _
  | awaitCompletion h timeout =>
      exact .bind (await_agree ho p h timeout Option.isNone) fun _ => .pure _
  | assertAbsent h => exact assertAbsent_agree ho p h
  | assertReadiness h expected => exact assertReadiness_agree ho p h expected
  | pause nanos => exact .sleep nanos

theorem perform_agree (ops : List Operation) :
    Run.Agree (Run.Beside R) ((mk o p).perform ops) ((mk o' p).perform ops) :=
  .forEach (fun op => .bind (Operation.run_agree ho p op).attempt fun _ => .pure _) ops

end Watch

end Rollout
