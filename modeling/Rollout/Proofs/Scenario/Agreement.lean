import Rollout.Proofs.Cluster.Agreement
import Rollout.Proofs.Scenario.Progress
/-!
# Agreement of scenarios

What precedes the scenarios, what each of them does and what follows it reach the cluster through
its own calls and those of its orchestrators, so they do the same through a client that agrees.
-/

namespace Rollout

open Http Time Wire

variable {σ : Type}

section

variable {ε : Type} {τ : Type} {R : σ → τ → Prop} (t : Timings) (n : UInt32)

theorem Timings.units_agree :
    Run.Agree R (t.units n : Run σ ε Span) (t.units n : Run τ ε Span) := by
  unfold units
  cases t.units? n with
  | some window => exact .pure _
  | none => exact .panic _

theorem Timings.sleep_agree :
    Run.Agree R (t.sleep n : Run σ ε Unit) (t.sleep n : Run τ ε Unit) :=
  .bind (t.units_agree n) fun _ => .sleep _

end

namespace Scenario

theorem require_agree {τ : Type} {R : σ → τ → Prop} (condition : Bool) (text : String) :
    Run.Agree R (require condition text : Run σ Fault Unit)
      (require condition text : Run τ Fault Unit) := by
  unfold require
  split
  · exact .pure _
  · exact .fail _

variable {A : Net σ → Net σ → Prop} {c : Cluster σ} {client : Client σ}
  (hc : c.Agree A client)
  (t : Timings)
include hc

theorem setUp_agree : Run.Agree A (setUp c) (setUp (c.reachedBy client)) :=
  .bind (Cluster.ensureNested_agree hc) fun _ => .bind (Cluster.info_agree hc) fun _ => .pure _

theorem removeFrameworkApp_agree :
    Run.Agree A (removeFrameworkApp c) (removeFrameworkApp (c.reachedBy client)) :=
  Cluster.remote_agree hc .root fun _ _ hr => Cluster.removeAppWait_agree hr c client _

theorem stopLeftovers_agree :
    Run.Agree A (stopLeftovers c) (stopLeftovers (c.reachedBy client)) :=
  Cluster.remote_agree hc .root fun _ _ hr => Cluster.stopAllDeployments_agree hr c client

theorem tearDown_agree : Run.Agree A (tearDown c) (tearDown (c.reachedBy client)) :=
  .both (removeFrameworkApp_agree hc) <| Cluster.remote_agree hc c.nestedContext
    fun _ _ hr => Cluster.deleteAllAppsWait_agree hr c client

theorem frameworkUnavailableOnNested_agree : Run.Agree A (frameworkUnavailableOnNested c t)
    (frameworkUnavailableOnNested (c.reachedBy client) t) := by
  have hwindow : Run.Agree A
      (do
        let window ← t.units nestedWindow
        let appeared ← c.waitForEndpoint FrameworkApp.name window
        require (!appeared) "MoM should not create a service endpoint")
      (do
        let window ← t.units nestedWindow
        let appeared ← (c.reachedBy client).waitForEndpoint FrameworkApp.name window
        require (!appeared) "MoM should not create a service endpoint") :=
    .bind (t.units_agree _) fun _ =>
      .bind (Cluster.waitForEndpoint_agree hc _ _) fun _ => require_agree _ _
  have hnested : Run.Agree A
      (c.withNested fun nested => do
        c.deleteAllAppsWait nested
        let _ ← nested.addApp FrameworkApp.app
        c.deploymentWait nested)
      ((c.reachedBy client).withNested fun nested => do
        (c.reachedBy client).deleteAllAppsWait nested
        let _ ← nested.addApp FrameworkApp.app
        (c.reachedBy client).deploymentWait nested) :=
    Cluster.remote_agree hc c.nestedContext fun _ _ hr =>
      .bind (Cluster.deleteAllAppsWait_agree hr c client) fun _ =>
        .bind (Remote.addApp_agree hr _) fun _ => Cluster.deploymentWait_agree hr c client
  refine .bind (Cluster.serviceAvailable_agree hc _) fun active => ?_
  cases active with
  | true =>
      refine .bind (removeFrameworkApp_agree hc) fun _ => ?_
      refine .bind (Cluster.waitForEndpointRemoval_agree hc _ _) fun _ => ?_
      exact .bind (require_agree _ _) fun _ => .bind hnested fun _ => hwindow
  | false => exact .bind hnested fun _ => hwindow

theorem deployFramework_agree :
    Run.Agree A (deployFramework c) (deployFramework (c.reachedBy client)) :=
  Cluster.remote_agree hc .root fun _ _ hr =>
    .bind (Remote.addApp_agree hr _) fun _ =>
      .bind (Cluster.deploymentWait_agree hr c client) fun _ =>
        .bind (Cluster.waitForEndpoint_agree hc _ _) fun _ => require_agree _ _

theorem readinessTimeCheck_agree :
    Run.Agree A (readinessTimeCheck c t) (readinessTimeCheck (c.reachedBy client) t) := by
  refine Cluster.remote_agree hc .root fun r r' hr => .bind (.ofExcept _) fun app => ?_
  have hw := Cluster.watch_agree hr c client
  refine Run.Agree.startingWith Ledger.empty ?_
  exact .bind (Watch.submitApp_agree hw _ app) fun handle =>
    .bind (t.sleep_agree _) fun _ =>
      .bind (Watch.assertReadiness_agree hw _ handle false) fun _ =>
        .bind (t.sleep_agree _) fun _ => Watch.assertAbsent_agree hw _ handle

theorem readinessTestTimeout_agree :
    Run.Agree A (readinessTestTimeout c t) (readinessTestTimeout (c.reachedBy client) t) := by
  refine Cluster.remote_agree hc .root fun r r' hr => .bind (.ofExcept _) fun app => ?_
  have hw := Cluster.watch_agree hr c client
  refine Run.Agree.startingWith Ledger.empty ?_
  exact .bind (Watch.submitApp_agree hw _ app) fun handle =>
    .bind (t.sleep_agree _) fun _ =>
      .bind (Watch.observe_agree hw _ handle) fun _ =>
        .bind (require_agree _ _) fun _ => Watch.assertReadiness_agree hw _ handle false

theorem body_agree {s : Scenario σ} (hs : s ∈ all) :
    Run.Agree A (s.body c t) (s.body (c.reachedBy client) t) := by
  simp only [all, List.mem_cons, List.not_mem_nil, or_false] at hs
  rcases hs with rfl | rfl | rfl | rfl
  · exact frameworkUnavailableOnNested_agree hc t
  · exact deployFramework_agree hc
  · exact readinessTimeCheck_agree hc t
  · exact readinessTestTimeout_agree hc t

theorem cleanup_agree (s : Scenario σ) :
    Run.Agree A (s.cleanup c) (s.cleanup (c.reachedBy client)) := by
  refine .both ?_ (tearDown_agree hc)
  split
  · exact stopLeftovers_agree hc
  · exact .pure _

theorem run_agree {s : Scenario σ} (hs : s ∈ all) :
    Run.Agree A (s.run c t) (s.run (c.reachedBy client) t) := by
  have hperform : Run.Agree A (s.perform c t) (s.perform (c.reachedBy client) t) :=
    .withCleanup (body_agree hc t hs) (cleanup_agree hc s)
  exact .bind .now fun _ => .bind hperform.attempt fun _ => .bind .now fun _ => .pure _

theorem runAll_agree {scenarios : List (Scenario σ)} (h : ∀ s ∈ scenarios, s ∈ all) :
    Run.Agree A (runAll scenarios c t) (runAll scenarios (c.reachedBy client) t) :=
  .bind (setUp_agree hc) fun _ => .mapEach fun s hs => run_agree hc t (h s hs)

end Scenario

end Rollout
