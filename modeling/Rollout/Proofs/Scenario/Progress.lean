import Rollout.Proofs.Cluster.Progress
import Rollout.Proofs.Watch.Progress
import Rollout.Scenario.Report
/-!
# Progress of scenarios

Scenarios, what precedes them and what follows them reach the cluster through its own calls and
those of its orchestrators, so they keep whatever these keep.
-/

namespace Rollout

open Http Time Wire

variable {σ : Type}

theorem Cluster.follows_watch {P : Progress (Net σ)} {r : Remote σ} (hr : r.http.Keeps P)
    (c : Cluster σ) : (c.watch r).orchestrator.Follows P where
  addApp := Remote.follows_addApp hr
  removeApp := Remote.follows_removeApp hr
  getDeployment := Remote.follows_getDeployment hr

section

variable {ε : Type} {P : Progress σ} (t : Timings) (n : UInt32)

theorem Timings.follows_units : Run.Follows P (t.units n : Run σ ε Span) := by
  unfold units
  split
  · exact .pure _
  · exact .panic _

theorem Timings.follows_sleep : Run.Follows P (t.sleep n : Run σ ε Unit) :=
  .bind (t.follows_units n) fun _ => .sleep _

end

namespace Scenario

theorem follows_require {P : Progress σ} (condition : Bool) (text : String) :
    Run.Follows P (require condition text : Run σ Fault Unit) := by
  unfold require
  split
  · exact .pure _
  · exact .fail _

variable {P : Progress (Net σ)} {c : Cluster σ} (hc : c.Keeps P) (t : Timings)
include hc

theorem follows_setUp : Run.Follows P (setUp c) :=
  .bind (Cluster.follows_ensureNested hc) fun _ => .bind (Cluster.follows_info hc) fun _ => .pure _

theorem follows_removeFrameworkApp : Run.Follows P (removeFrameworkApp c) :=
  Cluster.follows_remote hc .root fun _ hr => Cluster.follows_removeAppWait hr c _

theorem follows_stopLeftovers : Run.Follows P (stopLeftovers c) :=
  Cluster.follows_remote hc .root fun _ hr => Cluster.follows_stopAllDeployments hr c

theorem follows_clearNested : Run.Follows P (c.withNested c.deleteAllAppsWait) :=
  Cluster.follows_remote hc c.nestedContext fun _ hr => Cluster.follows_deleteAllAppsWait hr c

theorem follows_tearDown : Run.Follows P (tearDown c) :=
  .both (follows_removeFrameworkApp hc) (follows_clearNested hc)

theorem follows_frameworkUnavailableOnNested :
    Run.Follows P (frameworkUnavailableOnNested c t) := by
  have hwindow : Run.Follows P (do
      let window ← t.units nestedWindow
      let appeared ← c.waitForEndpoint FrameworkApp.name window
      require (!appeared) "MoM should not create a service endpoint") :=
    .bind (t.follows_units _) fun _ =>
      .bind (Cluster.follows_waitForEndpoint hc _ _) fun _ => follows_require _ _
  have hnested : Run.Follows P (c.withNested fun nested => do
      c.deleteAllAppsWait nested
      let _ ← nested.addApp FrameworkApp.app
      c.deploymentWait nested) :=
    Cluster.follows_remote hc c.nestedContext fun _ hr =>
      .bind (Cluster.follows_deleteAllAppsWait hr c) fun _ =>
        .bind (Remote.follows_addApp hr _) fun _ => Cluster.follows_deploymentWait hr c
  refine .bind (Cluster.follows_serviceAvailable hc _) fun active => ?_
  cases active with
  | true =>
      refine .bind (follows_removeFrameworkApp hc) fun _ => ?_
      refine .bind (Cluster.follows_waitForEndpointRemoval hc _ _) fun _ => ?_
      exact .bind (follows_require _ _) fun _ => .bind hnested fun _ => hwindow
  | false => exact .bind hnested fun _ => hwindow

theorem follows_deployFramework : Run.Follows P (deployFramework c) :=
  Cluster.follows_remote hc .root fun _ hr =>
    .bind (Remote.follows_addApp hr _) fun _ =>
      .bind (Cluster.follows_deploymentWait hr c) fun _ =>
        .bind (Cluster.follows_waitForEndpoint hc _ _) fun _ => follows_require _ _

theorem follows_readinessTimeCheck : Run.Follows P (readinessTimeCheck c t) := by
  refine Cluster.follows_remote hc .root fun r hr => .bind (.ofExcept _) fun app => ?_
  have hw := Cluster.follows_watch hr c
  refine Run.Follows.startingWith ?_ Ledger.empty
  exact .bind (Watch.follows_submitApp hw app) fun handle =>
    .bind (t.follows_sleep _) fun _ =>
      .bind (Watch.follows_assertReadiness hw handle false) fun _ =>
        .bind (t.follows_sleep _) fun _ => Watch.follows_assertAbsent hw handle

theorem follows_readinessTestTimeout : Run.Follows P (readinessTestTimeout c t) := by
  refine Cluster.follows_remote hc .root fun r hr => .bind (.ofExcept _) fun app => ?_
  have hw := Cluster.follows_watch hr c
  refine Run.Follows.startingWith ?_ Ledger.empty
  exact .bind (Watch.follows_submitApp hw app) fun handle =>
    .bind (t.follows_sleep _) fun _ =>
      .bind (Watch.follows_observe hw handle) fun _ =>
        .bind (follows_require _ _) fun _ => Watch.follows_assertReadiness hw handle false

theorem follows_body {s : Scenario σ} (hs : s ∈ all) : Run.Follows P (s.body c t) := by
  simp only [all, List.mem_cons, List.not_mem_nil, or_false] at hs
  rcases hs with rfl | rfl | rfl | rfl
  · exact follows_frameworkUnavailableOnNested hc t
  · exact follows_deployFramework hc
  · exact follows_readinessTimeCheck hc t
  · exact follows_readinessTestTimeout hc t

theorem follows_cleanup (s : Scenario σ) : Run.Follows P (s.cleanup c) := by
  refine .both ?_ (follows_tearDown hc)
  split
  · exact follows_stopLeftovers hc
  · exact .pure _

theorem follows_run {s : Scenario σ} (hs : s ∈ all) : Run.Follows P (s.run c t) := by
  have hperform : Run.Follows P (s.perform c t) :=
    .withCleanup (follows_body hc t hs) (follows_cleanup hc s)
  exact .bind .now fun _ => .bind hperform.attempt fun _ => .bind .now fun _ => .pure _

theorem follows_runAll {scenarios : List (Scenario σ)} (h : ∀ s ∈ scenarios, s ∈ all) :
    Run.Follows P (runAll scenarios c t) :=
  .bind (follows_setUp hc) fun _ => .mapEach fun s hs => follows_run hc t (h s hs)

end Scenario

end Rollout
