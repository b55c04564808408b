import Rollout.Cluster.Upkeep
import Rollout.Proofs.Http.Progress
/-!
# Progress in a cluster

The clients of a cluster all reach the same server, so what its requests keep is kept by the steps
that clean it up.
-/

namespace Rollout.Cluster

open Http Wire Time

variable {σ : Type} {α : Type} {P : Progress (Net σ)}

/-- Every request below the cluster keeps the relation, and so does every one below the base of an
orchestrator. -/
structure Keeps (P : Progress (Net σ)) (c : Cluster σ) : Prop where
  own : c.http.Keeps P
  rebased : ∀ (context : Context) base, c.http.url context.basePath = .ok base →
    (c.http.rebased base).Keeps P

theorem Keeps.of_transmit {c : Cluster σ}
    (h : ∀ base q, Run.Follows P ((c.http.rebased base).transmit q)) : c.Keeps P :=
  ⟨.of_transmit (h c.http.base), fun _ base _ => .of_transmit (h base)⟩

theorem follows_tolerateNotFound {x : Run (Net σ) Fault Unit} (hx : Run.Follows P x) :
    Run.Follows P (tolerateNotFound x) := by
  refine .bind hx.attempt fun result => ?_
  cases result with
  | ok _ => exact .pure _
  | error fault =>
      simp only
      split
      · exact .pure _
      · exact .fail _

section

variable {r : Remote σ} (hr : r.http.Keeps P) (c : Cluster σ)
include hr

theorem follows_deploymentWaitFor (timeout : Span) :
    Run.Follows P (c.deploymentWaitFor r timeout) := by
  have hlisted : Run.Follows P (do return (← r.listDeployments).isEmpty) :=
    .bind (Remote.follows_listDeployments hr) fun _ => .pure _
  refine .bind (hlisted.awaitUntil _) fun settled => ?_
  cases settled with
  | true => exact .pure _
  | false => exact .fail _

theorem follows_deploymentWait : Run.Follows P (c.deploymentWait r) :=
  follows_deploymentWaitFor hr c c.deploymentWaitTimeout

theorem follows_deleteAllAppsWait : Run.Follows P (c.deleteAllAppsWait r) := by
  refine .bind (Remote.follows_listApps hr) fun apps => ?_
  refine .bind (.forEach (fun app => follows_tolerateNotFound ?_) apps) fun _ =>
    follows_deploymentWait hr c
  exact .bind (Remote.follows_removeApp hr app.id true) fun _ => .pure _

theorem follows_stopAllDeployments : Run.Follows P (c.stopAllDeployments r) := by
  refine .bind (Remote.follows_listDeployments hr) fun deployments => ?_
  refine .forEach (fun d => ?_) deployments
  exact follows_tolerateNotFound (Remote.follows_stopDeployment hr d.id)

theorem follows_removeAppWait (appId : String) : Run.Follows P (c.removeAppWait r appId) := by
  unfold removeAppWait
  refine .bind (Remote.follows_removeApp hr appId true).attempt fun result => ?_
  cases result with
  | ok _ => exact follows_deploymentWait hr c
  | error fault =>
      simp only
      split
      · exact .pure _
      · exact .fail _

end

section

variable {c : Cluster σ} (hc : c.Keeps P)
include hc

theorem follows_remote (context : Context) {block : Remote σ → Run (Net σ) Fault α}
    (hblock : ∀ r : Remote σ, r.http.Keeps P → Run.Follows P (block r)) :
    Run.Follows P ((Run.ofExcept (c.remote context)) >>= block) := by
  refine .ofExcept_bind fun r hremote => ?_
  obtain ⟨base, hurl, rfl⟩ := remote_eq_ok_iff.mp hremote
  exact hblock _ (hc.rebased context base hurl)

theorem follows_frameworks : Run.Follows P c.frameworks :=
  .bind (Client.follows_get hc.own (by decide)) fun _ => .pure _

theorem follows_platformVersion : Run.Follows P c.platformVersion :=
  Client.follows_get hc.own (by decide)

theorem follows_installPackage (request : PackageRequest) :
    Run.Follows P (c.installPackage request) :=
  Client.follows_post hc.own (by decide) request

theorem follows_endpointExists (name : String) : Run.Follows P (c.endpointExists name) := by
  have hpath : Url.Descends ("service/" ++ name ++ "/").toList :=
    Url.descends_append (Url.descends_append (by decide) name) "/"
  exact .bind (Client.follows_probe hc.own hpath) fun _ => .ofExcept _

theorem follows_serviceAvailable (name : String) : Run.Follows P (c.serviceAvailable name) :=
  .bind (follows_frameworks hc) fun _ => .pure _

theorem follows_info : Run.Follows P c.info := by
  have hrest (version : Option String) : Run.Follows P
      (Run.ofExcept c.root >>= fun root => root.info >>= fun orchestrator =>
        pure (⟨c.url, version, orchestrator⟩ : ClusterInfo)) :=
    follows_remote hc .root fun _ hr => .bind (Remote.follows_info hr) fun _ => .pure _
  refine .bind (follows_platformVersion hc).attempt fun result => ?_
  cases result with
  | ok v => exact .bind (.pure _) hrest
  | error fault =>
      simp only
      split
      · exact .bind (.pure _) hrest
      · exact .bind (.fail _) hrest

theorem follows_waitForEndpoint (name : String) (timeout : Span) :
    Run.Follows P (c.waitForEndpoint name timeout) :=
  (follows_endpointExists hc name).awaitUntil _

theorem follows_waitForEndpointRemoval (name : String) (timeout : Span) :
    Run.Follows P (c.waitForEndpointRemoval name timeout) := by
  have hgone : Run.Follows P (do return !(← c.endpointExists name)) :=
    .bind (follows_endpointExists hc name) fun _ => .pure _
  exact hgone.awaitUntil _

theorem follows_ensureNested : Run.Follows P c.ensureNested := by
  have hwait : Run.Follows P (c.waitForEndpoint c.nestedServiceName c.serviceEndpointTimeout >>=
      fun up => if up then pure () else .fail (.timeout (c.nestedServiceName
        ++ " endpoint did not come up within " ++ c.serviceEndpointTimeout.text))) := by
    refine .bind (follows_waitForEndpoint hc _ _) fun up => ?_
    cases up with
    | true => exact .pure _
    | false => exact .fail _
  refine .bind (follows_serviceAvailable hc _) fun available => ?_
  cases available with
  | true => exact hwait
  | false => exact .bind (follows_installPackage hc _) fun _ => hwait

end

end Rollout.Cluster
