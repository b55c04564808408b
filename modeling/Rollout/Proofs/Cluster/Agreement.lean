import Rollout.Cluster.Upkeep
import Rollout.Proofs.Http.Agreement
import Rollout.Proofs.Watch.Agreement
/-!
# Agreement of clusters

A cluster that is reached by another client does the same, if the two clients agree and still do so
below the bases of the cluster's orchestrators.
-/

namespace Rollout

open Http Wire Time

variable {σ : Type} {α : Type} {A : Net σ → Net σ → Prop}

namespace Cluster

/-- The same cluster through another client. -/
def reachedBy (c : Cluster σ) (client : Client σ) : Cluster σ := { c with http := client }

/-- The cluster's client agrees with another one, and so it does below every orchestrator. -/
structure Agree (A : Net σ → Net σ → Prop) (c : Cluster σ) (client : Client σ) : Prop where
  own : c.http.Agree A client
  rebased : ∀ (context : Context) base, c.http.url context.basePath = .ok base →
    (c.http.rebased base).Agree A (client.rebased base)

theorem tolerateNotFound_agree {x y : Run (Net σ) Fault Unit} (hxy : Run.Agree A x y) :
    Run.Agree A (tolerateNotFound x) (tolerateNotFound y) := by
  refine .bind hxy.attempt fun result => ?_
  cases result with
  | ok _ => exact .pure _
  | error fault =>
      simp only
      split
      · exact .pure _
      · exact .fail _

section

variable {r r' : Remote σ} (hr : r.Agree A r') (c : Cluster σ) (client : Client σ)
include hr

theorem deploymentWaitFor_agree (timeout : Span) :
    Run.Agree A (c.deploymentWaitFor r timeout)
      ((c.reachedBy client).deploymentWaitFor r' timeout) := by
  have hlisted : Run.Agree A (do return (← r.listDeployments).isEmpty)
      (do return (← r'.listDeployments).isEmpty) :=
    .bind (Remote.listDeployments_agree hr) fun _ => .pure _
  refine .bind (hlisted.awaitUntil _) fun settled => ?_
  rw [hr.context]
  cases settled with
  | true => exact .pure _
  | false => exact .fail _

theorem deploymentWait_agree :
    Run.Agree A (c.deploymentWait r) ((c.reachedBy client).deploymentWait r') :=
  deploymentWaitFor_agree hr c client c.deploymentWaitTimeout

theorem deleteAllAppsWait_agree :
    Run.Agree A (c.deleteAllAppsWait r) ((c.reachedBy client).deleteAllAppsWait r') := by
  refine .bind (Remote.listApps_agree hr) fun apps => ?_
  refine .bind (.forEach (fun app => tolerateNotFound_agree ?_) apps) fun _ =>
    deploymentWait_agree hr c client
  exact .bind (Remote.removeApp_agree hr app.id true) fun _ => .pure _

theorem stopAllDeployments_agree :
    Run.Agree A (c.stopAllDeployments r) ((c.reachedBy client).stopAllDeployments r') := by
  refine .bind (Remote.listDeployments_agree hr) fun deployments => ?_
  refine .forEach (fun d => ?_) deployments
  exact tolerateNotFound_agree (Remote.stopDeployment_agree hr d.id)

theorem removeAppWait_agree (appId : String) :
    Run.Agree A (c.removeAppWait r appId) ((c.reachedBy client).removeAppWait r' appId) := by
  unfold removeAppWait
  refine .bind (Remote.removeApp_agree hr appId true).attempt fun result => ?_
  cases result with
  | ok _ => exact deploymentWait_agree hr c client
  | error fault =>
      simp only
      split
      · exact .pure _
      · exact .fail _

theorem watch_agree :
    (c.watch r).orchestrator.Agree A ((c.reachedBy client).watch r').orchestrator where
  addApp := Remote.addApp_agree hr
  removeApp := Remote.removeApp_agree hr
  getDeployment := Remote.getDeployment_agree hr

end

section

variable {c : Cluster σ} {client : Client σ} (hc : c.Agree A client)
include hc

theorem remote_agree {τ : Type} {R : τ → τ → Prop} (context : Context)
    {block block' : Remote σ → Run τ Fault α}
    (hblock : ∀ r r' : Remote σ, r.Agree A r' → Run.Agree R (block r) (block' r')) :
    Run.Agree R (Run.ofExcept (c.remote context) >>= block)
      (Run.ofExcept ((c.reachedBy client).remote context) >>= block') := by
  have hurl : (c.reachedBy client).http.url context.basePath = c.http.url context.basePath :=
    (hc.own.url_eq context.basePath).symm
  unfold remote
  rw [hurl]
  cases hbase : c.http.url context.basePath with
  | error fault => exact .fail (α := α) fault
  | ok base =>
      change Run.Agree R (pure _ >>= block) (pure _ >>= block')
      rw [pure_bind, pure_bind]
      exact hblock _ _ ⟨hc.rebased context base hbase, rfl⟩

theorem frameworks_agree : Run.Agree A c.frameworks (c.reachedBy client).frameworks :=
  .bind (Client.get_agree hc.own (by decide)) fun _ => .pure _

theorem platformVersion_agree :
    Run.Agree A c.platformVersion (c.reachedBy client).platformVersion :=
  Client.get_agree hc.own (by decide)

theorem installPackage_agree (request : PackageRequest) :
    Run.Agree A (c.installPackage request) ((c.reachedBy client).installPackage request) :=
  Client.post_agree hc.own (by decide) request

theorem endpointExists_agree (name : String) :
    Run.Agree A (c.endpointExists name) ((c.reachedBy client).endpointExists name) := by
  have hpath : Url.Descends ("service/" ++ name ++ "/").toList :=
    Url.descends_append (Url.descends_append (by decide) name) "/"
  exact .bind (Client.probe_agree hc.own hpath) fun _ => .ofExcept _

theorem serviceAvailable_agree (name : String) :
    Run.Agree A (c.serviceAvailable name) ((c.reachedBy client).serviceAvailable name) :=
  .bind (frameworks_agree hc) fun _ => .pure _

theorem info_agree : Run.Agree A c.info (c.reachedBy client).info := by
  have hurl : (c.reachedBy client).url = c.url := congrArg Url.text hc.own.base.symm
  have hrest (version : Option String) : Run.Agree A
      (Run.ofExcept c.root >>= fun root => root.info >>= fun orchestrator =>
        pure (⟨c.url, version, orchestrator⟩ : ClusterInfo))
      (Run.ofExcept (c.reachedBy client).root >>= fun root => root.info >>= fun orchestrator =>
        pure (⟨(c.reachedBy client).url, version, orchestrator⟩ : ClusterInfo)) := by
    rw [hurl]
    exact remote_agree hc .root fun _ _ hr => .bind (Remote.info_agree hr) fun _ => .pure _
  refine .bind (platformVersion_agree hc).attempt fun result => ?_
  cases result with
  | ok v => exact .bind (.pure _) hrest
  | error fault =>
      simp only
      split
      · exact .bind (.pure _) hrest
      · exact .bind (.fail _) hrest

theorem waitForEndpoint_agree (name : String) (timeout : Span) :
    Run.Agree A (c.waitForEndpoint name timeout)
      ((c.reachedBy client).waitForEndpoint name timeout) :=
  (endpointExists_agree hc name).awaitUntil _

theorem waitForEndpointRemoval_agree (name : String) (timeout : Span) :
    Run.Agree A (c.waitForEndpointRemoval name timeout)
      ((c.reachedBy client).waitForEndpointRemoval name timeout) := by
  have hgone : Run.Agree A (do return !(← c.endpointExists name))
      (do return !(← (c.reachedBy client).endpointExists name)) :=
    .bind (endpointExists_agree hc name) fun _ => .pure _
  exact hgone.awaitUntil _

theorem ensureNested_agree : Run.Agree A c.ensureNested (c.reachedBy client).ensureNested := by
  have hwait : Run.Agree A
      (c.waitForEndpoint c.nestedServiceName c.serviceEndpointTimeout >>= fun up =>
        if up then pure () else .fail (.timeout (c.nestedServiceName
          ++ " endpoint did not come up within " ++ c.serviceEndpointTimeout.text)))
      ((c.reachedBy client).waitForEndpoint c.nestedServiceName c.serviceEndpointTimeout >>=
        fun up => if up then pure () else .fail (.timeout (c.nestedServiceName
          ++ " endpoint did not come up within " ++ c.serviceEndpointTimeout.text))) := by
    refine .bind (waitForEndpoint_agree hc _ _) fun up => ?_
    cases up with
    | true => exact .pure _
    | false => exact .fail _
  refine .bind (serviceAvailable_agree hc _) fun available => ?_
  cases available with
  | true => exact hwait
  | false => exact .bind (installPackage_agree hc _) fun _ => hwait

end

end Cluster

end Rollout
