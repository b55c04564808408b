import Rollout.Cluster.Basic
/-!
# Cluster upkeep

Waits for deployments and endpoints, and the steps that set a cluster up and clean it again.
Something that is already gone is no reason for a removal to fail.
-/

namespace Rollout.Cluster

open Http Wire Time

variable {σ : Type}

/-- A failure counts as done when it says that something is not there. -/
def tolerateNotFound (x : Run (Net σ) Fault Unit) : Run (Net σ) Fault Unit := do
  match ← x.attempt with
  | .ok () => return ()
  | .error fault => if fault.isNotFound then return () else .fail fault

/-- Waits until no deployment is listed. -/
def deploymentWaitFor (c : Cluster σ) (r : Remote σ) (timeout : Span) :
    Run (Net σ) Fault Unit := do
  let settled ← Run.awaitUntil (c.patience timeout) do
    return (← r.listDeployments).isEmpty
  if settled then return ()
  else
    .fail (.timeout ("[" ++ r.context.text ++ "] deployments did not settle within "
      ++ timeout.text))

def deploymentWait (c : Cluster σ) (r : Remote σ) : Run (Net σ) Fault Unit :=
  c.deploymentWaitFor r c.deploymentWaitTimeout

/-- Whether the service of a name answers within the time. -/
def waitForEndpoint (c : Cluster σ) (name : String) (timeout : Span) : Run (Net σ) Fault Bool :=
  .awaitUntil (c.patience timeout) (c.endpointExists name)

/-- Whether the service of a name stops answering within the time. -/
def waitForEndpointRemoval (c : Cluster σ) (name : String) (timeout : Span) :
    Run (Net σ) Fault Bool :=
  .awaitUntil (c.patience timeout) do
    return !(← c.endpointExists name)

/-- Removes every app by force, then waits for the removals. -/
def deleteAllAppsWait (c : Cluster σ) (r : Remote σ) : Run (Net σ) Fault Unit := do
  let apps ← r.listApps
  Run.forEach apps fun app => tolerateNotFound do
    let _ ← r.removeApp app.id true
  c.deploymentWait r

/-- Cancels every deployment. -/
def stopAllDeployments (_ : Cluster σ) (r : Remote σ) : Run (Net σ) Fault Unit := do
  let deployments ← r.listDeployments
  Run.forEach deployments fun d => tolerateNotFound (r.stopDeployment d.id)

/-- Removes an app by force and waits for the removal, unless it is not there. -/
def removeAppWait (c : Cluster σ) (r : Remote σ) (appId : String) : Run (Net σ) Fault Unit := do
  match ← (r.removeApp appId true).attempt with
  | .ok _ => c.deploymentWait r
  | .error fault => if fault.isNotFound then return () else .fail fault

/-- The request that installs the nested orchestrator. -/
def nestedPackage (name : String) : PackageRequest :=
  ⟨"marathon", none, .object [("service", .object [("name", .string name)])]⟩

/-- Installs the nested orchestrator if it is not registered, and waits for its endpoint. -/
def ensureNested (c : Cluster σ) : Run (Net σ) Fault Unit := do
  let name := c.nestedServiceName
  if ← c.serviceAvailable name then pure ()
  else
    let _ ← c.installPackage (nestedPackage name)
  if ← c.waitForEndpoint name c.serviceEndpointTimeout then return ()
  else
    .fail (.timeout (name ++ " endpoint did not come up within " ++ c.serviceEndpointTimeout.text))

end Rollout.Cluster
