import Rollout.Http.Client
import Rollout.Orchestrator.Basic
/-!
# Remote orchestrators

An orchestrator behind its API. A rejection of a submission is told apart from other failures by
its status.
-/

namespace Rollout

open Wire Http

structure Remote (σ : Type) where
  /-- Below the API of the orchestrator. -/
  http : Client σ
  context : Context

/-- A client error on a submission is a rejection. -/
def Fault.ofSubmission : Fault → Fault
  | unexpectedStatus status text =>
    if 400 ≤ status.toNat ∧ status.toNat < 500 then submission status text
    else unexpectedStatus status text
  | fault => fault

namespace Remote

variable {σ : Type}

def info (r : Remote σ) : Run (Net σ) Fault OrchestratorInfo := r.http.get "v2/info"

def listApps (r : Remote σ) : Run (Net σ) Fault (List App) := do
  let listing : AppListing ← r.http.get "v2/apps"
  return listing.apps

def listDeployments (r : Remote σ) : Run (Net σ) Fault (List Deployment) :=
  r.http.get "v2/deployments"

/-- Cancels a deployment without rolling it back. -/
def stopDeployment (r : Remote σ) (id : String) : Run (Net σ) Fault Unit :=
  r.http.deleteOnly ("v2/deployments/" ++ id) true

def addApp (r : Remote σ) (app : App) : Run (Net σ) Fault String := do
  let created : AppCreated ← (r.http.post "v2/apps" app).mapFault Fault.ofSubmission
  match created.deployments with
  | deployment :: _ => return deployment.id
  | [] => .fail (.internal ("No deployment started for app " ++ app.id))

def removeApp (r : Remote σ) (id : String) (force : Bool) : Run (Net σ) Fault String := do
  let removal : Removal ←
    (r.http.delete ("v2/apps/" ++ pathId id) force).mapFault Fault.ofSubmission
  return removal.deploymentId

/-- The deployment of an id, if it is still listed. -/
def getDeployment (r : Remote σ) (id : String) : Run (Net σ) Fault (Option Deployment) := do
  return (← r.listDeployments).find? (·.id == id)

def toOrchestrator (r : Remote σ) : Orchestrator (Net σ) :=
  ⟨r.addApp, r.removeApp, r.getDeployment⟩

end Remote

end Rollout
