import Rollout.Time.Calendar
import Rollout.Wire.App
/-!
# Deployments

Snapshots of deployments in progress as an orchestrator lists them, with their steps, actions and
readiness results, and the answer to a removal.
-/

namespace Rollout.Wire

open Json

/-- The last answer to a readiness check. -/
structure ReadinessResponse where
  status : UInt16
  contentType : String
  body : String
  deriving DecidableEq, Inhabited

def ReadinessResponse.shape : Shape :=
  .record "ReadinessResponse" <|
    .required "status" (.natural .w16) <|
    .default "contentType" .text (.text "") <|
    .default "body" .text (.text "") .nil

def ReadinessResponse.toDatum (r : ReadinessResponse) : Datum :=
  .record [.natural r.status.toUInt64, .text r.contentType, .text r.body]

def ReadinessResponse.ofDatum : Datum → ReadinessResponse
  | .record [status, contentType, body] =>
    ⟨status.asNatural.toUInt16, contentType.asText, body.asText⟩
  | _ => default

/-- The latest outcome of a readiness check for one task. -/
structure ReadinessResult where
  name : String
  taskId : String
  ready : Bool
  lastResponse : Option ReadinessResponse
  deriving DecidableEq, Inhabited

def ReadinessResult.shape : Shape :=
  .record "ReadinessCheckResult" <|
    .required "name" .text <|
    .required "taskId" .text <|
    .required "ready" .bool <|
    .maybe "lastResponse" ReadinessResponse.shape .nil

def ReadinessResult.toDatum (r : ReadinessResult) : Datum :=
  .record [.text r.name, .text r.taskId, .bool r.ready,
    .ofOption ReadinessResponse.toDatum r.lastResponse]

def ReadinessResult.ofDatum : Datum → ReadinessResult
  | .record [name, taskId, ready, lastResponse] =>
    ⟨name.asText, taskId.asText, ready.asBool, lastResponse.asOption ReadinessResponse.ofDatum⟩
  | _ => default

/-- One action within a step: start, scale, restart or stop. -/
structure Action where
  action : String
  app : Option String
  pod : Option String
  readinessCheckResults : List ReadinessResult
  deriving DecidableEq, Inhabited

def Action.shape : Shape :=
  .record "DeploymentAction" <|
    .required "action" .text <|
    .maybe "app" .text <|
    .maybe "pod" .text <|
    .sparse "readinessCheckResults" (.list ReadinessResult.shape) (.list []) .nil

def Action.toDatum (a : Action) : Datum :=
  .record [.text a.action, .ofOption .text a.app, .ofOption .text a.pod,
    .ofList ReadinessResult.toDatum a.readinessCheckResults]

def Action.ofDatum : Datum → Action
  | .record [action, app, pod, results] =>
    ⟨action.asText, app.asOption Datum.asText, pod.asOption Datum.asText,
      results.asList ReadinessResult.ofDatum⟩
  | _ => default

structure DeploymentStep where
  actions : List Action
  deriving DecidableEq, Inhabited

def DeploymentStep.shape : Shape :=
  .record "DeploymentStep" <| .default "actions" (.list Action.shape) (.list []) .nil

def DeploymentStep.toDatum (s : DeploymentStep) : Datum :=
  .record [.ofList Action.toDatum s.actions]

def DeploymentStep.ofDatum : Datum → DeploymentStep
  | .record [actions] => ⟨actions.asList Action.ofDatum⟩
  | _ => default

structure Deployment where
  id : String
  /-- Time stamp of the state the deployment leads to. -/
  version : String
  affectedApps : List String
  affectedPods : List String
  steps : List DeploymentStep
  /-- Actions of the step under way. -/
  currentActions : List Action
  currentStep : UInt32
  totalSteps : UInt32
  deriving DecidableEq, Inhabited

def Deployment.shape : Shape :=
  .record "Deployment" <|
    .required "id" .text <|
    .required "version" .text <|
    .default "affectedApps" (.list .text) (.list []) <|
    .default "affectedPods" (.list .text) (.list []) <|
    .default "steps" (.list DeploymentStep.shape) (.list []) <|
    .default "currentActions" (.list Action.shape) (.list []) <|
    .default "currentStep" (.natural .w32) (.natural 0) <|
    .default "totalSteps" (.natural .w32) (.natural 0) .nil

def Deployment.toDatum (d : Deployment) : Datum :=
  .record [.text d.id, .text d.version, .ofList .text d.affectedApps, .ofList .text d.affectedPods,
    .ofList DeploymentStep.toDatum d.steps, .ofList Action.toDatum d.currentActions,
    .natural d.currentStep.toUInt64, .natural d.totalSteps.toUInt64]

def Deployment.ofDatum : Datum → Deployment
  | .record [id, version, apps, pods, steps, actions, current, total] =>
    ⟨id.asText, version.asText, apps.asList Datum.asText, pods.asList Datum.asText,
      steps.asList DeploymentStep.ofDatum, actions.asList Action.ofDatum,
      current.asNatural.toUInt32, total.asNatural.toUInt32⟩
  | _ => default

/-- The first readiness result of the first action under way. -/
def Deployment.firstReadiness? (d : Deployment) : Option ReadinessResult :=
  d.currentActions.head?.bind (·.readinessCheckResults.head?)

/-- The version as a point in time. -/
def Deployment.versionTime? (d : Deployment) : Option Time.Civil := Time.Civil.parse? d.version

/-- Whether the deployment touches an app; leading slashes of ids do not count. -/
def Deployment.affects (d : Deployment) (appId : String) : Bool :=
  d.affectedApps.any fun id => pathId id == pathId appId

/-- The answer to a removal. -/
structure Removal where
  deploymentId : String
  version : String
  deriving DecidableEq, Inhabited

def Removal.shape : Shape :=
  .record "DeploymentResult" <|
    .required "deploymentId" .text <|
    .required "version" .text .nil

def Removal.toDatum (r : Removal) : Datum := .record [.text r.deploymentId, .text r.version]

def Removal.ofDatum : Datum → Removal
  | .record [id, version] => ⟨id.asText, version.asText⟩
  | _ => default

instance : Wire ReadinessResponse :=
  ⟨ReadinessResponse.shape, ReadinessResponse.toDatum, ReadinessResponse.ofDatum⟩
instance : Wire ReadinessResult :=
  ⟨ReadinessResult.shape, ReadinessResult.toDatum, ReadinessResult.ofDatum⟩
instance : Wire Action := ⟨Action.shape, Action.toDatum, Action.ofDatum⟩
instance : Wire DeploymentStep :=
  ⟨DeploymentStep.shape, DeploymentStep.toDatum, DeploymentStep.ofDatum⟩
instance : Wire Deployment := ⟨Deployment.shape, Deployment.toDatum, Deployment.ofDatum⟩
instance : Wire Removal := ⟨Removal.shape, Removal.toDatum, Removal.ofDatum⟩

end Rollout.Wire
