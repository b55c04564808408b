import Rollout.Json.Wire
import Rollout.Text.Blank
/-!
# Apps

Definitions of apps as an orchestrator takes and returns them, with their containers, ports and
checks, and the answers that carry them.
-/

namespace Rollout.Wire

open Json Decimal

structure Docker where
  image : String
  forcePullImage : Bool
  deriving DecidableEq, Inhabited

def Docker.shape : Shape :=
  .record "DockerContainer" <|
    .required "image" .text <|
    .default "forcePullImage" .bool (.bool false) .nil

def Docker.toDatum (d : Docker) : Datum :=
  .record [.text d.image, .bool d.forcePullImage]

def Docker.ofDatum : Datum → Docker
  | .record [image, force] => ⟨image.asText, force.asBool⟩
  | _ => default

structure Container where
  /-- `MESOS` or `DOCKER`. -/
  kind : String
  docker : Option Docker
  deriving DecidableEq, Inhabited

def Container.shape : Shape :=
  .record "Container" <|
    .required "type" .text <|
    .maybe "docker" Docker.shape .nil

def Container.toDatum (c : Container) : Datum :=
  .record [.text c.kind, .ofOption Docker.toDatum c.docker]

def Container.ofDatum : Datum → Container
  | .record [kind, docker] => ⟨kind.asText, docker.asOption Docker.ofDatum⟩
  | _ => default

structure PortDefinition where
  /-- Zero leaves the choice of a port to the orchestrator. -/
  port : UInt16
  protocol : String
  name : Option String
  deriving DecidableEq, Inhabited

def PortDefinition.shape : Shape :=
  .record "PortDefinition" <|
    .required "port" (.natural .w16) <|
    .default "protocol" .text (.text "tcp") <|
    .maybe "name" .text .nil

def PortDefinition.toDatum (p : PortDefinition) : Datum :=
  .record [.natural p.port.toUInt64, .text p.protocol, .ofOption .text p.name]

def PortDefinition.ofDatum : Datum → PortDefinition
  | .record [port, protocol, name] =>
    ⟨port.asNatural.toUInt16, protocol.asText, name.asOption Datum.asText⟩
  | _ => default

structure HealthCheck where
  /-- `HTTP`, `TCP`, `COMMAND` and others. -/
  protocol : String
  path : Option String
  portIndex : UInt32
  gracePeriodSeconds : UInt32
  intervalSeconds : UInt32
  timeoutSeconds : UInt32
  maxConsecutiveFailures : UInt32
  deriving DecidableEq, Inhabited

def HealthCheck.shape : Shape :=
  .record "HealthCheck" <|
    .required "protocol" .text <|
    .maybe "path" .text <|
    .default "portIndex" (.natural .w32) (.natural 0) <|
    .required "gracePeriodSeconds" (.natural .w32) <|
    .required "intervalSeconds" (.natural .w32) <|
    .required "timeoutSeconds" (.natural .w32) <|
    .required "maxConsecutiveFailures" (.natural .w32) .nil

def HealthCheck.toDatum (h : HealthCheck) : Datum :=
  .record [.text h.protocol, .ofOption .text h.path, .natural h.portIndex.toUInt64,
    .natural h.gracePeriodSeconds.toUInt64, .natural h.intervalSeconds.toUInt64,
    .natural h.timeoutSeconds.toUInt64, .natural h.maxConsecutiveFailures.toUInt64]

def HealthCheck.ofDatum : Datum → HealthCheck
  | .record [protocol, path, portIndex, grace, interval, timeout, failures] =>
    ⟨protocol.asText, path.asOption Datum.asText, portIndex.asNatural.toUInt32,
      grace.asNatural.toUInt32, interval.asNatural.toUInt32, timeout.asNatural.toUInt32,
      failures.asNatural.toUInt32⟩
  | _ => default

/-- A check that is made on every new task at a fixed interval; a step of a deployment completes
once it answers with one of the status codes. -/
structure ReadinessCheck where
  name : String
  protocol : String
  path : String
  portName : String
  intervalSeconds : UInt32
  timeoutSeconds : UInt32
  httpStatusCodesForReady : List UInt16
  preserveLastResponse : Bool
  deriving DecidableEq, Inhabited

def ReadinessCheck.shape : Shape :=
  .record "ReadinessCheck" <|
    .required "name" .text <|
    .required "protocol" .text <|
    .required "path" .text <|
    .required "portName" .text <|
    .required "intervalSeconds" (.natural .w32) <|
    .required "timeoutSeconds" (.natural .w32) <|
    .default "httpStatusCodesForReady" (.list (.natural .w16)) (.list []) <|
    .default "preserveLastResponse" .bool (.bool false) .nil

def ReadinessCheck.toDatum (r : ReadinessCheck) : Datum :=
  .record [.text r.name, .text r.protocol, .text r.path, .text r.portName,
    .natural r.intervalSeconds.toUInt64, .natural r.timeoutSeconds.toUInt64,
    .ofList (fun n => .natural n.toUInt64) r.httpStatusCodesForReady,
    .bool r.preserveLastResponse]

def ReadinessCheck.ofDatum : Datum → ReadinessCheck
  | .record [name, protocol, path, portName, interval, timeout, codes, preserve] =>
    ⟨name.asText, protocol.asText, path.asText, portName.asText, interval.asNatural.toUInt32,
      timeout.asNatural.toUInt32, codes.asList fun n => n.asNatural.toUInt16, preserve.asBool⟩
  | _ => default

structure App where
  /-- Absolute or relative, such as `/python-http`. -/
  id : String
  cmd : Option String
  cpus : Double
  mem : Double
  disk : Double
  instances : UInt32
  container : Option Container
  portDefinitions : List PortDefinition
  requirePorts : Bool
  labels : Dict String
  healthChecks : List HealthCheck
  readinessChecks : List ReadinessCheck
  /-- Set by the orchestrator and ignored by it on submission. -/
  version : Option String
  deriving DecidableEq, Inhabited

def App.row : Row :=
  .required "id" .text <|
  .maybe "cmd" .text <|
  .default "cpus" .double (.double .zero) <|
  .default "mem" .double (.double .zero) <|
  .default "disk" .double (.double .zero) <|
  .default "instances" (.natural .w32) (.natural 0) <|
  .maybe "container" Container.shape <|
  .sparse "portDefinitions" (.list PortDefinition.shape) (.list []) <|
  .default "requirePorts" .bool (.bool false) <|
  .sparse "labels" .labels (.labels .empty) <|
  .sparse "healthChecks" (.list HealthCheck.shape) (.list []) <|
  .sparse "readinessChecks" (.list ReadinessCheck.shape) (.list []) <|
  .maybe "version" .text .nil

def App.shape : Shape := .record "AppDefinition" App.row

def App.toDatum (a : App) : Datum :=
  .record [.text a.id, .ofOption .text a.cmd, .double a.cpus, .double a.mem, .double a.disk,
    .natural a.instances.toUInt64, .ofOption Container.toDatum a.container,
    .ofList PortDefinition.toDatum a.portDefinitions, .bool a.requirePorts, .labels a.labels,
    .ofList HealthCheck.toDatum a.healthChecks, .ofList ReadinessCheck.toDatum a.readinessChecks,
    .ofOption .text a.version]

def App.ofDatum : Datum → App
  | .record [id, cmd, cpus, mem, disk, instances, container, ports, requirePorts, labels,
      healthChecks, readinessChecks, version] =>
    ⟨id.asText, cmd.asOption Datum.asText, cpus.asDouble, mem.asDouble, disk.asDouble,
      instances.asNatural.toUInt32, container.asOption Container.ofDatum,
      ports.asList PortDefinition.ofDatum, requirePorts.asBool, labels.asLabels,
      healthChecks.asList HealthCheck.ofDatum, readinessChecks.asList ReadinessCheck.ofDatum,
      version.asOption Datum.asText⟩
  | _ => default

/-- The id without its leading slashes, as request paths have it. -/
def pathId (id : String) : String := Text.trimStart '/' id

def App.pathId (a : App) : String := Wire.pathId a.id

def App.label? (a : App) (key : String) : Option String := a.labels.get? key

/-- A deployment that a change to an app has started. -/
structure DeploymentRef where
  id : String
  deriving DecidableEq, Inhabited

def DeploymentRef.shape : Shape := .record "DeploymentRef" <| .required "id" .text .nil

def DeploymentRef.toDatum (d : DeploymentRef) : Datum := .record [.text d.id]

def DeploymentRef.ofDatum : Datum → DeploymentRef
  | .record [id] => ⟨id.asText⟩
  | _ => default

/-- The answer to a submission: the app as stored and the deployments started for it. -/
structure AppCreated where
  app : App
  deployments : List DeploymentRef
  deriving DecidableEq, Inhabited

def AppCreated.row : Row :=
  .default "deployments" (.list DeploymentRef.shape) (.list []) .nil

def AppCreated.shape : Shape :=
  .flattened "AppCreateResponse" "AppDefinition" App.row AppCreated.row

def AppCreated.toDatum (a : AppCreated) : Datum :=
  .record [a.app.toDatum, .ofList DeploymentRef.toDatum a.deployments]

def AppCreated.ofDatum : Datum → AppCreated
  | .record [app, deployments] => ⟨App.ofDatum app, deployments.asList DeploymentRef.ofDatum⟩
  | _ => default

structure AppListing where
  apps : List App
  deriving DecidableEq, Inhabited

def AppListing.shape : Shape :=
  .record "AppListResponse" <| .required "apps" (.list App.shape) .nil

def AppListing.toDatum (l : AppListing) : Datum := .record [.ofList App.toDatum l.apps]

def AppListing.ofDatum : Datum → AppListing
  | .record [apps] => ⟨apps.asList App.ofDatum⟩
  | _ => default

instance : Wire Docker := ⟨Docker.shape, Docker.toDatum, Docker.ofDatum⟩
instance : Wire Container := ⟨Container.shape, Container.toDatum, Container.ofDatum⟩
instance : Wire PortDefinition :=
  ⟨PortDefinition.shape, PortDefinition.toDatum, PortDefinition.ofDatum⟩
instance : Wire HealthCheck := ⟨HealthCheck.shape, HealthCheck.toDatum, HealthCheck.ofDatum⟩
instance : Wire ReadinessCheck :=
  ⟨ReadinessCheck.shape, ReadinessCheck.toDatum, ReadinessCheck.ofDatum⟩
instance : Wire App := ⟨App.shape, App.toDatum, App.ofDatum⟩
instance : Wire DeploymentRef :=
  ⟨DeploymentRef.shape, DeploymentRef.toDatum, DeploymentRef.ofDatum⟩
instance : Wire AppCreated := ⟨AppCreated.shape, AppCreated.toDatum, AppCreated.ofDatum⟩
instance : Wire AppListing := ⟨AppListing.shape, AppListing.toDatum, AppListing.ofDatum⟩

end Rollout.Wire
