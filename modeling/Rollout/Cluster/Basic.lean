import Rollout.Orchestrator.Remote
import Rollout.Settings
import Rollout.Watch
/-!
# Clusters

A cluster with its orchestrators and services, as the settings describe it: clients for its parts,
and what the platform says about itself.
-/

namespace Rollout

open Http Wire Time

structure Cluster (σ : Type) where
  http : Client σ
  nestedServiceName : String
  pollInterval : Span
  deploymentWaitTimeout : Span
  serviceEndpointTimeout : Span

/-- What is told about a cluster before a run. -/
structure ClusterInfo where
  url : String
  platformVersion : Option String
  orchestrator : OrchestratorInfo
  deriving DecidableEq

def ClusterInfo.shape : Json.Shape :=
  .record "ClusterInfo" <|
    .required "cluster_url" .text <|
    .default "dcos_version" (.optional .text) .absent <|
    .required "marathon" OrchestratorInfo.shape .nil

def ClusterInfo.toDatum (i : ClusterInfo) : Json.Datum :=
  .record [.text i.url, .ofOption .text i.platformVersion, i.orchestrator.toDatum]

def ClusterInfo.ofDatum : Json.Datum → ClusterInfo
  | .record [url, version, orchestrator] =>
    ⟨url.asText, version.asOption Json.Datum.asText, OrchestratorInfo.ofDatum orchestrator⟩
  | _ => ⟨"", none, default⟩

instance : Json.Wire ClusterInfo :=
  ⟨ClusterInfo.shape, ClusterInfo.toDatum, ClusterInfo.ofDatum⟩

namespace Cluster

variable {σ : Type}

/-- The cluster of some settings, reached through a server. -/
def ofSettings (server : Server σ) (s : Settings) : Except Fault (Cluster σ) := do
  s.validate
  let base ← s.clusterBase
  checkToken s.authToken
  return {
    http := ⟨server, base, s.authToken, s.requestTimeout⟩
    nestedServiceName := s.nestedServiceName
    pollInterval := s.pollInterval
    deploymentWaitTimeout := s.deploymentWaitTimeout
    serviceEndpointTimeout := s.serviceEndpointTimeout }

def url (c : Cluster σ) : String := c.http.base.text

def nestedContext (c : Cluster σ) : Context := .nested c.nestedServiceName

/-- The orchestrator of a context. -/
def remote (c : Cluster σ) (context : Context) : Except Fault (Remote σ) := do
  let base ← c.http.url context.basePath
  return ⟨c.http.rebased base, context⟩

theorem remote_eq_ok_iff {c : Cluster σ} {context : Context} {r : Remote σ} :
    c.remote context = .ok r ↔
      ∃ base, c.http.url context.basePath = .ok base ∧
        r = ⟨c.http.rebased base, context⟩ := by
  unfold remote
  cases c.http.url context.basePath with
  | ok base =>
    refine ⟨fun h => ⟨base, rfl, (Except.ok.inj h).symm⟩, ?_⟩
    rintro ⟨_, ⟨⟩, rfl⟩
    rfl
  | error fault =>
    refine ⟨nofun, ?_⟩
    rintro ⟨_, ⟨⟩, -⟩

theorem remote_of_url {c : Cluster σ} {context : Context} {base : Url}
    (h : c.http.url context.basePath = .ok base) :
    c.remote context = .ok ⟨c.http.rebased base, context⟩ :=
  remote_eq_ok_iff.mpr ⟨base, h, rfl⟩

def root (c : Cluster σ) : Except Fault (Remote σ) := c.remote .root

def nested (c : Cluster σ) : Except Fault (Remote σ) := c.remote c.nestedContext

/-- Does something with the nested orchestrator. -/
def withNested {α : Type} (c : Cluster σ) (block : Remote σ → Run (Net σ) Fault α) :
    Run (Net σ) Fault α := do
  block (← .ofExcept c.nested)

/-- Watches the deployments of an orchestrator. -/
def watch (c : Cluster σ) (r : Remote σ) : Watch (Net σ) :=
  ⟨r.toOrchestrator, ⟨c.deploymentWaitTimeout, c.pollInterval⟩⟩

def patience (c : Cluster σ) (timeout : Span) : Patience := ⟨timeout, c.pollInterval⟩

/-! ## Platform services -/

/-- Frameworks registered with the resource manager. -/
def frameworks (c : Cluster σ) : Run (Net σ) Fault (List Framework) := do
  let listing : FrameworkListing ← c.http.get "mesos/master/frameworks"
  return listing.frameworks

def platformVersion (c : Cluster σ) : Run (Net σ) Fault PlatformVersion :=
  c.http.get "dcos-metadata/dcos-version.json"

def installPackage (c : Cluster σ) (request : PackageRequest) :
    Run (Net σ) Fault PackageInstalled :=
  c.http.post "package/install" request

/-- What the status of a service endpoint says: it answers, or it is not (yet) reachable. Any other
status says neither. -/
def endpointStatus (name : String) (status : Status) : Except Fault Bool :=
  if isSuccess status then .ok true
  else if status = 404 ∨ status = 502 ∨ status = 503 then .ok false
  else .error (.unexpectedStatus status ("probing service endpoint " ++ name))

/-- Whether the service of a name answers. -/
def endpointExists (c : Cluster σ) (name : String) : Run (Net σ) Fault Bool := do
  let status ← c.http.probe ("service/" ++ name ++ "/")
  .ofExcept (endpointStatus name status)

/-- Whether an active framework of a name is registered. -/
def serviceAvailable (c : Cluster σ) (name : String) : Run (Net σ) Fault Bool := do
  return (← c.frameworks).any fun f => f.name == name && f.active

/-- Versions of the platform and of its own orchestrator. -/
def info (c : Cluster σ) : Run (Net σ) Fault ClusterInfo := do
  let version ← match ← c.platformVersion.attempt with
    | .ok v => pure (some v.version)
    | .error fault => if fault.isNotFound then pure none else .fail fault
  let orchestrator ← (← .ofExcept c.root).info
  return ⟨c.url, version, orchestrator⟩

end Cluster

end Rollout
