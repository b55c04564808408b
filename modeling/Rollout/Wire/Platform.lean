import Rollout.Json.Wire
/-!
# The platform around the orchestrators

Registrations of frameworks, package installation, version information, and the bodies of error
answers.
-/

namespace Rollout.Wire

open Json

/-- A framework registered with the resource manager. -/
structure Framework where
  id : String
  name : String
  active : Bool
  webuiUrl : Option String
  deriving DecidableEq, Inhabited

def Framework.shape : Shape :=
  .record "Framework" <|
    .required "id" .text <|
    .required "name" .text <|
    .required "active" .bool <|
    .maybe "webui_url" .text .nil

def Framework.toDatum (f : Framework) : Datum :=
  .record [.text f.id, .text f.name, .bool f.active, .ofOption .text f.webuiUrl]

def Framework.ofDatum : Datum → Framework
  | .record [id, name, active, url] =>
    ⟨id.asText, name.asText, active.asBool, url.asOption Datum.asText⟩
  | _ => default

structure FrameworkListing where
  frameworks : List Framework
  deriving DecidableEq, Inhabited

def FrameworkListing.shape : Shape :=
  .record "FrameworksResponse" <|
    .default "frameworks" (.list Framework.shape) (.list []) .nil

def FrameworkListing.toDatum (l : FrameworkListing) : Datum :=
  .record [.ofList Framework.toDatum l.frameworks]

def FrameworkListing.ofDatum : Datum → FrameworkListing
  | .record [frameworks] => ⟨frameworks.asList Framework.ofDatum⟩
  | _ => default

structure PackageRequest where
  packageName : String
  packageVersion : Option String
  options : Value
  deriving Inhabited

def PackageRequest.shape : Shape :=
  .record "PackageInstallRequest" <|
    .required "packageName" .text <|
    .maybe "packageVersion" .text <|
    .default "options" .any (.any .null) .nil

def PackageRequest.toDatum (r : PackageRequest) : Datum :=
  .record [.text r.packageName, .ofOption .text r.packageVersion, .any r.options]

def PackageRequest.ofDatum : Datum → PackageRequest
  | .record [name, version, options] =>
    ⟨name.asText, version.asOption Datum.asText, options.asValue⟩
  | _ => default

structure PackageInstalled where
  packageName : String
  packageVersion : String
  appId : Option String
  deriving DecidableEq, Inhabited

def PackageInstalled.shape : Shape :=
  .record "PackageInstallResponse" <|
    .required "packageName" .text <|
    .required "packageVersion" .text <|
    .maybe "appId" .text .nil

def PackageInstalled.toDatum (p : PackageInstalled) : Datum :=
  .record [.text p.packageName, .text p.packageVersion, .ofOption .text p.appId]

def PackageInstalled.ofDatum : Datum → PackageInstalled
  | .record [name, version, appId] =>
    ⟨name.asText, version.asText, appId.asOption Datum.asText⟩
  | _ => default

/-- Version of the platform. -/
structure PlatformVersion where
  version : String
  imageCommit : Option String
  bootstrapId : Option String
  deriving DecidableEq, Inhabited

def PlatformVersion.shape : Shape :=
  .record "DcosVersion" <|
    .required "version" .text <|
    .default "dcos-image-commit" (.optional .text) .absent <|
    .default "bootstrap-id" (.optional .text) .absent .nil

def PlatformVersion.toDatum (v : PlatformVersion) : Datum :=
  .record [.text v.version, .ofOption .text v.imageCommit, .ofOption .text v.bootstrapId]

def PlatformVersion.ofDatum : Datum → PlatformVersion
  | .record [version, commit, bootstrap] =>
    ⟨version.asText, commit.asOption Datum.asText, bootstrap.asOption Datum.asText⟩
  | _ => default

/-- What an orchestrator says about itself. -/
structure OrchestratorInfo where
  name : String
  version : String
  frameworkId : Option String
  leader : Option String
  deriving DecidableEq, Inhabited

def OrchestratorInfo.shape : Shape :=
  .record "MarathonInfo" <|
    .required "name" .text <|
    .required "version" .text <|
    .maybe "frameworkId" .text <|
    .maybe "leader" .text .nil

def OrchestratorInfo.toDatum (i : OrchestratorInfo) : Datum :=
  .record [.text i.name, .text i.version, .ofOption .text i.frameworkId, .ofOption .text i.leader]

def OrchestratorInfo.ofDatum : Datum → OrchestratorInfo
  | .record [name, version, frameworkId, leader] =>
    ⟨name.asText, version.asText, frameworkId.asOption Datum.asText,
      leader.asOption Datum.asText⟩
  | _ => default

/-- The body of an answer that reports an error. -/
structure ErrorBody where
  message : String
  details : Option Value
  deriving Inhabited

def ErrorBody.shape : Shape :=
  .record "ErrorResponse" <|
    .required "message" .text <|
    .maybe "details" .any .nil

def ErrorBody.toDatum (e : ErrorBody) : Datum :=
  .record [.text e.message, .ofOption .any e.details]

def ErrorBody.ofDatum : Datum → ErrorBody
  | .record [message, details] => ⟨message.asText, details.asOption Datum.asValue⟩
  | _ => default

/-- Version of this program and of the build it comes from. -/
structure BuildInfo where
  version : String
  gitHash : String
  buildTime : String
  deriving DecidableEq, Inhabited

def BuildInfo.shape : Shape :=
  .record "VersionInfo" <|
    .required "version" .text <|
    .required "git_hash" .text <|
    .required "build_time" .text .nil

def BuildInfo.toDatum (b : BuildInfo) : Datum :=
  .record [.text b.version, .text b.gitHash, .text b.buildTime]

def BuildInfo.ofDatum : Datum → BuildInfo
  | .record [version, gitHash, buildTime] => ⟨version.asText, gitHash.asText, buildTime.asText⟩
  | _ => default

instance : Wire Framework := ⟨Framework.shape, Framework.toDatum, Framework.ofDatum⟩
instance : Wire FrameworkListing :=
  ⟨FrameworkListing.shape, FrameworkListing.toDatum, FrameworkListing.ofDatum⟩
instance : Wire PackageRequest :=
  ⟨PackageRequest.shape, PackageRequest.toDatum, PackageRequest.ofDatum⟩
instance : Wire PackageInstalled :=
  ⟨PackageInstalled.shape, PackageInstalled.toDatum, PackageInstalled.ofDatum⟩
instance : Wire PlatformVersion :=
  ⟨PlatformVersion.shape, PlatformVersion.toDatum, PlatformVersion.ofDatum⟩
instance : Wire OrchestratorInfo :=
  ⟨OrchestratorInfo.shape, OrchestratorInfo.toDatum, OrchestratorInfo.ofDatum⟩
instance : Wire ErrorBody := ⟨ErrorBody.shape, ErrorBody.toDatum, ErrorBody.ofDatum⟩
instance : Wire BuildInfo := ⟨BuildInfo.shape, BuildInfo.toDatum, BuildInfo.ofDatum⟩

end Rollout.Wire
