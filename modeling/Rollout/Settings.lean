import Rollout.Time.Span
import Rollout.Url.Parse
import Rollout.LogLevel
/-!
# Settings

What a run needs to know: the cluster, how to sign in to it, and how long to wait for what. Every
setting has a default; the environment goes before the file.
-/

namespace Rollout

open Json (Shape Row Datum)

structure Settings where
  clusterUrl : String
  /-- Never empty. -/
  authToken : Option String
  logLevel : LogLevel
  jsonLogs : Bool
  /-- Service name of the nested orchestrator. -/
  nestedServiceName : String
  requestTimeoutSecs : UInt64
  deploymentWaitTimeoutSecs : UInt64
  serviceEndpointTimeoutSecs : UInt64
  pollIntervalMs : UInt64
  /-- Length of a unit of scenario time; a second on a real cluster. -/
  timeUnitMs : UInt64
  deriving DecidableEq, Repr

namespace Settings

/-- All settings at their defaults. -/
def usual : Settings :=
  { clusterUrl := "http://localhost"
    authToken := none
    logLevel := .info
    jsonLogs := false
    nestedServiceName := "marathon-user"
    requestTimeoutSecs := 30
    deploymentWaitTimeoutSecs := 120
    serviceEndpointTimeoutSecs := 120
    pollIntervalMs := 1000
    timeUnitMs := 1000 }

def shape : Shape :=
  let number := Shape.natural .w64
  .record "Settings" <|
    .default "cluster_url" .text (.text usual.clusterUrl) <|
    .default "auth_token" (.optional .text) .absent <|
    .default "log_level" LogLevel.shape (LogLevel.toDatum usual.logLevel) <|
    .default "json_logs" .bool (.bool usual.jsonLogs) <|
    .default "mom_service_name" .text (.text usual.nestedServiceName) <|
    .default "request_timeout_secs" number (.natural usual.requestTimeoutSecs) <|
    .default "deployment_wait_timeout_secs" number (.natural usual.deploymentWaitTimeoutSecs) <|
    .default "service_endpoint_timeout_secs" number (.natural usual.serviceEndpointTimeoutSecs) <|
    .default "poll_interval_ms" number (.natural usual.pollIntervalMs) <|
    .default "time_unit_ms" number (.natural usual.timeUnitMs) .nil

def toDatum (s : Settings) : Datum :=
  .record [.text s.clusterUrl, .ofOption .text s.authToken, s.logLevel.toDatum, .bool s.jsonLogs,
    .text s.nestedServiceName, .natural s.requestTimeoutSecs,
    .natural s.deploymentWaitTimeoutSecs, .natural s.serviceEndpointTimeoutSecs,
    .natural s.pollIntervalMs, .natural s.timeUnitMs]

/-- An empty token is no token. -/
def nonEmpty (token : String) : Option String := if token.isEmpty then none else some token

def ofDatum : Datum → Settings
  | .record [url, token, level, jsonLogs, nested, request, deployment, endpoint, poll, unit] =>
    { clusterUrl := url.asText
      authToken := (token.asOption Datum.asText).bind nonEmpty
      logLevel := LogLevel.ofDatum level
      jsonLogs := jsonLogs.asBool
      nestedServiceName := nested.asText
      requestTimeoutSecs := request.asNatural
      deploymentWaitTimeoutSecs := deployment.asNatural
      serviceEndpointTimeoutSecs := endpoint.asNatural
      pollIntervalMs := poll.asNatural
      timeUnitMs := unit.asNatural }
  | _ => usual

instance : Json.Wire Settings := ⟨shape, toDatum, ofDatum⟩

def forCluster (url : String) : Settings := { usual with clusterUrl := url }

def ofText (text : String) : Except Fault Settings :=
  match (Json.decode text : Except Json.Fault Settings) with
  | .ok s => .ok s
  | .error fault => .error (.json fault)

/-- What reading a file can give. -/
inductive Source where
  | missing
  | directory
  /-- A path that leads through something that is no directory. -/
  | underFile
  | forbidden
  | bytes (contents : List UInt8)

def load : Source → Except Fault Settings
  | .missing => .error (.io "No such file or directory (os error 2)")
  | .directory => .error (.io "Is a directory (os error 21)")
  | .underFile => .error (.io "Not a directory (os error 20)")
  | .forbidden => .error (.io "Permission denied (os error 13)")
  | .bytes contents =>
    match Text.ofBytes? contents with
    | some text => ofText text
    | none => .error (.io "stream did not contain valid UTF-8")

/-- The environment of a run: the value of a variable, if it is set. -/
abbrev Environment := String → Option String

/-- The variables that are looked up. -/
def variableNames : List String := ["DCOS_URL", "DCOS_ACS_TOKEN", "HARNESS_LOG_LEVEL"]

def withEnvironment (s : Settings) (env : Environment) : Except Fault Settings := do
  let s := match env "DCOS_URL" with
    | some url => { s with clusterUrl := url }
    | none => s
  let s := match (env "DCOS_ACS_TOKEN").bind nonEmpty with
    | some token => { s with authToken := some token }
    | none => s
  match env "HARNESS_LOG_LEVEL" with
  | some level => return { s with logLevel := ← LogLevel.parse level }
  | none => return s

/-- The URL of the cluster; what is written gets a slash at its end before it is read. -/
def clusterBase (s : Settings) : Except Fault Url :=
  let trimmed := Text.trim s.clusterUrl
  if trimmed.isEmpty then .error (.config "cluster_url is empty")
  else
    match Url.parse (Text.trimEnd '/' trimmed ++ "/") with
    | .ok url => .ok url
    | .error fault => .error (.url fault)

/-- Whether the settings can be used. -/
def validate (s : Settings) : Except Fault Unit := do
  let url ← s.clusterBase
  if url.scheme ≠ "http" ∧ url.scheme ≠ "https" then
    .error (.config ("cluster_url must be http(s), got " ++ s.clusterUrl))
  else if s.pollIntervalMs = 0 ∨ s.timeUnitMs = 0 then
    .error (.config "poll_interval_ms and time_unit_ms must be positive")
  else return ()

open Time

def requestTimeout (s : Settings) : Span := .ofSecs s.requestTimeoutSecs

def deploymentWaitTimeout (s : Settings) : Span := .ofSecs s.deploymentWaitTimeoutSecs

def serviceEndpointTimeout (s : Settings) : Span := .ofSecs s.serviceEndpointTimeoutSecs

def pollInterval (s : Settings) : Span := .ofMillis s.pollIntervalMs

def timeUnit (s : Settings) : Span := .ofMillis s.timeUnitMs

end Settings

end Rollout
