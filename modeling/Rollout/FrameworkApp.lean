import Rollout.Fault
import Rollout.Wire.App
/-!
# The framework app

A small HTTP server that looks like a framework to the cluster, with one readiness check on the
path it serves, and the changes that scenarios make to that check.
-/

namespace Rollout.FrameworkApp

open Wire Json Decimal

/-- Name of the framework that the app publishes. -/
def name : String := "pyfw"

def appId : String := "/python-http"

/-- Served by the app, and asked for by its readiness check. -/
def readinessPath : String := "/v1/plan"

def readinessIntervalSeconds : UInt32 := 10

def labels : Dict String :=
  .ofList [("DCOS_PACKAGE_FRAMEWORK_NAME", name), ("DCOS_SERVICE_NAME", name),
    ("DCOS_SERVICE_PORT_INDEX", "0"), ("DCOS_SERVICE_SCHEME", "http"),
    ("DCOS_MIGRATION_API_PATH", readinessPath), ("DCOS_MIGRATION_API_VERSION", "v1")]

def command : String :=
  "mkdir -p v1 && echo '\x7b\"phases\": []\x7d' > v1/plan && python3 -m http.server $PORT0"

def app : App :=
  { id := appId
    cmd := some command
    cpus := .ofRatio false 1 10
    mem := .ofNat 64
    disk := .zero
    instances := 1
    container := some ⟨"MESOS", some ⟨"python:3.6-alpine", false⟩⟩
    portDefinitions := [⟨0, "tcp", some "api"⟩]
    requirePorts := false
    labels := labels
    healthChecks := [⟨"MESOS_HTTP", some "/", 0, 30, 10, 5, 3⟩]
    readinessChecks :=
      [⟨"readiness", "HTTP", readinessPath, "api", readinessIntervalSeconds, 5, [200], true⟩]
    version := none }

/-- Changes the first readiness check, if there is one. -/
def changeFirstCheck (a : App) (change : ReadinessCheck → ReadinessCheck) : Except Fault App :=
  match a.readinessChecks with
  | [] => .error (.config ("app " ++ a.id ++ " has no readiness check"))
  | check :: rest => .ok { a with readinessChecks := change check :: rest }

/-- Sets the interval of the first readiness check. A check has to end before the next begins, so
its time out is lowered where needed and no interval is below two seconds. -/
def setReadinessInterval (a : App) (seconds : UInt32) : Except Fault App :=
  if seconds < 2 then
    .error (.config ("readiness interval must be at least 2 seconds, got " ++ toString seconds))
  else
    changeFirstCheck a fun check =>
      { check with
        intervalSeconds := seconds
        timeoutSeconds := min check.timeoutSeconds (seconds - 1) }

/-- Points the first readiness check at another path. -/
def setReadinessPath (a : App) (path : String) : Except Fault App :=
  changeFirstCheck a fun check => { check with path }

end Rollout.FrameworkApp
