import Rollout.Cluster.Upkeep
import Rollout.FrameworkApp
import Rollout.Run.Cleanup
import Rollout.Scenario.Timings
/-!
# Scenarios

What the cluster's own orchestrator publishes and a nested one does not, and when a readiness check
lets a deployment complete. Also what precedes all scenarios and what follows each of them.
-/

namespace Rollout

namespace Scenario

open Http Wire

variable {σ : Type}

/-- Readiness interval of the timing scenario, in units. -/
def readinessInterval : UInt32 := 30

/-- A point before the first readiness check is made. -/
def beforeFirstCheck : UInt32 := 20

/-- From there to a point past the interval and some margin. -/
def pastFirstCheck : UInt32 := 12

/-- How long a check that cannot succeed is watched. -/
def stuckWait : UInt32 := 60

/-- How long a nested app must not publish an endpoint. -/
def nestedWindow : UInt32 := 15

/-- Fails with an assertion unless a condition holds. -/
def require (condition : Bool) (text : String) : Run σ Fault Unit :=
  if condition then pure () else .fail (.assertion text)

/-- What precedes all scenarios. -/
def setUp (c : Cluster σ) : Run (Net σ) Fault Unit := do
  c.ensureNested
  let _ ← c.info

def removeFrameworkApp (c : Cluster σ) : Run (Net σ) Fault Unit := do
  c.removeAppWait (← .ofExcept c.root) FrameworkApp.appId

/-- What follows each scenario: the framework app leaves both orchestrators. -/
def tearDown (c : Cluster σ) : Run (Net σ) Fault Unit :=
  .both (removeFrameworkApp c) (c.withNested c.deleteAllAppsWait)

/-- What follows scenarios that leave a deployment stuck. -/
def stopLeftovers (c : Cluster σ) : Run (Net σ) Fault Unit := do
  c.stopAllDeployments (← .ofExcept c.root)

/-- An app of the nested orchestrator gets no service endpoint. -/
def frameworkUnavailableOnNested (c : Cluster σ) (t : Timings) : Run (Net σ) Fault Unit := do
  if ← c.serviceAvailable FrameworkApp.name then
    removeFrameworkApp c
    let removed ← c.waitForEndpointRemoval FrameworkApp.name c.serviceEndpointTimeout
    require removed ("service endpoint " ++ FrameworkApp.name ++ " was not removed")
  c.withNested fun nested => do
    c.deleteAllAppsWait nested
    let _ ← nested.addApp FrameworkApp.app
    c.deploymentWait nested
  let window ← t.units nestedWindow
  let appeared ← c.waitForEndpoint FrameworkApp.name window
  require (!appeared) "MoM should not create a service endpoint"

/-- The cluster's own orchestrator publishes an endpoint for the framework app. -/
def deployFramework (c : Cluster σ) : Run (Net σ) Fault Unit := do
  let root ← .ofExcept c.root
  let _ ← root.addApp FrameworkApp.app
  c.deploymentWait root
  let appeared ← c.waitForEndpoint FrameworkApp.name c.serviceEndpointTimeout
  require appeared ("service endpoint " ++ FrameworkApp.name ++ " never appeared")

/-- No readiness result is positive before the first interval is over, and soon after it the
deployment is gone. -/
def readinessTimeCheck (c : Cluster σ) (t : Timings) : Run (Net σ) Fault Unit := do
  let w := c.watch (← .ofExcept c.root)
  let app ← .ofExcept (FrameworkApp.setReadinessInterval FrameworkApp.app readinessInterval)
  Run.startingWith Ledger.empty do
    let handle ← w.submitApp app
    t.sleep beforeFirstCheck
    w.assertReadiness handle false
    t.sleep pastFirstCheck
    w.assertAbsent handle

/-- A readiness check on a path that is not served keeps its deployment from completing. -/
def readinessTestTimeout (c : Cluster σ) (t : Timings) : Run (Net σ) Fault Unit := do
  let w := c.watch (← .ofExcept c.root)
  let app ← .ofExcept (FrameworkApp.setReadinessPath FrameworkApp.app "/bad-path")
  Run.startingWith Ledger.empty do
    let handle ← w.submitApp app
    t.sleep stuckWait
    let snapshot ← w.observe handle
    require snapshot.isSome
      ("deployment " ++ handle.text ++ " finished despite a failing readiness check")
    w.assertReadiness handle false

end Scenario

/-- A named scenario. -/
structure Scenario (σ : Type) where
  name : String
  description : String
  /-- Leftover deployments are cancelled before the usual cleanup. -/
  stopsDeployments : Bool
  body : Cluster σ → Timings → Run (Http.Net σ) Fault Unit

namespace Scenario

variable {σ : Type}

/-- Every scenario, in the order in which they run. -/
def all : List (Scenario σ) :=
  [ { name := "framework_unavailable_on_mom"
      description := "Marathon-on-Marathon does not publish framework endpoints"
      stopsDeployments := false
      body := frameworkUnavailableOnNested },
    { name := "deploy_custom_framework"
      description := "Root Marathon publishes the fake framework endpoint"
      stopsDeployments := false
      body := fun c _ => deployFramework c },
    { name := "readiness_time_check"
      description := "Readiness is not reported before the first interval"
      stopsDeployments := false
      body := readinessTimeCheck },
    { name := "readiness_test_timeout"
      description := "A readiness check on a bad path blocks the deployment"
      stopsDeployments := true
      body := readinessTestTimeout } ]

def named (name : String) : Except Fault (Scenario σ) :=
  match all.find? (·.name == name) with
  | some s => .ok s
  | none => .error (.config ("Unknown scenario: " ++ name))

/-- The scenarios of some names; all of them if no name is given. -/
def select (names : List String) : Except Fault (List (Scenario σ)) :=
  if names.isEmpty then .ok all else names.mapM named

end Scenario

end Rollout
