import Rollout.Proofs.Cluster.Origin
import Rollout.Proofs.Scenario.Choice
import Rollout.Proofs.Scenario.Progress
/-!
# Errands

Everything that can be asked of a cluster, as data: its own calls, those of the orchestrators of any
context, whatever is asked of a watch, and scenarios. Names and ids are any texts at all, and the
server answers as it likes. None of it ever asks for anything on another server.
-/

namespace Rollout

open Http Time Wire

variable {σ : Type}

/-- What the API of an orchestrator is asked for. -/
inductive Remote.Order where
  | info
  | listApps
  | listDeployments
  | stopDeployment (id : String)
  | addApp (app : App)
  | removeApp (id : String) (force : Bool)
  | getDeployment (id : String)

/-- What an order does; its value is dropped. -/
def Remote.Order.run (r : Remote σ) : Order → Run (Net σ) Fault Unit
  | info => do let _ ← r.info
  | listApps => do let _ ← r.listApps
  | listDeployments => do let _ ← r.listDeployments
  | stopDeployment id => r.stopDeployment id
  | addApp app => do let _ ← r.addApp app
  | removeApp id force => do let _ ← r.removeApp id force
  | getDeployment id => do let _ ← r.getDeployment id

namespace Cluster

/-- What a cluster is asked for, of itself or with one of its orchestrators. -/
inductive Errand where
  | frameworks
  | platformVersion
  | installPackage (request : PackageRequest)
  | endpointExists (name : String)
  | serviceAvailable (name : String)
  | info
  | ensureNested
  | waitForEndpoint (name : String) (timeout : Span)
  | waitForEndpointRemoval (name : String) (timeout : Span)
  | order (context : Context) (what : Remote.Order)
  | deploymentWaitFor (context : Context) (timeout : Span)
  | deleteAllAppsWait (context : Context)
  | removeAppWait (context : Context) (appId : String)
  | stopAllDeployments (context : Context)
  /-- Operations of a new watch. -/
  | watch (context : Context) (ops : List Watch.Operation)
  | setUp
  | tearDown
  /-- A scenario with its cleanup. -/
  | scenario (name : String)
  /-- The set-up and some scenarios, or all of them if no name is given. -/
  | runAll (names : List String)

/-- What an errand does; its value is dropped. -/
def Errand.run (c : Cluster σ) (t : Timings) : Errand → Run (Net σ) Fault Unit
  | frameworks => do let _ ← c.frameworks
  | platformVersion => do let _ ← c.platformVersion
  | installPackage request => do let _ ← c.installPackage request
  | endpointExists name => do let _ ← c.endpointExists name
  | serviceAvailable name => do let _ ← c.serviceAvailable name
  | info => do let _ ← c.info
  | ensureNested => c.ensureNested
  | waitForEndpoint name timeout => do let _ ← c.waitForEndpoint name timeout
  | waitForEndpointRemoval name timeout => do let _ ← c.waitForEndpointRemoval name timeout
  | order context what => do what.run (← .ofExcept (c.remote context))
  | deploymentWaitFor context timeout => do
    c.deploymentWaitFor (← .ofExcept (c.remote context)) timeout
  | deleteAllAppsWait context => do c.deleteAllAppsWait (← .ofExcept (c.remote context))
  | removeAppWait context appId => do c.removeAppWait (← .ofExcept (c.remote context)) appId
  | stopAllDeployments context => do c.stopAllDeployments (← .ofExcept (c.remote context))
  | watch context ops => do
    let r ← .ofExcept (c.remote context)
    Run.startingWith Ledger.empty ((c.watch r).perform ops)
  | setUp => Scenario.setUp c
  | tearDown => Scenario.tearDown c
  | scenario name => do
    let s ← .ofExcept (Scenario.named name)
    let _ ← s.run c t
  | runAll names => do
    let scenarios ← .ofExcept (Scenario.select names)
    let _ ← Scenario.runAll scenarios c t

/-- Errands in order, whatever each of them comes to. -/
def perform (c : Cluster σ) (t : Timings) (errands : List Errand) : Run (Net σ) Fault Unit :=
  .forEach errands fun e => do
    let _ ← (e.run c t).attempt

section

variable {P : Progress (Net σ)}

theorem follows_order {r : Remote σ} (hr : r.http.Keeps P) (order : Remote.Order) :
    Run.Follows P (order.run r) := by
  cases order with
  | info => exact .bind (Remote.follows_info hr) fun _ => .pure _
  | listApps => exact .bind (Remote.follows_listApps hr) fun _ => .pure _
  | listDeployments => exact .bind (Remote.follows_listDeployments hr) fun _ => .pure _
  | stopDeployment id => exact Remote.follows_stopDeployment hr id
  | addApp app => exact .bind (Remote.follows_addApp hr app) fun _ => .pure _
  | removeApp id force => exact .bind (Remote.follows_removeApp hr id force) fun _ => .pure _
  | getDeployment id => exact .bind (Remote.follows_getDeployment hr id) fun _ => .pure _

variable {c : Cluster σ} (hc : c.Keeps P) (t : Timings)
include hc

theorem follows_errand (errand : Errand) : Run.Follows P (errand.run c t) := by
  cases errand with
  | frameworks => exact .bind (follows_frameworks hc) fun _ => .pure _
  | platformVersion => exact .bind (follows_platformVersion hc) fun _ => .pure _
  | installPackage request => exact .bind (follows_installPackage hc request) fun _ => .pure _
  | endpointExists name => exact .bind (follows_endpointExists hc name) fun _ => .pure _
  | serviceAvailable name => exact .bind (follows_serviceAvailable hc name) fun _ => .pure _
  | info => exact .bind (follows_info hc) fun _ => .pure _
  | ensureNested => exact follows_ensureNested hc
  | waitForEndpoint name timeout =>
      exact .bind (follows_waitForEndpoint hc name timeout) fun _ => .pure _
  | waitForEndpointRemoval name timeout =>
      exact .bind (follows_waitForEndpointRemoval hc name timeout) fun _ => .pure _
  | order context what => exact follows_remote hc context fun _ hr => follows_order hr what
  | deploymentWaitFor context timeout =>
      exact follows_remote hc context fun _ hr => follows_deploymentWaitFor hr c timeout
  | deleteAllAppsWait context =>
      exact follows_remote hc context fun _ hr => follows_deleteAllAppsWait hr c
  | removeAppWait context appId =>
      exact follows_remote hc context fun _ hr => follows_removeAppWait hr c appId
  | stopAllDeployments context =>
      exact follows_remote hc context fun _ hr => follows_stopAllDeployments hr c
  | watch context ops =>
      refine follows_remote hc context fun _ hr => ?_
      exact (Watch.follows_perform (follows_watch hr c) ops).startingWith Ledger.empty
  | setUp => exact Scenario.follows_setUp hc
  | tearDown => exact Scenario.follows_tearDown hc
  | scenario name =>
      refine .ofExcept_bind fun s hs => ?_
      exact .bind (Scenario.follows_run hc t (Scenario.mem_all_of_named hs)) fun _ => .pure _
  | runAll names =>
      refine .ofExcept_bind fun scenarios hscenarios => ?_
      have hall := (Scenario.select_eq_ok_iff.mp hscenarios).mem_all
      exact .bind (Scenario.follows_runAll hc t hall) fun _ => .pure _

theorem follows_perform (errands : List Errand) : Run.Follows P (c.perform t errands) :=
  .forEach (fun errand => .bind (follows_errand hc t errand).attempt fun _ => .pure _) errands

end

/-- Settings with a token and a service whose name looks like a way out. -/
def tempted : Settings :=
  { Settings.forCluster "https://c:8443/api" with
    authToken := some "secret"
    nestedServiceName := "../..//evil.test\\@x:1?a#b" }

/-- A web whose every host but one sends whoever asks it there. -/
def luringWeb : Web Unit := fun _ r u =>
  if r.url.site = (some (.domain "evil.test"), some 443) then
    (⟨⟨0, .response 404 [] .complete⟩, none⟩, u)
  else (⟨⟨0, .response 302 [] .complete⟩, some "//evil.test:443/"⟩, u)

/-- The cluster of these settings, reached by a library that follows redirects. -/
def temptedCluster : Cluster (Unit × List Passage) :=
  configured (following luringWeb)
    ⟨"https", some ⟨"", none, .domain "c", some 8443⟩, .segments ["api", ""], none,
      none⟩ tempted

end Cluster

end Rollout
