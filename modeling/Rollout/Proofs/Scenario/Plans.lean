import Mathlib.Logic.Function.Basic
import Rollout.Proofs.Scenario.Agreement
import Rollout.Proofs.Scenario.Errands
/-!
# Plans

A plan asks for one thing after the other, of a cluster or of one of any number of watches, and
decides by each result, be it a value or a fault, what it asks for next. Whatever can be made of a
cluster is the run of a plan.
-/

namespace Rollout

open Http Time Wire

variable {σ : Type} {α : Type}

/-! ## Results -/

/-- What an operation of a watch returns. -/
def Watch.Operation.Value : Operation → Type
  | submitApp _ | submitRemoval _ _ => Handle
  | observe _ => Snapshot
  | lastObserved _ => Option Snapshot
  | await _ _ _ | awaitCompletion _ _ => Bool
  | assertAbsent _ | assertReadiness _ _ | pause _ => Unit

def Watch.Operation.result (w : Watch σ) : (op : Operation) → Run (Ledger × σ) Fault op.Value
  | submitApp app => w.submitApp app
  | submitRemoval appId force => w.submitRemoval appId force
  | observe h => w.observe h
  | lastObserved h => w.lastObserved h
  | await h timeout predicate => w.await h timeout predicate
  | awaitCompletion h timeout => w.awaitCompletion h timeout
  | assertAbsent h => w.assertAbsent h
  | assertReadiness h expected => w.assertReadiness h expected
  | pause nanos => .sleep nanos

/-- What an order returns. -/
def Remote.Order.Value : Order → Type
  | info => OrchestratorInfo
  | listApps => List App
  | listDeployments => List Deployment
  | stopDeployment _ => Unit
  | addApp _ | removeApp _ _ => String
  | getDeployment _ => Option Deployment

def Remote.Order.result (r : Remote σ) : (order : Order) → Run (Net σ) Fault order.Value
  | info => r.info
  | listApps => r.listApps
  | listDeployments => r.listDeployments
  | stopDeployment id => r.stopDeployment id
  | addApp app => r.addApp app
  | removeApp id force => r.removeApp id force
  | getDeployment id => r.getDeployment id

namespace Cluster

/-- What an errand returns. Of operations of a new watch it is what the watch has kept. -/
def Errand.Value : Errand → Type
  | frameworks => List Framework
  | platformVersion => PlatformVersion
  | installPackage _ => PackageInstalled
  | endpointExists _ | serviceAvailable _ | waitForEndpoint _ _ | waitForEndpointRemoval _ _ => Bool
  | info => ClusterInfo
  | order _ what => what.Value
  | watch _ _ => Ledger
  | ensureNested | deploymentWaitFor _ _ | deleteAllAppsWait _ | removeAppWait _ _
  | stopAllDeployments _ | setUp | tearDown => Unit
  | scenario _ => Report
  | runAll _ => List Report

def Errand.result (c : Cluster σ) (t : Timings) : (e : Errand) → Run (Net σ) Fault e.Value
  | frameworks => c.frameworks
  | platformVersion => c.platformVersion
  | installPackage request => c.installPackage request
  | endpointExists name => c.endpointExists name
  | serviceAvailable name => c.serviceAvailable name
  | info => c.info
  | ensureNested => c.ensureNested
  | waitForEndpoint name timeout => c.waitForEndpoint name timeout
  | waitForEndpointRemoval name timeout => c.waitForEndpointRemoval name timeout
  | order context what => Run.ofExcept (c.remote context) >>= what.result
  | deploymentWaitFor context timeout =>
    Run.ofExcept (c.remote context) >>= fun r => c.deploymentWaitFor r timeout
  | deleteAllAppsWait context => Run.ofExcept (c.remote context) >>= c.deleteAllAppsWait
  | removeAppWait context appId =>
    Run.ofExcept (c.remote context) >>= fun r => c.removeAppWait r appId
  | stopAllDeployments context => Run.ofExcept (c.remote context) >>= c.stopAllDeployments
  | watch context ops => Run.ofExcept (c.remote context) >>= fun r =>
    Run.startingWith Ledger.empty ((c.watch r).perform ops >>= fun _ =>
      Run.get >>= fun s => pure s.1)
  | setUp => Scenario.setUp c
  | tearDown => Scenario.tearDown c
  | scenario name => Run.ofExcept (Scenario.named name) >>= fun s => s.run c t
  | runAll names => Run.ofExcept (Scenario.select names) >>= fun scenarios =>
    Scenario.runAll scenarios c t

end Cluster

/-- A run beside one of many states. -/
def Run.onPart {ρ ε : Type} (n : Nat) (x : Run (ρ × σ) ε α) :
    Run ((Nat → ρ) × σ) ε α :=
  fun clock now s =>
    let step := x clock now (s.1 n, s.2)
    ⟨step.outcome, (Function.update s.1 n step.state.1, step.state.2), step.elapsed⟩

/-- What to ask for, and how to go on with what comes of it. -/
inductive Plan (α : Type) where
  | finish (value : α)
  | ask (e : Cluster.Errand) (next : Except Fault e.Value → Plan α)
  /-- Asks the watch of a number, which looks at the orchestrator of a context. -/
  | watch (number : Nat) (context : Context) (op : Watch.Operation)
    (next : Except Fault op.Value → Plan α)

/-- What a plan does. Every watch has a ledger of its own. -/
def Plan.run (c : Cluster σ) (t : Timings) :
    Plan α → Run ((Nat → Ledger) × Net σ) Fault α
  | finish value => pure value
  | ask e next => (Run.onSnd (e.result c t)).attempt >>= fun result => (next result).run c t
  | watch number context op next =>
    (Run.ofExcept (c.remote context) >>= fun r =>
      Run.onPart number (op.result (c.watch r))).attempt >>= fun result => (next result).run c t

/-! ## Agreement -/

namespace Watch

variable {τ : Type} {R : σ → τ → Prop} {o : Orchestrator σ} {o' : Orchestrator τ}

theorem Operation.result_agree (ho : o.Agree R o') (p : Patience) (op : Operation) :
    Run.Agree (Run.Beside R) (op.result (mk o p)) (op.result (mk o' p)) := by
  cases op with
  | submitApp app => exact submitApp_agree ho p app
  | submitRemoval appId force => exact submitRemoval_agree ho p appId force
  | observe h => exact observe_agree ho p h
  | lastObserved h => exact lastObserved_agree (mk o p) (mk o' p) h
  | await h timeout predicate => exact await_agree ho p h timeout predicate
  | awaitCompletion h timeout => exact await_agree ho p h timeout Option.isNone
  | assertAbsent h => exact assertAbsent_agree ho p h
  | assertReadiness h expected => exact assertReadiness_agree ho p h expected
  | pause nanos => exact .sleep nanos

end Watch

theorem Remote.Order.result_agree {A : Net σ → Net σ → Prop} {r r' : Remote σ}
    (hr : r.Agree A r') (order : Order) : Run.Agree A (order.result r) (order.result r') := by
  cases order with
  | info => exact info_agree hr
  | listApps => exact listApps_agree hr
  | listDeployments => exact listDeployments_agree hr
  | stopDeployment id => exact stopDeployment_agree hr id
  | addApp app => exact addApp_agree hr app
  | removeApp id force => exact removeApp_agree hr id force
  | getDeployment id => exact getDeployment_agree hr id

theorem Run.Agree.onPart {ρ ε : Type} {R : σ → σ → Prop} {x y : Run (ρ × σ) ε α}
    (h : Agree (Beside R) x y) (n : Nat) : Agree (Beside R) (x.onPart n) (y.onPart n) := by
  intro clock now s t hst
  obtain ⟨houtcome, helapsed, hpart, hstate⟩ :=
    h clock now (s.1 n, s.2) (t.1 n, t.2) ⟨congrFun hst.1 n, hst.2⟩
  refine ⟨houtcome, helapsed, ?_, hstate⟩
  change Function.update s.1 n _ = Function.update t.1 n _
  rw [hpart, hst.1]

section

variable {A : Net σ → Net σ → Prop} {c : Cluster σ} {client : Client σ}
  (hc : c.Agree A client)
  (t : Timings)
include hc

open Cluster in
theorem Cluster.Errand.result_agree (e : Errand) :
    Run.Agree A (e.result c t) (e.result (c.reachedBy client) t) := by
  cases e with
  | frameworks => exact frameworks_agree hc
  | platformVersion => exact platformVersion_agree hc
  | installPackage request => exact installPackage_agree hc request
  | endpointExists name => exact endpointExists_agree hc name
  | serviceAvailable name => exact serviceAvailable_agree hc name
  | info => exact info_agree hc
  | ensureNested => exact ensureNested_agree hc
  | waitForEndpoint name timeout => exact waitForEndpoint_agree hc name timeout
  | waitForEndpointRemoval name timeout => exact waitForEndpointRemoval_agree hc name timeout
  | order context what => exact remote_agree hc context fun _ _ hr => what.result_agree hr
  | deploymentWaitFor context timeout =>
      exact remote_agree hc context fun _ _ hr => deploymentWaitFor_agree hr c client timeout
  | deleteAllAppsWait context =>
      exact remote_agree hc context fun _ _ hr => deleteAllAppsWait_agree hr c client
  | removeAppWait context appId =>
      exact remote_agree hc context fun _ _ hr => removeAppWait_agree hr c client appId
  | stopAllDeployments context =>
      exact remote_agree hc context fun _ _ hr => stopAllDeployments_agree hr c client
  | watch context ops =>
      refine remote_agree hc context fun _ _ hr => Run.Agree.startingWith Ledger.empty ?_
      refine .bind (Watch.perform_agree (watch_agree hr c client) _ ops) fun _ => ?_
      refine .get_bind fun clock now s t hst => ?_
      rw [hst.1]
      exact Run.Agree.pure _ clock now s t hst
  | setUp => exact Scenario.setUp_agree hc
  | tearDown => exact Scenario.tearDown_agree hc
  | scenario name =>
      exact .ofExcept_bind fun s hs => Scenario.run_agree hc t (Scenario.mem_all_of_named hs)
  | runAll names =>
      exact .ofExcept_bind fun scenarios hscenarios =>
        Scenario.runAll_agree hc t ((Scenario.select_eq_ok_iff.mp hscenarios).mem_all)

theorem Plan.run_agree (plan : Plan α) :
    Run.Agree (Run.Beside A) (plan.run c t) (plan.run (c.reachedBy client) t) := by
  induction plan with
  | finish value => exact .pure value
  | ask e next ih => exact .bind (e.result_agree hc t).onSnd.attempt ih
  | watch number context op next ih =>
      refine .bind (Run.Agree.attempt (Cluster.remote_agree hc context fun _ _ hr => ?_)) ih
      exact (op.result_agree (Cluster.watch_agree hr c client) _).onPart number

end

end Rollout
