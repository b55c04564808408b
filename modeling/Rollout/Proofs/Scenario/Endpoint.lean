import Rollout.Proofs.Cluster.Stories
import Rollout.Scenario.Basic
/-!
# Endpoint scenarios

The framework app has an endpoint on the cluster's own orchestrator and none on a nested one. The
scenario that wants no endpoint succeeds when its last wait is in vain, so it is laid down for both
scenarios which exchanges they have to make: nothing else makes them succeed, and a failure on the
way never looks like an endpoint that is missing.
-/

namespace Rollout.Scenario

open Http Wire Time

variable {σ : Type} (c : Cluster σ) (t : Timings) (limit : Nat)

/-- The framework app leaves the cluster's own orchestrator, and then its endpoint goes away. -/
def Retires (xs : List Exchange) : Prop :=
  ∃ root withdrawn probes, c.root = .ok root ∧ xs = withdrawn ++ probes ∧
    root.Withdraws limit c.deploymentWaitTimeout FrameworkApp.appId withdrawn ∧
    Waited (c.Up limit FrameworkApp.name) (c.Down limit FrameworkApp.name)
      c.serviceEndpointTimeout probes

/-- An orchestrator starts the framework app, and its deployments settle. -/
def Deploys (r : Remote σ) (xs : List Exchange) : Prop :=
  ∃ x settled id, xs = x :: settled ∧ r.Starts limit FrameworkApp.app x id ∧
    r.Settles limit c.deploymentWaitTimeout settled

/-- The exchanges with which the framework app gets no endpoint on the nested orchestrator: an
active framework is retired first, then the app takes the place of all apps, and every probe of the
window finds the endpoint down. -/
def Unpublished (xs : List Exchange) : Prop :=
  ∃ x frameworks retired cleared deployed probes,
    xs = x :: (retired ++ (cleared ++ (deployed ++ probes))) ∧
    c.ListsFrameworks limit x frameworks ∧
    (if Cluster.isActive FrameworkApp.name frameworks then Retires c limit retired
      else retired = []) ∧
    (∃ nested, c.nested = .ok nested ∧ nested.Clears limit c.deploymentWaitTimeout cleared ∧
      Deploys c limit nested deployed) ∧
    ∃ window, t.units? nestedWindow = some window ∧
      Lingered (c.Down limit FrameworkApp.name) window probes

/-- The exchanges with which the framework app gets an endpoint on the cluster's own
orchestrator. -/
def Published (xs : List Exchange) : Prop :=
  ∃ deployed probes, xs = deployed ++ probes ∧
    (∃ root, c.root = .ok root ∧ Deploys c limit root deployed) ∧
    Waited (c.Down limit FrameworkApp.name) (c.Up limit FrameworkApp.name)
      c.serviceEndpointTimeout probes

/-- The framework app and its endpoint go away. -/
def retireFramework (c : Cluster σ) : Run (Net σ) Fault Unit := do
  removeFrameworkApp c
  let removed ← c.waitForEndpointRemoval FrameworkApp.name c.serviceEndpointTimeout
  require removed ("service endpoint " ++ FrameworkApp.name ++ " was not removed")

/-- An orchestrator starts the framework app. -/
def deployOn (c : Cluster σ) (r : Remote σ) : Run (Net σ) Fault Unit := do
  let _ ← r.addApp FrameworkApp.app
  c.deploymentWait r

/-- No endpoint appears within a window. -/
def watchWindow (c : Cluster σ) (window : Span) : Run (Net σ) Fault Unit := do
  let appeared ← c.waitForEndpoint FrameworkApp.name window
  require (!appeared) "MoM should not create a service endpoint"

theorem frameworkUnavailableOnNested_eq : frameworkUnavailableOnNested c t =
    c.serviceAvailable FrameworkApp.name >>= fun active =>
      (if active then retireFramework c else pure ()) >>= fun _ =>
        (Run.ofExcept c.nested >>= fun nested => c.deleteAllAppsWait nested >>= fun _ =>
          deployOn c nested) >>= fun _ =>
            t.units nestedWindow >>= fun window => watchWindow c window := by
  unfold frameworkUnavailableOnNested
  apply bind_congr
  intro active
  cases active with
  | true =>
      simp only [if_true, retireFramework, deployOn, watchWindow, Cluster.withNested, bind_assoc]
  | false =>
      simp only [Bool.false_eq_true, if_false, deployOn, watchWindow, Cluster.withNested,
        bind_assoc, pure_bind]

theorem deployFramework_eq : deployFramework c = (Run.ofExcept c.root >>= deployOn c) >>= fun _ =>
    c.waitForEndpoint FrameworkApp.name c.serviceEndpointTimeout >>= fun appeared =>
      require appeared ("service endpoint " ++ FrameworkApp.name ++ " never appeared") := by
  unfold deployFramework deployOn
  simp only [bind_assoc]

section

variable {c limit} {clock : Clock} (hclock : ∀ n, clock.lasting n ≤ n)
  (hinterval : 0 < c.pollInterval.nanos)
include hclock hinterval

theorem deployOn_leads (r : Remote σ) :
    Leads r.http.server clock (fun xs _ => Deploys c (clock.lasting r.http.limit.nanos) r xs)
      (deployOn c r) := by
  have hstarted := (r.yields_addApp hclock FrameworkApp.app).leads.bind fun _ =>
    c.deploymentWait_leads hclock hinterval r
  apply hstarted.congr
  intro xs _
  constructor
  · rintro ⟨_, id, settled, ⟨x, rfl, hx⟩, hsettled, rfl⟩
    exact ⟨x, settled, id, rfl, hx, hsettled⟩
  · rintro ⟨x, settled, id, rfl, hx, hsettled⟩
    exact ⟨[x], id, settled, ⟨x, rfl, hx⟩, hsettled, rfl⟩

theorem retireFramework_leads :
    Leads c.http.server clock (fun xs _ => Retires c (clock.lasting c.http.limit.nanos) xs)
      (retireFramework c) := by
  have hremoved : Leads c.http.server clock (fun xs _ => ∃ root, c.root = .ok root ∧
      root.Withdraws (clock.lasting c.http.limit.nanos) c.deploymentWaitTimeout FrameworkApp.appId
        xs) (removeFrameworkApp c) := by
    apply Leads.ofExcept_bind
    intro root hroot
    obtain ⟨hserver, hlimit⟩ := Cluster.http_of_remote hroot
    have hwithdrawn := c.removeAppWait_leads hclock hinterval root FrameworkApp.appId
    rwa [hserver, hlimit] at hwithdrawn
  have hretired := hremoved.bind fun _ => c.waitForEndpointRemoval_leads hclock hinterval
    FrameworkApp.name c.serviceEndpointTimeout (k := fun removed => require removed
      ("service endpoint " ++ FrameworkApp.name ++ " was not removed")) rfl rfl
  apply hretired.congr
  intro xs _
  constructor
  · rintro ⟨withdrawn, _, probes, ⟨root, hroot, hwithdrawn⟩, hprobes, rfl⟩
    exact ⟨root, withdrawn, probes, hroot, rfl, hwithdrawn, hprobes⟩
  · rintro ⟨root, withdrawn, probes, hroot, rfl, hwithdrawn, hprobes⟩
    exact ⟨withdrawn, (), probes, ⟨root, hroot, hwithdrawn⟩, hprobes, rfl⟩

theorem takeOver_leads :
    Leads c.http.server clock (fun xs _ => ∃ nested, c.nested = .ok nested ∧
        ∃ cleared deployed, xs = cleared ++ deployed ∧
          nested.Clears (clock.lasting c.http.limit.nanos) c.deploymentWaitTimeout cleared ∧
          Deploys c (clock.lasting c.http.limit.nanos) nested deployed)
      (Run.ofExcept c.nested >>= fun nested => c.deleteAllAppsWait nested >>= fun _ =>
        deployOn c nested) := by
  apply Leads.ofExcept_bind
  intro nested hnested
  obtain ⟨hserver, hlimit⟩ := Cluster.http_of_remote hnested
  have htaken := (c.deleteAllAppsWait_leads hclock hinterval nested).bind fun _ =>
    deployOn_leads hclock hinterval nested
  rw [hserver, hlimit] at htaken
  apply htaken.congr
  intro xs _
  constructor
  · rintro ⟨cleared, _, deployed, hcleared, hdeployed, rfl⟩
    exact ⟨cleared, deployed, rfl, hcleared, hdeployed⟩
  · rintro ⟨cleared, deployed, rfl, hcleared, hdeployed⟩
    exact ⟨cleared, (), deployed, hcleared, hdeployed, rfl⟩

theorem watchWindow_tells :
    Tells c.http.server clock (fun xs _ => ∃ window, t.units? nestedWindow = some window ∧
        Lingered (c.Down (clock.lasting c.http.limit.nanos) FrameworkApp.name) window xs)
      (t.units nestedWindow >>= watchWindow c) := by
  cases hunits : t.units? nestedWindow with
  | none =>
      intro now net
      have hpanics : (t.units nestedWindow : Run (Net σ) Fault Span) =
          .panic "overflow when multiplying duration by scalar" := by
        unfold Timings.units
        rw [hunits]
      rw [hpanics]
      refine ⟨[], .start, fun _ => ⟨nofun, ?_⟩⟩
      rintro ⟨window, hwindow, -⟩
      cases hwindow
  | some window =>
      have hpure : (t.units nestedWindow : Run (Net σ) Fault Span) = pure window := by
        unfold Timings.units
        rw [hunits]
      rw [hpure, pure_bind]
      have htells := c.waitForEndpoint_tells hclock hinterval FrameworkApp.name window
        (k := fun appeared => require (!appeared) "MoM should not create a service endpoint")
        rfl rfl
      intro now net
      obtain ⟨xs, hxs, htold⟩ := htells now net
      refine ⟨xs, hxs, fun _ => (htold ()).trans ⟨fun h => ⟨window, rfl, h⟩, ?_⟩⟩
      rintro ⟨_, hwindow, h⟩
      cases hwindow
      exact h

theorem frameworkUnavailable_tells :
    Tells c.http.server clock
      (fun xs _ => Unpublished c t (clock.lasting c.http.limit.nanos) xs)
      (frameworkUnavailableOnNested c t) := by
  rw [frameworkUnavailableOnNested_eq]
  have hretired (active : Bool) : Leads c.http.server clock (fun xs _ =>
      if active then Retires c (clock.lasting c.http.limit.nanos) xs else xs = [])
      (if active then retireFramework c else pure ()) := by
    cases active with
    | true => exact retireFramework_leads hclock hinterval
    | false => exact (Leads.pure ()).congr fun xs _ => ⟨And.left, fun h => ⟨h, rfl⟩⟩
  have htells := (c.serviceAvailable_leads hclock FrameworkApp.name).bind_tells fun active =>
    (hretired active).bind_tells fun _ => (takeOver_leads hclock hinterval).bind_tells fun _ =>
      watchWindow_tells t hclock hinterval
  apply htells.congr
  intro xs _
  constructor
  · rintro ⟨_, active, _, ⟨x, frameworks, rfl, hlisted, hactive⟩, ⟨retired, _, _, hretires,
      ⟨_, _, probes, ⟨nested, hnested, cleared, deployed, rfl, hcleared, hdeployed⟩,
        hprobes, rfl⟩,
      rfl⟩, rfl⟩
    refine ⟨x, frameworks, retired, cleared, deployed, probes, ?_, hlisted, ?_,
      ⟨nested, hnested, hcleared, hdeployed⟩, hprobes⟩
    · rw [List.append_assoc]
      rfl
    · rwa [hactive]
  · rintro ⟨x, frameworks, retired, cleared, deployed, probes, rfl, hlisted, hretires,
      ⟨nested, hnested, hcleared, hdeployed⟩, hprobes⟩
    refine ⟨[x], _, _, ⟨x, frameworks, rfl, hlisted, rfl⟩, ⟨retired, (), _, hretires,
      ⟨cleared ++ deployed, (), probes, ⟨nested, hnested, cleared, deployed, rfl, hcleared,
        hdeployed⟩, hprobes, rfl⟩, rfl⟩, ?_⟩
    rw [List.append_assoc]
    rfl

theorem deployFramework_leads :
    Leads c.http.server clock (fun xs _ => Published c (clock.lasting c.http.limit.nanos) xs)
      (deployFramework c) := by
  rw [deployFramework_eq]
  have hdeployed : Leads c.http.server clock (fun xs _ => ∃ root, c.root = .ok root ∧
      Deploys c (clock.lasting c.http.limit.nanos) root xs)
      (Run.ofExcept c.root >>= deployOn c) := by
    apply Leads.ofExcept_bind
    intro root hroot
    obtain ⟨hserver, hlimit⟩ := Cluster.http_of_remote hroot
    have hdeploys := deployOn_leads hclock hinterval root
    rwa [hserver, hlimit] at hdeploys
  have hpublished := hdeployed.bind fun _ => c.waitForEndpoint_leads hclock hinterval
    FrameworkApp.name c.serviceEndpointTimeout (k := fun appeared => require appeared
      ("service endpoint " ++ FrameworkApp.name ++ " never appeared")) rfl rfl
  apply hpublished.congr
  intro xs _
  constructor
  · rintro ⟨deployed, _, probes, hdeployed, hprobes, rfl⟩
    exact ⟨deployed, probes, rfl, hdeployed, hprobes⟩
  · rintro ⟨deployed, probes, rfl, hdeployed, hprobes⟩
    exact ⟨deployed, (), probes, hdeployed, hprobes, rfl⟩

end

/-- The endpoint scenarios of a configured cluster succeed exactly by their exchanges, whatever its
server answers. -/
theorem endpoint_scenarios_iff {server : Server σ} {s : Settings} {c : Cluster σ}
    (h : Cluster.ofSettings server s = .ok c) {clock : Clock}
    (hclock : ∀ n, clock.lasting n ≤ n)
    (now : Nat) (net : Net σ) :
    let limit := clock.lasting s.requestTimeout.nanos
    let unavailable := frameworkUnavailableOnNested c (.ofSettings s) clock now net
    let deployed := deployFramework c clock now net
    (∃ xs, Exchanges server net xs unavailable.state ∧
        (unavailable.outcome = .done () ↔ Unpublished c (.ofSettings s) limit xs)) ∧
      ∃ xs, Exchanges server net xs deployed.state ∧
        (deployed.outcome = .done () ↔ Published c limit xs) := by
  obtain ⟨hvalid, hpoll, -, -⟩ := Cluster.times_of_ofSettings h
  obtain ⟨hserver, hlimit⟩ := Cluster.http_of_ofSettings h
  have hinterval : 0 < c.pollInterval.nanos := hpoll ▸ (Settings.pos_of_validate hvalid).1
  have hunavailable := frameworkUnavailable_tells (.ofSettings s) hclock hinterval
  have hdeployed := (deployFramework_leads hclock hinterval).tells
  rw [hserver, hlimit] at hunavailable hdeployed
  refine ⟨?_, ?_⟩
  · obtain ⟨xs, hxs, hiff⟩ := hunavailable now net
    exact ⟨xs, hxs, hiff ()⟩
  · obtain ⟨xs, hxs, hiff⟩ := hdeployed now net
    exact ⟨xs, hxs, hiff ()⟩

/-- Settings with a short unit of time. -/
def brisk : Settings := { Settings.forCluster "http://c" with timeUnitMs := 100 }

/-- A server with an active framework whose endpoint does not answer, and with an app on the nested
orchestrator. The cluster's own orchestrator lists nothing. -/
def hiddenServer : Server Unit := fun _ q u =>
  let reply (status : Status) (text : String) : Reply × Unit :=
    (⟨1, .response status (Text.toBytes text) .complete⟩, u)
  match q.method, q.url.path with
  | .get, .segments ["mesos", "master", "frameworks"] =>
    reply 200 "\x7b\"frameworks\":[\x7b\"id\":\"1\",\"name\":\"pyfw\",\"active\":true\x7d]\x7d"
  | .get, .segments ["service", _, "v2", "apps"] =>
    reply 200 "\x7b\"apps\":[\x7b\"id\":\"/a\"\x7d]\x7d"
  | .get, .segments ["service", _, "v2", "deployments"] => reply 200 "[]"
  | .delete, .segments ["service", _, "v2", "apps", _] =>
    reply 200 "\x7b\"deploymentId\":\"r\",\"version\":\"1\"\x7d"
  | .post, _ => reply 201 "\x7b\"id\":\"/a\",\"deployments\":[\x7b\"id\":\"d\"\x7d]\x7d"
  | _, _ => reply 404 "gone"

/-- Without an endpoint one scenario succeeds, and without a listing the other one fails. -/
theorem endpoint_scenarios_iff_hidden :
    let c := Cluster.configured hiddenServer (Cluster.endlessUrl [""]) brisk
    let t := Timings.ofSettings brisk
    let net : Net Unit := ⟨(), []⟩
    let limit := brisk.requestTimeout.nanos
    (∃ xs, Exchanges hiddenServer net xs (frameworkUnavailableOnNested c t .exact 0 net).state ∧
        Unpublished c t limit xs) ∧
      ∃ xs, Exchanges hiddenServer net xs (deployFramework c .exact 0 net).state ∧
        ¬ Published c limit xs := by
  intro c t net limit
  have hc : Cluster.ofSettings hiddenServer brisk = .ok c :=
    Cluster.ofSettings_eq (Json.eq_ok_of_toOption (by decide +kernel))
      (Json.eq_ok_of_toOption (by decide +kernel)) rfl hiddenServer
  obtain ⟨⟨xs, hxs, hiff⟩, ys, hys, hiff'⟩ :=
    endpoint_scenarios_iff hc (fun n => Nat.le_of_eq (Clock.lasting_exact n)) 0 net
  refine ⟨⟨xs, hxs, hiff.mp ?_⟩, ys, hys, fun hpublished => ?_⟩
  · decide +kernel
  · have hfailed : (deployFramework c .exact 0 net).outcome = .failed (.notFound "gone") := by
      decide +kernel
    have hdone := hiff'.mpr hpublished
    rw [hfailed] at hdone
    cases hdone

end Rollout.Scenario
