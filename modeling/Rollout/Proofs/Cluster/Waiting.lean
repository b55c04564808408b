import Rollout.Proofs.Cluster.Deadlines
import Rollout.Proofs.Http.Waits
import Rollout.Proofs.Watch.Operation
/-!
# The waits of a cluster end

Each wait of a configured cluster asks its server one thing per round. Accepted settings pause
between the rounds, so every wait returns soon after its time is over, after few requests, and says
that time has run out only when all of it has.
-/

namespace Rollout

open Http Time Wire

variable {σ : Type} {α : Type}

theorem Http.Reply.Fails.ne_timeout [Json.Wire α] {url : String} {limit : Nat} {reply : Reply}
    {fault : Fault} (h : reply.Fails α url limit fault) (text : String) :
    fault ≠ .timeout text := by
  cases h <;> exact nofun

theorem Http.Client.Unsent.ne_timeout {c : Client σ} {path : String} {fault : Fault}
    (h : c.Unsent path fault) (text : String) : fault ≠ .timeout text := by
  cases h with
  | url h =>
      obtain ⟨_, rfl⟩ := Http.Client.eq_url_of_url_eq_error h
      exact nofun
  | unsendable => exact nofun
  | noTime => exact nofun

namespace Remote

variable (r : Remote σ) {clock : Clock} (hclock : ∀ n, clock.lasting n ≤ n)

theorem listDeployments_ne_timeout (now : Nat) (net : Net σ) (text : String) :
    (r.listDeployments clock now net).outcome ≠ .failed (.timeout text) := by
  have hgets : r.http.Gets "v2/deployments" (clock.lasting r.http.limit.nanos) net
      (r.listDeployments clock now net).state (r.listDeployments clock now net).outcome :=
    r.http.get_gets clock now net "v2/deployments"
  intro hfailed
  rw [hfailed] at hgets
  generalize (r.listDeployments clock now net).state = later at hgets
  cases hgets with
  | answered _ _ read =>
      cases read with
      | failed h => exact h.ne_timeout text rfl
  | unsent h => exact h.ne_timeout text rfl

include hclock

theorem brief_listDeployments :
    Brief r.http.server clock r.http.limit.nanos id r.listDeployments :=
  (r.http.calls_get hclock "v2/deployments").brief (hclock _) (r.http.returns_get _)

theorem brief_getDeployment (deploymentId : String) :
    Brief r.http.server clock r.http.limit.nanos id (r.getDeployment deploymentId) :=
  (r.brief_listDeployments hclock).map (List.find? fun d => d.id == deploymentId)

end Remote

theorem Watch.brief_look (w : Watch (Net σ)) (h : Handle) (accepts : Snapshot → Bool)
    {server : Server σ} {clock : Clock} {limit : Nat}
    (hlookup : Brief server clock limit id (w.orchestrator.getDeployment h.deploymentId)) :
    Brief server clock limit Prod.snd (w.look h accepts) where
  returns now s := by
    have hreturns := hlookup.returns now s.2
    rw [w.look_apply]
    rcases hstep : w.orchestrator.getDeployment h.deploymentId clock now s.2 with
      ⟨_ | _ | _, t, n⟩ <;> rw [hstep] at hreturns
    · rfl
    · rfl
    · cases hreturns
  elapsed_le now s := by
    have helapsed := hlookup.elapsed_le now s.2
    rw [w.look_apply]
    rcases hstep : w.orchestrator.getDeployment h.deploymentId clock now s.2 with
      ⟨_ | _ | _, t, n⟩ <;> rw [hstep] at helapsed <;> exact helapsed
  exchanged now s := by
    have hexchanged := hlookup.exchanged now s.2
    rw [w.look_apply]
    rcases hstep : w.orchestrator.getDeployment h.deploymentId clock now s.2 with
      ⟨_ | _ | _, t, n⟩ <;> rw [hstep] at hexchanged <;> exact hexchanged

namespace Cluster

variable (c : Cluster σ)

theorem brief_endpointExists {clock : Clock} (hclock : ∀ n, clock.lasting n ≤ n)
    (name : String) :
    Brief c.http.server clock c.http.limit.nanos id (c.endpointExists name) :=
  ((c.http.calls_probe ("service/" ++ name ++ "/")).through (endpointStatus name)).brief
    (hclock _) (c.returns_endpointExists name)

theorem http_of_remote {c : Cluster σ} {context : Context} {r : Remote σ}
    (h : c.remote context = .ok r) :
    r.http.server = c.http.server ∧ r.http.limit = c.http.limit := by
  obtain ⟨base, -, rfl⟩ := remote_eq_ok_iff.mp h
  exact ⟨rfl, rfl⟩

/-- What a wait for deployments comes to. -/
def requireSettled (r : Remote σ) (timeout : Span) (settled : Bool) : Except Fault Unit :=
  if settled then .ok ()
  else
    .error (.timeout ("[" ++ r.context.text ++ "] deployments did not settle within "
      ++ timeout.text))

theorem deploymentWaitFor_eq (r : Remote σ) (timeout : Span) :
    c.deploymentWaitFor r timeout = Run.awaitUntil (c.patience timeout)
      (do return (← r.listDeployments).isEmpty) >>= fun settled =>
        .ofExcept (requireSettled r timeout settled) := by
  unfold deploymentWaitFor
  congr
  funext settled
  cases settled <;> rfl

section

variable {clock : Clock} {longest : Nat} (hclock : clock.CutsAt longest)
  (hinterval : 0 < c.pollInterval.nanos) {now : Nat} {timeout : Span}
  (hdeadline : now + timeout.nanos < instantLimit) (net : Net σ)
include hclock hinterval hdeadline

theorem deploymentWaitFor_ends (r : Remote σ) :
    WaitEnds r.http.server id timeout.nanos r.http.limit.nanos (min c.pollInterval.nanos longest)
      (fun o => ∃ text, o = .failed (.timeout text)) net
      (c.deploymentWaitFor r timeout clock now net) := by
  have hlisted := (r.brief_listDeployments hclock.lasting_le).map List.isEmpty
  rw [deploymentWaitFor_eq]
  apply WaitEnds.through
  apply hlisted.awaitUntil_ends _ _ hclock (p := c.patience timeout) hinterval hdeadline
  · rintro ⟨text, hlate⟩
    cases hlate
  · intro now net fault hfailed
    -- The fault is that of the listing, and no listing fails for want of time to wait.
    have hlisting : (r.listDeployments clock now net).outcome = .failed fault := by
      rw [Run.bind_apply] at hfailed
      rcases hstep : r.listDeployments clock now net with ⟨ds | other | text, t, n⟩ <;>
        rw [hstep] at hfailed <;> cases hfailed
      rfl
    rintro ⟨text, hlate⟩
    cases hlate
    exact r.listDeployments_ne_timeout now net text hlisting

theorem waitForEndpoint_ends (name : String) :
    WaitEnds c.http.server id timeout.nanos c.http.limit.nanos (min c.pollInterval.nanos longest)
      (· = .done false) net (c.waitForEndpoint name timeout clock now net) := by
  have hprobed := c.brief_endpointExists hclock.lasting_le name
  apply hprobed.awaitUntil_ends _ _ hclock (p := c.patience timeout) hinterval hdeadline
  · exact fun hlate => nomatch hlate
  · exact fun _ _ _ _ hlate => nomatch hlate

theorem waitForEndpointRemoval_ends (name : String) :
    WaitEnds c.http.server id timeout.nanos c.http.limit.nanos (min c.pollInterval.nanos longest)
      (· = .done false) net (c.waitForEndpointRemoval name timeout clock now net) := by
  have hprobed := (c.brief_endpointExists hclock.lasting_le name).map not
  apply hprobed.awaitUntil_ends _ _ hclock (p := c.patience timeout) hinterval hdeadline
  · exact fun hlate => nomatch hlate
  · exact fun _ _ _ _ hlate => nomatch hlate

theorem await_ends (r : Remote σ) (h : Handle) (accepts : Snapshot → Bool) (ledger : Ledger) :
    WaitEnds r.http.server Prod.snd timeout.nanos r.http.limit.nanos
      (min c.pollInterval.nanos longest) (· = .done false) (ledger, net)
      ((c.watch r).await h timeout accepts clock now (ledger, net)) := by
  have hlook := (c.watch r).brief_look h accepts
    (r.brief_getDeployment hclock.lasting_le h.deploymentId)
  have hwait : WaitEnds r.http.server Prod.snd timeout.nanos r.http.limit.nanos
      (min c.pollInterval.nanos longest) (· = .done none) (none, net)
      (Run.pollUntil ((c.watch r).patience.withTimeout timeout) ((c.watch r).look h accepts) clock
        now (none, net)) :=
    hlook.pollUntil_ends (fun _ _ hends => hends) hclock (p := c.patience timeout) hinterval
      hdeadline (none, net)
  rw [Watch.await_apply]
  rcases hstep : Run.pollUntil ((c.watch r).patience.withTimeout timeout)
    ((c.watch r).look h accepts) clock now (none, net) with ⟨met | fault | text, t, n⟩ <;>
    rw [hstep] at hwait
  · refine ⟨rfl, hwait.exchanged, hwait.elapsed_le, fun hends => hwait.timedOut ?_⟩
    cases met with
    | none => rfl
    | some _ => cases hends
  · exact ⟨rfl, hwait.exchanged, hwait.elapsed_le, nofun⟩
  · exact ⟨hwait.returns, hwait.exchanged, hwait.elapsed_le, nofun⟩

end

/-- Every wait of a configured cluster ends with its deadline, also if sleeps are cut short. -/
theorem waits_end {s : Settings} {server : Server σ} {c : Cluster σ}
    (h : ofSettings server s = .ok c) {clock : Clock} {longest : Nat}
    (hclock : clock.CutsAt longest) {now : Nat} {timeout : Span}
    (hdeadline : now + timeout.nanos < instantLimit) (net : Net σ) :
    let limit := s.requestTimeout.nanos
    let pause := min s.pollInterval.nanos longest
    (∀ context r, c.remote context = .ok r →
      WaitEnds server id timeout.nanos limit pause (fun o => ∃ text, o = .failed (.timeout text))
        net (c.deploymentWaitFor r timeout clock now net)) ∧
      (∀ name, WaitEnds server id timeout.nanos limit pause (· = .done false) net
        (c.waitForEndpoint name timeout clock now net)) ∧
      (∀ name, WaitEnds server id timeout.nanos limit pause (· = .done false) net
        (c.waitForEndpointRemoval name timeout clock now net)) ∧
      (∀ context r, c.remote context = .ok r → ∀ handle accepts ledger,
        WaitEnds server Prod.snd timeout.nanos limit pause (· = .done false) (ledger, net)
          ((c.watch r).await handle timeout accepts clock now (ledger, net))) := by
  obtain ⟨hvalid, hpoll, -, -⟩ := times_of_ofSettings h
  have hinterval : 0 < s.pollInterval.nanos := (Settings.pos_of_validate hvalid).1
  obtain ⟨hserver, hlimit⟩ := http_of_ofSettings h
  rw [← hpoll] at hinterval
  intro limit pause
  refine ⟨fun context r hr => ?_, fun name => ?_, fun name => ?_, fun context r hr => ?_⟩
  · have hends := c.deploymentWaitFor_ends hclock hinterval hdeadline net r
    rwa [(http_of_remote hr).1, (http_of_remote hr).2, hserver, hlimit, hpoll] at hends
  · have hends := c.waitForEndpoint_ends hclock hinterval hdeadline net name
    rwa [hserver, hlimit, hpoll] at hends
  · have hends := c.waitForEndpointRemoval_ends hclock hinterval hdeadline net name
    rwa [hserver, hlimit, hpoll] at hends
  · intro handle accepts ledger
    have hends := c.await_ends hclock hinterval hdeadline net r handle accepts ledger
    rwa [(http_of_remote hr).1, (http_of_remote hr).2, hserver, hlimit, hpoll] at hends

/-- Settings with a pause that is longer than any sleep. -/
def sluggish : Settings :=
  { Settings.forCluster "http://c" with
    deploymentWaitTimeoutSecs := 2000000000
    pollIntervalMs := 2000000000000 }

def sluggishCluster : Cluster Unit := configured busyServer (endlessUrl [""]) sluggish

def sluggishRemote : Remote Unit :=
  ⟨sluggishCluster.http.rebased (endlessUrl ["marathon", ""]), .root⟩

theorem ofSettings_sluggish : ofSettings busyServer sluggish = .ok sluggishCluster :=
  ofSettings_eq (Json.eq_ok_of_toOption (by decide +kernel))
    (Json.eq_ok_of_toOption (by decide +kernel))
    rfl busyServer

theorem root_sluggish : sluggishCluster.remote .root = .ok sluggishRemote :=
  remote_of_url (Json.eq_ok_of_toOption (by decide +kernel))

/-- Sleeps that are cut short make more rounds than there are pauses in the time: two pauses of more
than sixty years have room for two rounds, but sleeps of thirty years for four. -/
theorem sluggish_exceeds_pauses :
    let timeout := sluggish.deploymentWaitTimeout.nanos
    let interval := sluggish.pollInterval.nanos
    let net : Net Unit := ⟨(), []⟩
    let step := sluggishCluster.deploymentWait sluggishRemote .usual 0 net
    ofSettings busyServer sluggish = .ok sluggishCluster ∧
      sluggishCluster.remote .root = .ok sluggishRemote ∧
      0 + timeout < instantLimit ∧
      step.state.sent.map Sent.time =
        [0, Clock.thirtyYears, 2 * Clock.thirtyYears, timeout] ∧
      step.outcome = .failed (.timeout
        "[marathon] deployments did not settle within 2000000000s") ∧
      ¬ step.state.sent.length ≤ (timeout + (interval - 1)) / interval + 1 := by
  intro timeout interval net step
  refine ⟨ofSettings_sluggish, root_sluggish, ?_, ?_, ?_, ?_⟩ <;> decide +kernel

/-- A wait of more than sixty years in which no sleep lasts longer than thirty. -/
theorem waits_end_sluggish :
    let timeout := sluggish.deploymentWaitTimeout
    let net : Net Unit := ⟨(), []⟩
    let step := sluggishCluster.deploymentWait sluggishRemote .usual 0 net
    0 + timeout.nanos < instantLimit ∧ step.outcome.returns = true ∧
      step.state.sent.length ≤ 4 ∧
      timeout.nanos ≤ step.elapsed := by
  intro timeout net step
  have hdeadline : 0 + timeout.nanos < instantLimit := by decide +kernel
  have hwait := (waits_end ofSettings_sluggish Clock.usual_cutsAt hdeadline net).1 .root
    sluggishRemote root_sluggish
  have hlate : step.outcome =
      .failed (.timeout "[marathon] deployments did not settle within 2000000000s") := by
    decide +kernel
  have hrounds : (timeout.nanos + (min sluggish.pollInterval.nanos Clock.thirtyYears - 1)) /
      min sluggish.pollInterval.nanos Clock.thirtyYears + 1 = 4 := by decide +kernel
  obtain ⟨xs, hxs, hlength⟩ := hwait.exchanged
  refine ⟨hdeadline, hwait.returns, ?_, hwait.timedOut ⟨_, hlate⟩⟩
  have hsent : step.state.sent.length = xs.length := by
    rw [show step.state.sent = [] ++ _ from hxs.sent, List.nil_append, List.length_map]
  omega

end Cluster

end Rollout
