import Rollout.Cluster.Upkeep
import Rollout.Proofs.Http.Calls
import Rollout.Proofs.Json.Success
import Rollout.Proofs.Run.InTurn
import Rollout.Proofs.Run.Numbered
import Rollout.Scenario.Timings
/-!
# Deadlines of a cluster's waits

Settings that are accepted may name any time to wait, also one that ends later than instants go. A
wait with such a timeout panics before it looks at anything. This is the only way in which the times
of accepted settings are too long: spans of scenario time exist, and no pause is empty.
-/

namespace Rollout

open Http Time Wire

variable {σ α β : Type}

namespace Http.Client

variable (c : Client σ)

theorem returns_transmit (q : Request) : Run.Returns (c.transmit q) := by
  intro clock now net
  unfold transmit
  simp only
  split
  · rfl
  · split
    · rfl
    · split <;> rfl

theorem returns_send (method : Method) (u : Url) (body : Option String) :
    Run.Returns (c.send method u body) := by
  unfold send
  simp only
  split
  · exact c.returns_transmit _
  · exact .fail _

theorem returns_requireSuccess (r : Response) :
    Run.Returns (requireSuccess r : Run (Net σ) Fault Unit) := by
  unfold requireSuccess
  split
  · exact .pure _
  · refine .bind ?_ fun _ => .fail _
    unfold readText
    split
    · exact .pure _
    · exact .pure _
    · exact .bind (.sleep _) fun _ => .pure _

theorem returns_readValue [Json.Wire α] (r : Response) :
    Run.Returns (readValue r : Run (Net σ) Fault α) := by
  refine .bind (returns_requireSuccess r) fun _ => ?_
  split
  · split
    · exact .pure _
    · exact .fail _
  · exact .fail _
  · exact .bind (.sleep _) fun _ => .fail _

theorem returns_get [Json.Wire α] (path : String) :
    Run.Returns (c.get path : Run (Net σ) Fault α) :=
  .bind (.ofExcept _) fun u => .bind (c.returns_send .get u none) returns_readValue

theorem returns_post [Json.Wire α] [Json.Wire β] (path : String) (body : β) :
    Run.Returns (c.post path body : Run (Net σ) Fault α) :=
  .bind (.ofExcept _) fun u => .bind (c.returns_send .post u _) returns_readValue

theorem returns_probe (path : String) : Run.Returns (c.probe path) :=
  .bind (.ofExcept _) fun u => .bind (c.returns_send .get u none) fun _ => .pure _

end Http.Client

namespace Cluster

variable (c : Cluster σ)

theorem returns_endpointExists (name : String) : Run.Returns (c.endpointExists name) :=
  .bind (c.http.returns_probe _) fun _ => .ofExcept _

/-- What precedes the wait for the nested orchestrator: it is installed if it is not registered. -/
def provideNested (c : Cluster σ) : Run (Net σ) Fault Unit := do
  if ← c.serviceAvailable c.nestedServiceName then pure ()
  else
    let _ ← c.installPackage (nestedPackage c.nestedServiceName)

theorem returns_provideNested : Run.Returns c.provideNested := by
  refine .bind (.bind (.bind (c.http.returns_get _) fun _ => .pure _) fun _ => .pure _) ?_
  intro available
  cases available with
  | true => exact .pure _
  | false => exact .bind (c.http.returns_post _ _) fun _ => .pure _

/-- What the wait for the nested orchestrator comes to. -/
def requireNested (c : Cluster σ) (up : Bool) : Run (Net σ) Fault Unit :=
  if up then pure ()
  else
    .fail (.timeout (c.nestedServiceName ++ " endpoint did not come up within "
      ++ c.serviceEndpointTimeout.text))

theorem ensureNested_eq : c.ensureNested = c.provideNested >>= fun _ =>
    c.waitForEndpoint c.nestedServiceName c.serviceEndpointTimeout >>= c.requireNested := by
  unfold ensureNested provideNested
  simp only [bind_assoc]
  congr
  funext available
  cases available with
  | true => exact (pure_bind _ _).symm
  | false =>
      simp only [Bool.false_eq_true, if_false, bind_assoc, pure_bind]
      rfl

theorem returns_requireNested (up : Bool) : Run.Returns (c.requireNested up) := by
  unfold requireNested
  split
  · exact .pure _
  · exact .fail _

/-- The cluster of some settings below a URL. -/
def configured (server : Server σ) (base : Url) (s : Settings) : Cluster σ where
  http := ⟨server, base, s.authToken, s.requestTimeout⟩
  nestedServiceName := s.nestedServiceName
  pollInterval := s.pollInterval
  deploymentWaitTimeout := s.deploymentWaitTimeout
  serviceEndpointTimeout := s.serviceEndpointTimeout

theorem ofSettings_eq {s : Settings} {base : Url} (hvalid : s.validate = .ok ())
    (hbase : s.clusterBase = .ok base) (htoken : checkToken s.authToken = .ok ())
    (server : Server σ) : ofSettings server s = .ok (configured server base s) := by
  unfold ofSettings
  rw [hvalid, hbase, htoken]
  rfl

section

variable {s : Settings} {server : Server σ} {c : Cluster σ} (h : ofSettings server s = .ok c)
include h

theorem of_ofSettings : s.validate = .ok () ∧
    ∃ base, s.clusterBase = .ok base ∧ c = configured server base s := by
  unfold ofSettings at h
  cases hvalid : s.validate with
  | error fault =>
      rw [hvalid] at h
      cases h
  | ok _ =>
      cases hbase : s.clusterBase with
      | error fault =>
          rw [hvalid, hbase] at h
          cases h
      | ok base =>
          cases htoken : checkToken s.authToken with
          | error fault =>
              rw [hvalid, hbase, htoken] at h
              cases h
          | ok _ =>
              rw [hvalid, hbase, htoken] at h
              cases h
              exact ⟨rfl, base, rfl, rfl⟩

theorem times_of_ofSettings : s.validate = .ok () ∧ c.pollInterval = s.pollInterval ∧
    c.deploymentWaitTimeout = s.deploymentWaitTimeout ∧
    c.serviceEndpointTimeout = s.serviceEndpointTimeout := by
  obtain ⟨hvalid, base, -, rfl⟩ := of_ofSettings h
  exact ⟨hvalid, rfl, rfl, rfl⟩

theorem http_of_ofSettings : c.http.server = server ∧ c.http.limit = s.requestTimeout := by
  obtain ⟨-, base, -, rfl⟩ := of_ofSettings h
  exact ⟨rfl, rfl⟩

end

end Cluster

theorem Settings.pos_of_validate {s : Settings} (h : s.validate = .ok ()) :
    0 < s.pollInterval.nanos ∧ 0 < s.timeUnit.nanos := by
  unfold validate at h
  cases hbase : s.clusterBase with
  | error fault =>
      rw [hbase] at h
      cases h
  | ok base =>
      rw [hbase] at h
      change (if _ then _ else if s.pollIntervalMs = 0 ∨ s.timeUnitMs = 0 then _ else _) = _ at h
      split at h
      · cases h
      · split at h
        · cases h
        · rename_i hzero
          simp only [not_or, ← UInt64.toNat_inj] at hzero
          simp only [pollInterval, timeUnit, Span.nanos_ofMillis, nanosPerMilli]
          change ¬ s.pollIntervalMs.toNat = 0 ∧ ¬ s.timeUnitMs.toNat = 0 at hzero
          omega

theorem Timings.sleep_of_units? {τ ε : Type} {t : Timings} {n : UInt32} {span : Span}
    (h : t.units? n = some span) (clock : Clock) (now : Nat) (s : τ) :
    (t.sleep n : Run τ ε Unit) clock now s = ⟨.done (), s, clock.lasting span.nanos⟩ := by
  have hunits : (t.units n : Run τ ε Span) = pure span := by
    unfold units
    rw [h]
  unfold sleep
  rw [hunits, pure_bind]
  rfl

namespace Cluster

theorem units?_of_le (s : Settings) {n : UInt32} (hn : n.toNat ≤ 1000) :
    ∃ span, (Timings.ofSettings s).units? n = some span ∧
      span.nanos = s.timeUnit.nanos * n.toNat := by
  have hunit : s.timeUnit.nanos * n.toNat < spanLimit := by
    have hlt := s.timeUnitMs.toNat_lt
    have hle := Nat.mul_le_mul_left s.timeUnit.nanos hn
    simp only [Settings.timeUnit, Span.nanos_ofMillis, nanosPerMilli, spanLimit, UInt64.size,
      nanosPerSecond] at hle ⊢
    omega
  exact ⟨⟨_, hunit⟩, dif_pos hunit, rfl⟩

theorem sleep_ofSettings (s : Settings) {n : UInt32} (hn : n.toNat ≤ 1000) {τ ε : Type}
    (clock : Clock) (now : Nat) (t : τ) :
    ((Timings.ofSettings s).sleep n : Run τ ε Unit) clock now t =
      ⟨.done (), t, clock.lasting (s.timeUnit.nanos * n.toNat)⟩ := by
  obtain ⟨span, hunits, hnanos⟩ := units?_of_le s hn
  rw [Timings.sleep_of_units? hunits, hnanos]

/-- How the nested orchestrator is provided: what precedes the wait has failed, or the wait for its
endpoint follows from there on. -/
def NestedWaits (c : Cluster σ) (p : Patience) (clock : Clock) (now : Nat) (net : Net σ) : Prop :=
  let provided := c.provideNested clock now net
  let nested := c.ensureNested clock now net
  (∃ fault, provided.outcome = .failed fault ∧ nested.outcome = .failed fault) ∨
    provided.outcome = .done () ∧ ∃ wait : Run (Net σ) Fault Unit,
      Run.WaitsFor wait p (c.endpointExists c.nestedServiceName) clock (now + provided.elapsed)
        provided.state ∧
      nested = (wait clock (now + provided.elapsed) provided.state).delayed provided.elapsed

/-- Where sums of accepted settings are out of range. A wait panics if and only if it would end
later than instants go. The numbers of its evaluations do not suffice exactly if it makes as many as
there are of thirty-two bits, and it makes at most one for each pause that it has begun and one
more. As many units as scenarios sleep are a span. -/
theorem waits_overflow_iff {s : Settings} {server : Server σ} {c : Cluster σ}
    (h : ofSettings server s = .ok c) (clock : Clock) (now : Nat) (net : Net σ) :
    (∀ r, Run.WaitsFor (c.deploymentWait r) ⟨s.deploymentWaitTimeout, s.pollInterval⟩
        (do return (← r.listDeployments).isEmpty) clock now net) ∧
      (∀ name, Run.WaitsFor (c.waitForEndpoint name s.serviceEndpointTimeout)
        ⟨s.serviceEndpointTimeout, s.pollInterval⟩ (c.endpointExists name) clock now net) ∧
      (∀ name, Run.WaitsFor (c.waitForEndpointRemoval name s.serviceEndpointTimeout)
        ⟨s.serviceEndpointTimeout, s.pollInterval⟩
          (do return !(← c.endpointExists name)) clock now
        net) ∧
      NestedWaits c ⟨s.serviceEndpointTimeout, s.pollInterval⟩ clock now net ∧
      ∀ n : UInt32, n.toNat ≤ 1000 → ∃ span, (Timings.ofSettings s).units? n = some span ∧
        span.nanos = s.timeUnit.nanos * n.toNat ∧
        ((Timings.ofSettings s).sleep n clock now net : Step (Net σ) Fault Unit) =
          ⟨.done (), net, clock.lasting span.nanos⟩ := by
  obtain ⟨hvalid, hinterval, hdeployment, hendpoint⟩ := times_of_ofSettings h
  have hpos : 0 < s.pollInterval.nanos := (Settings.pos_of_validate hvalid).1
  have hpatience (timeout : Span) : c.patience timeout = ⟨timeout, s.pollInterval⟩ := by
    unfold patience
    rw [hinterval]
  have hlisted (r : Remote σ) : Run.Returns (do return (← r.listDeployments).isEmpty) :=
    .bind (r.http.returns_get _) fun _ => .pure _
  have hgone (name : String) : Run.Returns (do return !(← c.endpointExists name)) :=
    .bind (c.returns_endpointExists name) fun _ => .pure _
  refine ⟨fun r => ?_, fun name => ?_, fun name => ?_, ?_, fun n hn => ?_⟩
  · unfold deploymentWait deploymentWaitFor
    rw [hdeployment, hpatience]
    refine Run.awaitUntil_waitsFor (hlisted r) hpos clock now net fun settled => ?_
    cases settled with
    | true => exact .pure _
    | false => exact .fail _
  · unfold waitForEndpoint
    rw [hpatience, ← bind_pure (Run.awaitUntil _ _)]
    exact Run.awaitUntil_waitsFor
      (c.returns_endpointExists name) hpos clock now net fun _ => .pure _
  · unfold waitForEndpointRemoval
    rw [hpatience, ← bind_pure (Run.awaitUntil _ _)]
    exact Run.awaitUntil_waitsFor (hgone name) hpos clock now net fun _ => .pure _
  · have hreturns := c.returns_provideNested clock now net
    unfold NestedWaits
    rw [ensureNested_eq, Run.bind_apply, hendpoint]
    unfold waitForEndpoint
    rw [hpatience]
    rcases hstep : c.provideNested clock now net with ⟨_ | fault | text, mid, n⟩
    · exact .inr ⟨rfl, _, Run.awaitUntil_waitsFor
        (c.returns_endpointExists _) hpos clock (now + n)
        mid c.returns_requireNested, rfl⟩
    · exact .inl ⟨fault, rfl, rfl⟩
    · rw [hstep] at hreturns
      cases hreturns
  · obtain ⟨span, hunits, hnanos⟩ := units?_of_le s hn
    exact ⟨span, hunits, hnanos, Timings.sleep_of_units? hunits clock now net⟩

/-- Settings with the longest times there are. -/
def endless : Settings :=
  { Settings.forCluster "http://c" with
    deploymentWaitTimeoutSecs := 18446744073709551615
    serviceEndpointTimeoutSecs := 18446744073709551615
    pollIntervalMs := 18446744073709551615
    timeUnitMs := 18446744073709551615 }

/-- A URL on the host of these settings. -/
def endlessUrl (path : List String) : Url :=
  ⟨"http", some ⟨"", none, .domain "c", none⟩, .segments path, none, none⟩

/-- The cluster of these settings. -/
def endlessCluster (server : Server σ) : Cluster σ where
  http := ⟨server, endlessUrl [""], none, endless.requestTimeout⟩
  nestedServiceName := endless.nestedServiceName
  pollInterval := endless.pollInterval
  deploymentWaitTimeout := endless.deploymentWaitTimeout
  serviceEndpointTimeout := endless.serviceEndpointTimeout

theorem ofSettings_endless (server : Server σ) :
    ofSettings server endless = .ok (endlessCluster server) :=
  ofSettings_eq (Json.eq_ok_of_toOption (by decide +kernel))
    (Json.eq_ok_of_toOption (by decide +kernel))
    rfl server

/-- Settings that leave time for more looks than there are numbers. -/
def restless : Settings :=
  { Settings.forCluster "http://c" with deploymentWaitTimeoutSecs := 4294968, pollIntervalMs := 1 }

/-- A server that always lists a deployment, at once. -/
def busyServer : Server Unit := fun _ _ u =>
  (⟨0, .response 200 (Text.toBytes "[\x7b\"id\":\"d\",\"version\":\"1\"\x7d]") .complete⟩, u)

/-- The deployment that it lists. -/
def busyDeployment : Deployment := ⟨"d", "1", [], [], [], [], 0, 0⟩

def restlessCluster : Cluster Unit := configured busyServer (endlessUrl [""]) restless

def restlessRemote : Remote Unit :=
  ⟨restlessCluster.http.rebased (endlessUrl ["marathon", ""]), .root⟩

theorem ofSettings_restless : ofSettings busyServer restless = .ok restlessCluster :=
  ofSettings_eq (Json.eq_ok_of_toOption (by decide +kernel))
    (Json.eq_ok_of_toOption (by decide +kernel)) rfl busyServer

theorem listDeployments_restless (now : Nat) (net : Net Unit) :
    let step := restlessRemote.listDeployments .exact now net
    step.elapsed = 0 ∧ ∃ d, step.outcome = .done [d] := by
  have hclock : ∀ n, Clock.exact.lasting n ≤ n := fun n => Nat.le_refl n
  have hbody : (Json.decodeBytes (Text.toBytes "[\x7b\"id\":\"d\",\"version\":\"1\"\x7d]") :
      Except Json.Fault (List Deployment)) = .ok [busyDeployment] :=
    Json.eq_ok_of_toOption (by decide +kernel)
  have hlimit : 0 < Clock.exact.lasting restlessRemote.http.limit.nanos := by decide +kernel
  have hcarries (q : Request) : (busyServer now q net.server).1.Carries
      (Clock.exact.lasting restlessRemote.http.limit.nanos) [busyDeployment] :=
    ⟨hlimit, 200, _, rfl, rfl, hbody⟩
  obtain ⟨q, hsends⟩ : ∃ q, restlessRemote.http.Sends "v2/deployments" q :=
    ⟨restlessRemote.http.request .get (endlessUrl ["marathon", "v2", "deployments"]) none,
      ⟨_, Json.eq_ok_of_toOption (by decide +kernel), rfl⟩, by decide +kernel, rfl⟩
  have hcalled := restlessRemote.http.calls_get (α := List Deployment) hclock "v2/deployments" now
    net
  intro step
  change Http.Called busyServer _ _ now net step at hcalled
  clear_value step
  cases hcalled with
  | @answered q _ _ read _ prompt =>
      have hdone := read.2.unique (.done (hcarries q))
      exact ⟨prompt _ hdone, _, hdone⟩
  | unsent silent _ =>
      exact absurd ⟨hsends, .done (hcarries q)⟩ (silent ⟨now, q, _⟩ _)

/-- Accepted settings under which waits panic. A timeout may end later than instants go, whatever
the server does; and if a deployment stays listed, a wait for it that looks each millisecond for
fifty days comes to the end of the numbers. -/
theorem waits_overflow_iff_extreme :
    (ofSettings busyServer endless = .ok (endlessCluster busyServer) ∧
      (endlessCluster busyServer).waitForEndpoint "m" endless.serviceEndpointTimeout .exact 0
        ⟨(), []⟩ = ⟨.panicked "overflow when adding duration to instant",
          ⟨(), []⟩, 0⟩ ∧
      ∃ span, (Timings.ofSettings endless).units? 60 = some span ∧
        span.nanos = 18446744073709551615 * 1000000 * 60) ∧
      let p : Patience := ⟨restless.deploymentWaitTimeout, restless.pollInterval⟩
      let listed : Run (Net Unit) Fault Bool :=
        do return (← restlessRemote.listDeployments).isEmpty
      ofSettings busyServer restless = .ok restlessCluster ∧
        (Run.pollNumbered .panics p (Run.met listed) .exact 0 ⟨(), []⟩).outcome =
          .panicked "attempt to add with overflow" ∧
        Run.pollNumbered .wraps p (Run.met listed) .exact 0 ⟨(), []⟩ =
          Run.pollUntil p (Run.met listed) .exact 0 ⟨(), []⟩ := by
  constructor
  · have h := waits_overflow_iff (ofSettings_endless busyServer) .exact 0 ⟨(), []⟩
    obtain ⟨-, hendpoint, -, -, hunits⟩ := h
    have hpanics := (hendpoint "m").deadlined
    unfold Run.Deadlined at hpanics
    rw [if_neg (by decide +kernel)] at hpanics
    obtain ⟨span, hspan, hnanos, -⟩ := hunits 60 (by decide)
    exact ⟨ofSettings_endless busyServer, hpanics, span, hspan, by rw [hnanos]; decide +kernel⟩
  · intro p listed
    have h := waits_overflow_iff ofSettings_restless .exact 0 ⟨(), []⟩
    obtain ⟨n, hnumbers, -⟩ := (h.1 restlessRemote).numbers (by decide +kernel)
    obtain ⟨es, hrounds, hlength⟩ := hnumbers.rounds
    have hidle : ∀ now t, (Run.met listed .exact now t).outcome = .done none ∧
        (Run.met listed .exact now t).elapsed = 0 := by
      intro now t
      obtain ⟨helapsed, d, hdone⟩ := listDeployments_restless now t
      rcases hstep : restlessRemote.listDeployments .exact now t with ⟨outcome, later, elapsed⟩
      rw [hstep] at helapsed hdone
      cases helapsed
      cases hdone
      have hlisted : listed .exact now t = ⟨.done false, later, 0⟩ := by
        change (restlessRemote.listDeployments >>= fun ds => pure ds.isEmpty) .exact now t = _
        rw [Run.bind_apply, hstep]
        rfl
      unfold Run.met
      rw [Run.bind_apply, hlisted]
      exact ⟨rfl, rfl⟩
    have hsize : n = 4294968001 := by
      rw [← hlength, hrounds.length_of_idle (by decide +kernel) hidle]
      decide +kernel
    exact ⟨ofSettings_restless, hnumbers.overflows (hsize ▸ by decide), hnumbers.wraps⟩

/-- That no deployment is listed does not keep an accepted wait for them from panicking. -/
theorem endless_deploymentWait_panics :
    let idle : Server Unit := fun _ _ u => (⟨0, .response 200 (Text.toBytes "[]") .complete⟩, u)
    let c := endlessCluster idle
    let net : Net Unit := ⟨(), []⟩
    ofSettings idle endless = .ok c ∧ ∃ r, c.root = .ok r ∧
      ((do return (← r.listDeployments).length : Run (Net Unit) Fault Nat) .exact 0 net).outcome =
        .done 0 ∧
      (c.deploymentWait r .exact 0 net).outcome =
        .panicked "overflow when adding duration to instant" := by
  intro idle c net
  have hbase : c.http.url Context.root.basePath = .ok (endlessUrl ["marathon", ""]) :=
    Json.eq_ok_of_toOption (by decide +kernel)
  refine ⟨ofSettings_endless idle, _, remote_of_url hbase, ?_, ?_⟩
  · decide +kernel
  · decide +kernel

end Cluster

end Rollout
