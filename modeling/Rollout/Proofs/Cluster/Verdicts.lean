import Rollout.Proofs.Cluster.Stories
/-!
# Verdicts of the waits of a cluster

What the waits for deployments and for endpoints come to is a matter of the answers alone. An answer
that says neither that something is there nor that it is gone ends every wait with its fault, also
the wait for something to go away.
-/

namespace Rollout

open Http Time Wire

variable {σ : Type}

namespace Remote

variable (r : Remote σ) (limit : Nat)

/-- The deployments are asked for, and there are some. -/
def Busy (x : Exchange) : Prop := ∃ d ds, r.Lists limit x (d :: ds)

/-- How a listing of deployments is read by a wait for there to be none. -/
def settledReading : Reading Bool :=
  Reading.through (fun x (o : Outcome Fault (List Deployment)) =>
    r.http.Sends "v2/deployments" x.request ∧ x.reply.Read x.request.url.text limit o)
    fun ds => .ok ds.isEmpty

section

variable {r limit} {x : Exchange}

theorem settledReading_true_iff :
    r.settledReading limit x (.done true) ↔ r.Lists limit x [] := by
  rw [settledReading, Reading.through_done_iff]
  simp only [Except.ok.injEq, List.isEmpty_iff, Reply.read_done_iff, exists_eq_right]
  exact Iff.rfl

theorem settledReading_false_iff : r.settledReading limit x (.done false) ↔ r.Busy limit x := by
  rw [settledReading, Reading.through_done_iff]
  simp only [Except.ok.injEq, Reply.read_done_iff]
  exact lists_nonempty_iff

theorem settledReading_failed_iff {fault : Fault} :
    r.settledReading limit x (.failed fault) ↔ r.FailsAt limit x fault := by
  rw [settledReading, Reading.through_failed_iff]
  constructor
  · rintro (⟨hsent, hread⟩ | ⟨_, -, hnone⟩)
    · cases hread with
      | failed h => exact ⟨hsent, h⟩
    · cases hnone
  · exact fun h => .inl ⟨h.sent, .failed h.fails⟩

theorem settledReading_returns {o : Outcome Fault Bool} (h : r.settledReading limit x o) :
    o.returns = true := by
  apply Reading.returns_of_through _ h
  rintro o' ⟨-, hread⟩
  cases hread <;> rfl

end

end Remote

namespace Cluster

variable (c : Cluster σ)

/-- An endpoint is probed, and nothing comes of it, or a status that says neither that the endpoint
answers nor that it is not reachable. -/
inductive Unclear (limit : Nat) (name : String) (x : Exchange) : Fault → Prop where
  | lost {fault : Fault} (sent : c.http.Sends ("service/" ++ name ++ "/") x.request)
      (h : x.reply.Lost x.request.url.text limit fault) : Unclear limit name x fault
  | status {status : Status} (sent : c.http.Sends ("service/" ++ name ++ "/") x.request)
      (h : x.reply.Heads limit status) (hup : isSuccess status = false)
      (hdown : ¬ (status = 404 ∨ status = 502 ∨ status = 503)) :
      Unclear limit name x (.unexpectedStatus status ("probing service endpoint " ++ name))

theorem endpointStatus_eq_error_iff {name : String} {status : Status} {fault : Fault} :
    endpointStatus name status = .error fault ↔ isSuccess status = false ∧
      ¬ (status = 404 ∨ status = 502 ∨ status = 503) ∧
        fault = .unexpectedStatus status ("probing service endpoint " ++ name) := by
  unfold endpointStatus
  cases isSuccess status with
  | true => exact ⟨nofun, nofun⟩
  | false =>
      by_cases hdown : status = 404 ∨ status = 502 ∨ status = 503
      · simp [hdown]
      · simp [hdown, eq_comm]

/-- How a probe is read by a wait for an endpoint. -/
def endpointReading (limit : Nat) (name : String) : Reading Bool :=
  Reading.through (fun x o => c.http.Sends ("service/" ++ name ++ "/") x.request ∧
    x.reply.Probed x.request.url.text limit o) (endpointStatus name)

section

variable {c} {limit : Nat} {name : String} {x : Exchange}

theorem endpointReading_true_iff :
    c.endpointReading limit name x (.done true) ↔ c.Up limit name x := by
  rw [endpointReading, Reading.through_done_iff]
  simp only [endpointStatus_eq_ok_true_iff, and_assoc, exists_and_left]
  refine and_congr_right fun _ => exists_congr fun status => and_congr_left fun _ => ?_
  exact ⟨fun h => by cases h; assumption, .head⟩

theorem endpointReading_false_iff :
    c.endpointReading limit name x (.done false) ↔ c.Down limit name x := by
  rw [endpointReading, Reading.through_done_iff]
  simp only [endpointStatus_eq_ok_false_iff, and_assoc, exists_and_left]
  refine and_congr_right fun _ => exists_congr fun status => and_congr_left fun _ => ?_
  exact ⟨fun h => by cases h; assumption, .head⟩

theorem endpointReading_failed_iff {fault : Fault} :
    c.endpointReading limit name x (.failed fault) ↔ c.Unclear limit name x fault := by
  rw [endpointReading, Reading.through_failed_iff]
  constructor
  · rintro (⟨hsent, hprobed⟩ | ⟨status, ⟨hsent, hprobed⟩, herror⟩)
    · cases hprobed with
      | lost h => exact .lost hsent h
    · obtain ⟨hup, hdown, rfl⟩ := endpointStatus_eq_error_iff.mp herror
      cases hprobed with
      | head h => exact .status hsent h hup hdown
  · intro h
    cases h with
    | lost hsent h => exact .inl ⟨hsent, .lost h⟩
    | status hsent h hup hdown =>
        exact .inr ⟨_, ⟨hsent, .head h⟩,
          endpointStatus_eq_error_iff.mpr ⟨hup, hdown, rfl⟩⟩

theorem endpointReading_returns {o : Outcome Fault Bool} (h : c.endpointReading limit name x o) :
    o.returns = true := by
  apply Reading.returns_of_through _ h
  rintro o' ⟨-, hprobed⟩
  cases hprobed <;> rfl

theorem endpointReading_definite : (c.endpointReading limit name).Definite :=
  (Reading.Definite.probed _ limit).becomes _

end

/-- How a wait for the deployments of an orchestrator ends by its exchanges. -/
abbrev SettledBy (r : Remote σ) (limit : Nat) (timeout : Span) :
    List Exchange → Outcome Fault Unit → Prop :=
  Decided (r.Busy limit) (r.Lists limit · []) (r.FailsAt limit) (r.http.Hindered "v2/deployments")
    (.done ()) (.failed (.timeout
    ("[" ++ r.context.text ++ "] deployments did not settle within " ++
      timeout.text)))

theorem settledBy_of_polled {r : Remote σ} {limit : Nat} (timeout : Span) {xs : List Exchange}
    {o : Outcome Fault Bool} (h : Polled (r.settledReading limit) xs o ∨
      xs = [] ∧ ∃ fault, r.http.Hindered "v2/deployments" fault ∧ o = .failed fault) :
    (∀ x ∈ xs, r.http.Sends "v2/deployments" x.request) ∧
      SettledBy r limit timeout xs (o.through (requireSettled r timeout)) := by
  have hdefinite : (r.settledReading limit).Definite := (Reading.Definite.read _ limit).becomes _
  obtain ⟨hread, hdecided⟩ := Decided.of_polled hdefinite
    (fun _ _ => Remote.settledReading_returns) (fun _ _ => Client.Hindered.unique) h
  constructor
  · intro x hx
    obtain ⟨_, _, ⟨hsent, -⟩, -⟩ := hread x hx
    exact hsent
  · apply (hdecided.congr (fun _ => Remote.settledReading_false_iff)
      (fun _ => Remote.settledReading_true_iff) fun _ _ => Remote.settledReading_failed_iff).through
      (requireSettled r timeout) rfl rfl
    · exact fun x hfails => hfails.fails.ne_timeout _ rfl
    · exact fun hhindered => hhindered.unsent.ne_timeout _ rfl

theorem replies_settled (r : Remote σ) (clock : Clock) :
    Replies r.http.server clock (r.settledReading (clock.lasting r.http.limit.nanos))
      (r.http.Hindered "v2/deployments") (do return (← r.listDeployments).isEmpty) :=
  (r.http.replies_get clock "v2/deployments").through _

/-- A wait for deployments that returns has asked for listings alone, and they have decided it. -/
theorem deploymentWaitFor_settledBy {r : Remote σ} {timeout : Span} {clock : Clock} {now : Nat}
    {net : Net σ}
    (hreturns : (c.deploymentWaitFor r timeout clock now net).outcome.returns = true) :
    let step := c.deploymentWaitFor r timeout clock now net
    ∃ xs, Exchanges r.http.server net xs step.state ∧
      (∀ x ∈ xs, r.http.Sends "v2/deployments" x.request) ∧
      SettledBy r (clock.lasting r.http.limit.nanos) timeout xs step.outcome := by
  rw [deploymentWaitFor_eq, Run.bind_ofExcept_apply] at hreturns ⊢
  rw [Outcome.returns_through] at hreturns
  obtain ⟨xs, hxs, hend⟩ := (replies_settled r clock).awaitUntil_of_returns hreturns
  obtain ⟨hasks, hsettled⟩ := settledBy_of_polled timeout hend
  exact ⟨xs, hxs, hasks, hsettled⟩

section

variable (clock : Clock) (hinterval : 0 < c.pollInterval.nanos) {now : Nat} {timeout : Span}
  (hdeadline : now + timeout.nanos < instantLimit) (net : Net σ)
include hinterval hdeadline

theorem deploymentWaitFor_decided (r : Remote σ) :
    let limit := clock.lasting r.http.limit.nanos
    let step := c.deploymentWaitFor r timeout clock now net
    ∃ xs, Exchanges r.http.server net xs step.state ∧
      (∀ x ∈ xs, r.http.Sends "v2/deployments" x.request) ∧
      ((∀ n, clock.lasting n ≤ n) → ∀ x ∈ xs, x.time ≤ now + timeout.nanos) ∧
      Decided (r.Busy limit) (r.Lists limit · []) (r.FailsAt limit)
        (r.http.Hindered "v2/deployments") (.done ()) (.failed (.timeout ("[" ++ r.context.text ++
          "] deployments did not settle within " ++ timeout.text))) xs step.outcome := by
  rw [deploymentWaitFor_eq, Run.bind_ofExcept_apply]
  intro limit step
  obtain ⟨xs, hxs, -, htimes, hend⟩ :=
    (replies_settled r clock).awaitUntil (p := c.patience timeout) hinterval hdeadline net
  obtain ⟨hasks, hsettled⟩ := settledBy_of_polled timeout hend
  exact ⟨xs, hxs, hasks, htimes, hsettled⟩

theorem waitForEndpoint_decided (name : String) :
    let limit := clock.lasting c.http.limit.nanos
    let step := c.waitForEndpoint name timeout clock now net
    ∃ xs, Exchanges c.http.server net xs step.state ∧
      (∀ x ∈ xs, c.http.Sends ("service/" ++ name ++ "/") x.request) ∧
      ((∀ n, clock.lasting n ≤ n) → ∀ x ∈ xs, x.time ≤ now + timeout.nanos) ∧
      Decided (c.Down limit name) (c.Up limit name) (c.Unclear limit name)
        (c.http.Hindered ("service/" ++ name ++ "/")) (.done true) (.done false) xs
        step.outcome := by
  intro limit step
  have hreplies : Replies c.http.server clock (c.endpointReading limit name)
      (c.http.Hindered ("service/" ++ name ++ "/")) (c.endpointExists name) :=
    (c.http.replies_probe clock _).through _
  obtain ⟨xs, hxs, hread, htimes, hdecided⟩ :=
    hreplies.awaitUntil_decided endpointReading_definite
    (fun _ _ => endpointReading_returns) (fun _ _ => Client.Hindered.unique)
    (p := c.patience timeout) hinterval hdeadline net
  have hasks (x : Exchange) (hx : x ∈ xs) :
      c.http.Sends ("service/" ++ name ++ "/") x.request := by
    obtain ⟨_, _, ⟨hsent, -⟩, -⟩ := hread x hx
    exact hsent
  exact ⟨xs, hxs, hasks, htimes, hdecided.congr (fun _ => endpointReading_false_iff)
    (fun _ => endpointReading_true_iff) fun _ _ => endpointReading_failed_iff⟩

theorem waitForEndpointRemoval_decided (name : String) :
    let limit := clock.lasting c.http.limit.nanos
    let step := c.waitForEndpointRemoval name timeout clock now net
    ∃ xs, Exchanges c.http.server net xs step.state ∧
      (∀ x ∈ xs, c.http.Sends ("service/" ++ name ++ "/") x.request) ∧
      ((∀ n, clock.lasting n ≤ n) → ∀ x ∈ xs, x.time ≤ now + timeout.nanos) ∧
      Decided (c.Up limit name) (c.Down limit name) (c.Unclear limit name)
        (c.http.Hindered ("service/" ++ name ++ "/")) (.done true) (.done false) xs
        step.outcome := by
  intro limit step
  let reading := (c.endpointReading limit name).through fun up => .ok !up
  have hreplies : Replies c.http.server clock reading (c.http.Hindered ("service/" ++ name ++ "/"))
      (do return !(← c.endpointExists name)) :=
    ((c.http.replies_probe clock _).through _).through _
  have hflips (x : Exchange) (gone : Bool) :
      reading x (.done gone) ↔ c.endpointReading limit name x (.done !gone) := by
    change Reading.through _ _ x _ ↔ _
    rw [Reading.through_done_iff]
    simp only [Except.ok.injEq, Bool.not_eq_eq_eq_not, exists_eq_right]
  obtain ⟨xs, hxs, hread, htimes, hdecided⟩ := hreplies.awaitUntil_decided
    (endpointReading_definite.becomes _)
    (fun x o => Reading.returns_of_through fun o => endpointReading_returns)
    (fun _ _ => Client.Hindered.unique) (p := c.patience timeout) hinterval hdeadline net
  have hasks (x : Exchange) (hx : x ∈ xs) :
      c.http.Sends ("service/" ++ name ++ "/") x.request := by
    obtain ⟨_, _, ⟨_, ⟨hsent, -⟩, -⟩, -⟩ := hread x hx
    exact hsent
  refine ⟨xs, hxs, hasks, htimes, hdecided.congr ?_ ?_ ?_⟩
  · exact fun x => (hflips x false).trans endpointReading_true_iff
  · exact fun x => (hflips x true).trans endpointReading_false_iff
  · intro x fault
    change Reading.through _ _ x _ ↔ _
    rw [Reading.through_failed_iff, ← endpointReading_failed_iff]
    simp only [reduceCtorEq, and_false, exists_false, or_false]

end

/-- Whatever a server answers, the answers decide every wait of a configured cluster. A wait for
deployments is out of time just if all its listings were busy. -/
theorem waits_decided {s : Settings} {server : Server σ} {c : Cluster σ}
    (h : ofSettings server s = .ok c) (clock : Clock) {now : Nat} {timeout : Span}
    (hdeadline : now + timeout.nanos < instantLimit) (net : Net σ) :
    (∀ r : Remote σ, let limit := clock.lasting r.http.limit.nanos
      let step := c.deploymentWaitFor r timeout clock now net
      ∃ xs, Exchanges r.http.server net xs step.state ∧
        (∀ x ∈ xs, r.http.Sends "v2/deployments" x.request) ∧
        Decided (r.Busy limit) (r.Lists limit · []) (r.FailsAt limit)
          (r.http.Hindered "v2/deployments") (.done ()) (.failed (.timeout ("[" ++ r.context.text ++
            "] deployments did not settle within " ++ timeout.text))) xs step.outcome ∧
        ((∃ text, step.outcome = .failed (.timeout text)) ↔
          xs ≠ [] ∧ ∀ x ∈ xs, r.Busy limit x)) ∧
    (∀ name, let limit := clock.lasting s.requestTimeout.nanos
      let step := c.waitForEndpoint name timeout clock now net
      ∃ xs, Exchanges server net xs step.state ∧
        (∀ x ∈ xs, c.http.Sends ("service/" ++ name ++ "/") x.request) ∧
        Decided (c.Down limit name) (c.Up limit name) (c.Unclear limit name)
          (c.http.Hindered ("service/" ++ name ++ "/")) (.done true) (.done false) xs
          step.outcome) ∧
    (∀ name, let limit := clock.lasting s.requestTimeout.nanos
      let step := c.waitForEndpointRemoval name timeout clock now net
      ∃ xs, Exchanges server net xs step.state ∧
        (∀ x ∈ xs, c.http.Sends ("service/" ++ name ++ "/") x.request) ∧
        Decided (c.Up limit name) (c.Down limit name) (c.Unclear limit name)
          (c.http.Hindered ("service/" ++ name ++ "/")) (.done true) (.done false) xs
          step.outcome) := by
  obtain ⟨hvalid, hpoll, -, -⟩ := times_of_ofSettings h
  have hinterval : 0 < s.pollInterval.nanos := (Settings.pos_of_validate hvalid).1
  obtain ⟨rfl, hlimit⟩ := http_of_ofSettings h
  rw [← hpoll] at hinterval
  rw [← hlimit]
  refine ⟨fun r => ?_, fun name => ?_, fun name => ?_⟩
  · obtain ⟨xs, hxs, hasks, -, hdecided⟩ :=
      c.deploymentWaitFor_decided clock hinterval hdeadline net r
    refine ⟨xs, hxs, hasks, hdecided, hdecided.timeout_iff ?_ ?_⟩
    · exact fun x text hfails => hfails.fails.ne_timeout text rfl
    · exact fun text hhindered => hhindered.unsent.ne_timeout text rfl
  · obtain ⟨xs, hxs, hasks, -, hdecided⟩ :=
      c.waitForEndpoint_decided clock hinterval hdeadline net name
    exact ⟨xs, hxs, hasks, hdecided⟩
  · obtain ⟨xs, hxs, hasks, -, hdecided⟩ :=
      c.waitForEndpointRemoval_decided clock hinterval hdeadline net name
    exact ⟨xs, hxs, hasks, hdecided⟩

/-- A server that lists a deployment, then none, has an endpoint that comes up, and then breaks. -/
def breakingServer : Server Nat := fun _ _ n =>
  let reply (status : Status) (text : String) : Reply × Nat :=
    (⟨1, .response status (Text.toBytes text) .complete⟩, n + 1)
  match n with
  | 0 => reply 200 "[\x7b\"id\":\"d\",\"version\":\"1\"\x7d]"
  | 1 => reply 200 "[]"
  | 2 => reply 503 ""
  | 3 => reply 200 ""
  | _ => reply 500 ""

def breakingCluster : Cluster Nat :=
  configured breakingServer (endlessUrl [""]) (.forCluster "http://c")

def breakingRemote : Remote Nat :=
  ⟨breakingCluster.http.rebased (endlessUrl ["marathon", ""]), .root⟩

theorem ofSettings_breaking :
    ofSettings breakingServer (.forCluster "http://c") = .ok breakingCluster :=
  ofSettings_eq (Json.eq_ok_of_toOption (by decide +kernel))
    (Json.eq_ok_of_toOption (by decide +kernel)) rfl breakingServer

/-- The deployments settle and the endpoint comes up. What breaks it is no sign of its removal. -/
theorem waits_decided_breaking :
    let c := breakingCluster
    let r := breakingRemote
    let limit := Clock.exact.lasting (Settings.forCluster "http://c").requestTimeout.nanos
    let timeout := Span.ofSecs 60
    0 + timeout.nanos < instantLimit ∧
      (∃ xs, Exchanges breakingServer ⟨0, []⟩ xs
          (c.deploymentWaitFor r timeout .exact 0 ⟨0, []⟩).state ∧
        Turns (r.Busy limit) (r.Lists limit · []) xs) ∧
      (∃ xs, Exchanges breakingServer ⟨2, []⟩ xs
          (c.waitForEndpoint "s" timeout .exact 0 ⟨2, []⟩).state ∧
        Turns (c.Down limit "s") (c.Up limit "s") xs) ∧
      ∃ xs, Exchanges breakingServer ⟨3, []⟩ xs
          (c.waitForEndpointRemoval "s" timeout .exact 0 ⟨3, []⟩).state ∧
        Turns (c.Up limit "s") (c.Unclear limit "s" ·
          (.unexpectedStatus 500 "probing service endpoint s")) xs := by
  intro c r limit timeout
  have hdeadline : 0 + timeout.nanos < instantLimit := by decide +kernel
  have hdecided (n : Nat) := waits_decided ofSettings_breaking .exact hdeadline ⟨n, []⟩
  refine ⟨hdeadline, ?_, ?_, ?_⟩
  · have hdone : (c.deploymentWaitFor r timeout .exact 0 ⟨0, []⟩).outcome = .done () := by
      decide +kernel
    obtain ⟨xs, hxs, -, hsettled, -⟩ := (hdecided 0).1 r
    exact ⟨xs, hxs, hsettled.met_iff.mp hdone⟩
  · have hdone : (c.waitForEndpoint "s" timeout .exact 0 ⟨2, []⟩).outcome = .done true := by
      decide +kernel
    obtain ⟨xs, hxs, -, hup⟩ := (hdecided 2).2.1 "s"
    exact ⟨xs, hxs, hup.met_iff.mp hdone⟩
  · have hfailed : (c.waitForEndpointRemoval "s" timeout .exact 0 ⟨3, []⟩).outcome =
        .failed (.unexpectedStatus 500 "probing service endpoint s") := by decide +kernel
    have hsent : (c.waitForEndpointRemoval "s" timeout .exact 0 ⟨3, []⟩).state.sent ≠ [] := by
      decide +kernel
    obtain ⟨xs, hxs, -, hgone⟩ := (hdecided 3).2.2 "s"
    refine ⟨xs, hxs, ((hgone.failed_iff _ nofun).mp hfailed).resolve_right ?_⟩
    rintro ⟨rfl, -⟩
    rw [hxs.sent] at hsent
    exact hsent rfl

end Cluster

end Rollout
