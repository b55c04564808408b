import Rollout.Proofs.Cluster.Upkeep
import Rollout.Proofs.Scenario.Progress
/-!
# Cleanup after scenarios

After the body of a scenario every cleanup step is made once, in order, whatever the body and the
steps before it have come to; only then the outcome of the body counts, and after a success the
first failure of the cleanup. Scenarios in a list are made in turn, so that one is cleaned up before
the next one starts.
-/

namespace Rollout.Scenario

open Http Time

variable {σ : Type}

/-- The steps of the cleanup: leftovers are stopped if the scenario asks for it, the framework app
is removed from the cluster's own orchestrator, and the nested orchestrator loses all its apps. -/
def cleanupSteps (s : Scenario σ) (c : Cluster σ) : List (Run (Net σ) Fault Unit) :=
  (if s.stopsDeployments then [stopLeftovers c] else []) ++
    [removeFrameworkApp c, c.withNested c.deleteAllAppsWait]

/-- What these steps do, by the requests that they make and the replies to them. -/
def cleanupActs (s : Scenario σ) (c : Cluster σ) (limit : Nat) :
    List (Net σ → Net σ → Outcome Fault Unit → Prop) :=
  (if s.stopsDeployments then [c.StopsDeployments limit] else []) ++
    [c.DismissesApp limit "v2/apps/python-http", c.EmptiesNested limit]

section

variable {c : Cluster σ} {clock : Clock} {now : Nat} {net : Net σ}

theorem stopLeftovers_stops (h : (stopLeftovers c clock now net).outcome.returns = true) :
    c.StopsDeployments (clock.lasting c.http.limit.nanos) net (stopLeftovers c clock now net).state
      (stopLeftovers c clock now net).outcome := by
  refine Cluster.below_of_remote .root c.stopAllDeployments (fun base hr => ?_) h
  exact Cluster.stopAllDeployments_empties hr

theorem removeFrameworkApp_dismisses
    (h : (removeFrameworkApp c clock now net).outcome.returns = true) :
    c.DismissesApp (clock.lasting c.http.limit.nanos) "v2/apps/python-http" net
      (removeFrameworkApp c clock now net).state (removeFrameworkApp c clock now net).outcome := by
  have hpath : "v2/apps/python-http" = "v2/apps/" ++ Wire.pathId FrameworkApp.appId := by decide
  rw [hpath]
  refine Cluster.below_of_remote .root (fun r => c.removeAppWait r FrameworkApp.appId)
    (fun base hr => ?_) h
  exact Cluster.removeAppWait_dismisses hr

theorem clearNested_empties
    (h : (c.withNested c.deleteAllAppsWait clock now net).outcome.returns = true) :
    c.EmptiesNested (clock.lasting c.http.limit.nanos) net
      (c.withNested c.deleteAllAppsWait clock now net).state
      (c.withNested c.deleteAllAppsWait clock now net).outcome := by
  refine Cluster.below_of_remote c.nestedContext c.deleteAllAppsWait (fun base hr => ?_) h
  exact Cluster.deleteAllAppsWait_empties hr

end

theorem cleanupSteps_act (s : Scenario σ) (c : Cluster σ) (clock : Clock) :
    List.Forall₂ (fun act x => ∀ now net, (x clock now net).outcome.returns = true →
        act net (x clock now net).state (x clock now net).outcome)
      (s.cleanupActs c (clock.lasting c.http.limit.nanos)) (s.cleanupSteps c) := by
  refine List.rel_append ?_ (.cons (fun _ _ => removeFrameworkApp_dismisses)
    (.cons (fun _ _ => clearNested_empties) .nil))
  cases s.stopsDeployments with
  | true => exact .cons (fun _ _ => stopLeftovers_stops) .nil
  | false => exact .nil

theorem cleanup_goesThrough (s : Scenario σ) (c : Cluster σ) :
    Run.GoesThrough (s.cleanup c) (s.cleanupSteps c) := by
  refine .both ?_ (.both (.single _) (.single _))
  cases s.stopsDeployments with
  | true => exact .single _
  | false => exact .nothing

theorem follows_of_mem_cleanupSteps (s : Scenario σ) (c : Cluster σ)
    {x : Run (Net σ) Fault Unit} (hx : x ∈ s.cleanupSteps c) : Run.Follows sending x := by
  have hc : c.Keeps sending := .of_transmit fun base => (c.http.rebased base).transmit_sending
  unfold cleanupSteps at hx
  split at hx <;> simp only [List.mem_append, List.mem_cons, List.not_mem_nil, or_false] at hx
  · rcases hx with rfl | rfl | rfl
    · exact follows_stopLeftovers hc
    · exact follows_removeFrameworkApp hc
    · exact follows_clearNested hc
  · rcases hx with hx | rfl | rfl
    · cases hx
    · exact follows_removeFrameworkApp hc
    · exact follows_clearNested hc

section

variable (c : Cluster σ) (t : Timings) (clock : Clock)

/-- The cleanup steps of a scenario, made in turn from the end of its body on. -/
def cleanupTurns (s : Scenario σ) (now : Nat) (net : Net σ) :
    List (Run.Turn (Net σ) Fault Unit) :=
  let body := s.body c t clock now net
  Run.inTurn clock (s.cleanupSteps c) (now + body.elapsed) body.state

/-- What is reported of a scenario that was made. -/
def report (s : Scenario σ) (turn : Run.Turn (Net σ) Fault Unit) : Report where
  name := s.name
  startedAt := Report.civil turn.start
  elapsed := .ofNanos turn.step.elapsed
  fault := turn.step.outcome.fault?.map Fault.message

/-- A scenario with its body and then its cleanup. -/
structure Cleaned (s : Scenario σ) (now : Nat) (net : Net σ) : Prop where
  /-- A fault of the body counts, else the first one of the cleanup. A panic goes on after it. -/
  performed : s.perform c t clock now net =
    ⟨(s.body c t clock now net).outcome.orFault
        (Run.Turn.firstFault? (s.cleanupTurns c t clock now net)),
      Run.Turn.final (s.body c t clock now net).state (s.cleanupTurns c t clock now net),
      (s.body c t clock now net).elapsed + Run.Turn.total (s.cleanupTurns c t clock now net)⟩
  /-- Each step makes the requests that it is there for. -/
  made : List.Forall₂ (fun act turn => act turn.before turn.step.state turn.step.outcome)
    (s.cleanupActs c (clock.lasting c.http.limit.nanos)) (s.cleanupTurns c t clock now net)
  /-- A step only adds to what was sent, and in its own time. -/
  sent : ∀ turn ∈ s.cleanupTurns c t clock now net,
    sending.Holds turn.start turn.before turn.finish turn.step.state
  reported : s.run c t clock now net =
    ⟨match (s.perform c t clock now net).outcome with
      | .panicked text => .panicked text
      | _ => .done (s.report ⟨now, net, s.perform c t clock now net⟩),
      (s.perform c t clock now net).state, (s.perform c t clock now net).elapsed⟩

theorem run_apply (s : Scenario σ) (now : Nat) (net : Net σ) :
    s.run c t clock now net = ⟨match (s.perform c t clock now net).outcome with
      | .panicked text => .panicked text
      | _ => .done (s.report ⟨now, net, s.perform c t clock now net⟩),
      (s.perform c t clock now net).state, (s.perform c t clock now net).elapsed⟩ := by
  unfold run
  simp only [Run.bind_apply, Run.now, Run.pure_apply, Run.attempt_apply, Nat.add_zero, Nat.zero_add]
  rcases s.perform c t clock now net with ⟨_ | e | text, u, n⟩
  · simp [report, Outcome.fault?]
  · simp [report, Outcome.fault?]
  · rfl

theorem run_of_returns {s : Scenario σ} {now : Nat} {net : Net σ}
    (h : (s.perform c t clock now net).outcome.returns = true) :
    s.run c t clock now net = ⟨.done (s.report ⟨now, net, s.perform c t clock now net⟩),
      (s.perform c t clock now net).state, (s.perform c t clock now net).elapsed⟩ := by
  rw [run_apply]
  cases houtcome : (s.perform c t clock now net).outcome with
  | done _ => rfl
  | failed fault => rfl
  | panicked text =>
      rw [houtcome] at h
      cases h

/-- Whatever the body does, its cleanup is made to the end, if none of it panics. -/
theorem cleaned_of_allReturn {s : Scenario σ} {now : Nat} {net : Net σ}
    (h : Run.Turn.allReturn (s.cleanupTurns c t clock now net)) : s.Cleaned c t clock now net := by
  have hcleanup := (s.cleanup_goesThrough c).concludes h
  refine ⟨?_, Run.forall₂_inTurn (s.cleanupSteps_act c clock) h, ?_,
    s.run_apply c t clock now net⟩
  · unfold perform
    rw [Run.withCleanup_apply, hcleanup]
    · simp only [Run.Turn.conclusion, Outcome.fault?_ofFault]
      rfl
    · rw [hcleanup]
      exact Outcome.returns_ofFault _
  · intro turn hturn
    exact Run.follows_of_mem_inTurn (fun x hx => s.follows_of_mem_cleanupSteps c hx) hturn

theorem cleaned_of_returns {s : Scenario σ} {now : Nat} {net : Net σ}
    (h : (s.perform c t clock now net).outcome.returns = true) : s.Cleaned c t clock now net :=
  cleaned_of_allReturn c t clock
    ((s.cleanup_goesThrough c).returns (Run.returns_of_withCleanup h).2)

/-- The scenarios of a list with their cleanups, made in turn. -/
def scenarioTurns (scenarios : List (Scenario σ)) (now : Nat) (net : Net σ) :
    List (Run.Turn (Net σ) Fault Unit) :=
  Run.inTurn clock (scenarios.map fun s => s.perform c t) now net

theorem length_scenarioTurns (scenarios : List (Scenario σ)) (now : Nat) (net : Net σ) :
    (scenarioTurns c t clock scenarios now net).length = scenarios.length := by
  unfold scenarioTurns
  rw [Run.length_inTurn, List.length_map]

theorem cleaned_of_mem_zip {scenarios : List (Scenario σ)} {now : Nat} {net : Net σ}
    (hall : Run.Turn.allReturn (scenarioTurns c t clock scenarios now net)) {s : Scenario σ}
    {turn : Run.Turn (Net σ) Fault Unit}
    (hturn : (s, turn) ∈ scenarios.zip (scenarioTurns c t clock scenarios now net)) :
    turn.step = s.perform c t clock turn.start turn.before ∧
      s.Cleaned c t clock turn.start turn.before := by
  have hstep := Run.step_of_mem_zip_inTurn hturn
  refine ⟨hstep, cleaned_of_returns c t clock ?_⟩
  rw [← hstep]
  exact hall turn (List.of_mem_zip hturn).2

theorem mapEach_run (scenarios : List (Scenario σ)) (now : Nat) (net : Net σ)
    (h : Run.Turn.allReturn (scenarioTurns c t clock scenarios now net)) :
    Run.mapEach scenarios (fun s => s.run c t) clock now net =
      ⟨.done (List.zipWith report scenarios (scenarioTurns c t clock scenarios now net)),
        Run.Turn.final net (scenarioTurns c t clock scenarios now net),
        Run.Turn.total (scenarioTurns c t clock scenarios now net)⟩ := by
  -- Each scenario is made from where the ones before it have ended, be they failed or not.
  induction scenarios generalizing now net with
  | nil => rfl
  | cons s rest ih =>
      have hfirst := h _ List.mem_cons_self
      have hrest := ih (now + (s.perform c t clock now net).elapsed)
        (s.perform c t clock now net).state fun turn hturn => h turn (List.mem_cons_of_mem _ hturn)
      show (s.run c t >>= fun r => Run.mapEach rest (fun s => s.run c t) >>= fun rs =>
        pure (r :: rs)) clock now net = _
      rw [Run.bind_apply, run_of_returns c t clock hfirst]
      simp only
      rw [Run.bind_apply, hrest]
      rfl

section

variable {c t clock} {scenarios : List (Scenario σ)} {now : Nat} {net : Net σ}

theorem runAll_of_failed {fault : Fault} (h : (setUp c clock now net).outcome = .failed fault) :
    runAll scenarios c t clock now net =
      ⟨.failed fault, (setUp c clock now net).state, (setUp c clock now net).elapsed⟩ := by
  unfold runAll
  rw [Run.bind_apply]
  rcases hstep : setUp c clock now net with ⟨outcome, u, n⟩
  rw [hstep] at h
  cases h
  rfl

theorem runAll_of_done (h : (setUp c clock now net).outcome = .done ()) :
    runAll scenarios c t clock now net =
      (Run.mapEach scenarios (fun s => s.run c t) clock (now + (setUp c clock now net).elapsed)
        (setUp c clock now net).state).delayed (setUp c clock now net).elapsed := by
  unfold runAll
  rw [Run.bind_apply]
  rcases hstep : setUp c clock now net with ⟨outcome, u, n⟩
  rw [hstep] at h
  cases h
  rfl

end

/-- Every scenario is cleaned up whatever its body does, and its cleanup is over before the next
scenario starts. Nothing is made of a list whose set-up fails. -/
theorem runAll_cleansUp :
    (∀ (s : Scenario σ) now net, Run.Turn.allReturn (s.cleanupTurns c t clock now net) →
      s.Cleaned c t clock now net) ∧
    ∀ (scenarios : List (Scenario σ)) now net,
      let first := setUp c clock now net
      let turns := scenarioTurns c t clock scenarios (now + first.elapsed) first.state
      (∀ fault, first.outcome = .failed fault →
        runAll scenarios c t clock now net = ⟨.failed fault, first.state, first.elapsed⟩) ∧
      (first.outcome = .done () → Run.Turn.allReturn turns →
        runAll scenarios c t clock now net = ⟨.done (List.zipWith report scenarios turns),
          Run.Turn.final first.state turns, first.elapsed + Run.Turn.total turns⟩ ∧
        turns.length = scenarios.length ∧ ∀ s turn, (s, turn) ∈ scenarios.zip turns →
          turn.step = s.perform c t clock turn.start turn.before ∧
            s.Cleaned c t clock turn.start turn.before) := by
  refine ⟨fun s now net h => cleaned_of_allReturn c t clock h, ?_⟩
  intro scenarios now net first turns
  refine ⟨fun fault hfault => runAll_of_failed hfault, fun hdone hall => ⟨?_,
    length_scenarioTurns c t clock scenarios _ _,
    fun s turn hturn => cleaned_of_mem_zip c t clock hall hturn⟩⟩
  rw [runAll_of_done hdone, mapEach_run c t clock scenarios _ _ hall]
  rfl

end

/-- A server on which the nested orchestrator is registered and little else is found. -/
def bareServer : Server Unit := fun _ r u =>
  let reply (status : Status) (text : String) : Reply × Unit :=
    (⟨1, .response status (Text.toBytes text) .complete⟩, u)
  match r.method, r.url.path with
  | .get, .segments ["mesos", "master", "frameworks"] =>
    reply 200 "\x7b\"frameworks\":[\x7b\"id\":\"1\",\"name\":\"m\",\"active\":true\x7d]\x7d"
  | .get, .segments ["service", "m", ""] => reply 200 ""
  | .get, .segments ["marathon", "v2", "info"] =>
    reply 200 "\x7b\"name\":\"marathon\",\"version\":\"1\"\x7d"
  | _, _ => reply 404 "gone"

def bare : Cluster Unit where
  http :=
    { server := bareServer
      base := ⟨"http", some ⟨"", none, .domain "c", none⟩, .segments [""], none, none⟩
      token := none
      limit := .ofSecs 1 }
  nestedServiceName := "m"
  pollInterval := .ofSecs 1
  deploymentWaitTimeout := .ofSecs 1
  serviceEndpointTimeout := .ofSecs 1

def abandoned : Scenario Unit := ⟨"abandoned", "", true, fun _ _ => .panic "lost"⟩

/-- A panic waits for three steps, of which two fail; a success gives way to their first fault. -/
theorem runAll_cleansUp_bare :
    let net : Net Unit := ⟨(), []⟩
    let quiet : Scenario Unit := ⟨"quiet", "", true, fun _ _ => pure ()⟩
    let turns := abandoned.cleanupTurns bare .usual .exact 0 net
    turns.map (fun turn => turn.step.outcome.fault?.isSome) = [true, false, true] ∧
      (abandoned.perform bare .usual .exact 0 net) =
        ⟨.panicked "lost", Run.Turn.final net turns, Run.Turn.total turns⟩ ∧
      (Run.Turn.final net turns).sent.map (fun x => (x.request.method, x.request.url.target)) =
        [(.get, "/marathon/v2/deployments"), (.delete, "/marathon/v2/apps/python-http?force=true"),
          (.get, "/service/m/v2/apps")] ∧
      ∃ r, (runAll [quiet] bare .usual .exact 0 net).outcome = .done [r] ∧
        r.fault = some "Not found: gone" := by
  intro net quiet turns
  have hturns : Run.Turn.allReturn turns := by
    unfold Run.Turn.allReturn turns net
    decide +kernel
  have h := runAll_cleansUp bare .usual .exact
  have hpanic := (h.1 abandoned 0 net hturns).performed
  have hlist := ((h.2 [quiet] 0 net).2 (by decide +kernel)
    (by unfold Run.Turn.allReturn quiet net; decide +kernel)).1
  refine ⟨by decide +kernel, ?_, by decide +kernel, _, congrArg Step.outcome hlist,
    by decide +kernel⟩
  rw [hpanic]
  exact congrArg _ (Nat.zero_add _)

end Rollout.Scenario
