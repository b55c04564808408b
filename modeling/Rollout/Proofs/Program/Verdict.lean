import Rollout.Program.Session
import Rollout.Proofs.Program.Arguments
import Rollout.Proofs.Scenario.Choice
import Rollout.Proofs.Scenario.Cleanup
/-!
# The verdict of a session

A session succeeds only if it has been prepared without a fault, has set the cluster up and has
seen every scenario pass that it was asked for. Until it is prepared nothing is sent, and what it
prints in the end counts what it has run.
-/

namespace Rollout

open Http Time

variable {σ : Type}

namespace Report

/-- The last line of a summary. -/
def countLine (passed failed : Nat) : String :=
  toString passed ++ " passed, " ++ toString failed ++ " failed"

def passedCount (reports : List Report) : Nat := (reports.filter passed).length

theorem passedCount_add_failedCount (reports : List Report) :
    passedCount reports + failedCount reports = reports.length :=
  (List.length_eq_length_filter_add passed).symm

theorem failedCount_eq_zero_iff {reports : List Report} :
    failedCount reports = 0 ↔ reports.all passed = true := by
  unfold failedCount
  rw [List.length_eq_zero_iff, List.filter_eq_nil_iff, List.all_eq_true]
  simp

theorem summary_eq {reports : List Report} (h : reports ≠ []) (color : Bool) :
    summary color reports = "\n".intercalate (reports.map (line color)) ++ "\n"
      ++ countLine (passedCount reports) (failedCount reports) := by
  have hpassed : reports.length - failedCount reports = passedCount reports := by
    have hsum := passedCount_add_failedCount reports
    omega
  have hlines : reports.map (line color) ≠ [] := fun hnil => h (List.map_eq_nil_iff.mp hnil)
  unfold summary
  simp only [hpassed]
  rw [String.intercalate_append_of_ne_nil hlines (List.cons_ne_nil _ _),
    String.intercalate_singleton]
  rfl

end Report

theorem Outcome.eq_done_iff {ε : Type} {o : Outcome ε Unit} :
    o = .done () ↔ o.returns = true ∧ o.fault?.isNone = true := by
  cases o <;> simp [Outcome.returns, Outcome.fault?]

theorem Outcome.orFault_eq_done_iff {ε : Type} {o : Outcome ε Unit} {fault? : Option ε} :
    o.orFault fault? = .done () ↔ o = .done () ∧ fault? = none := by
  cases o <;> cases fault? <;> simp [Outcome.orFault]

theorem Outcome.returns_of_done {ε α : Type} {o : Outcome ε α} {a : α} (h : o = .done a) :
    o.returns = true :=
  h ▸ rfl

namespace Scenario

theorem passed_report (s : Scenario σ) (turn : Run.Turn (Net σ) Fault Unit) :
    (s.report turn).passed = turn.step.outcome.fault?.isNone := by
  unfold report Report.passed
  exact Option.isNone_map

theorem all_passed_iff {scenarios : List (Scenario σ)}
    {turns : List (Run.Turn (Net σ) Fault Unit)}
    (hlength : turns.length = scenarios.length) :
    (List.zipWith report scenarios turns).all Report.passed = true ↔
      ∀ turn ∈ turns, turn.step.outcome.fault?.isNone = true := by
  induction scenarios generalizing turns with
  | nil =>
      rw [List.length_eq_zero_iff.mp hlength]
      exact ⟨fun _ => nofun, fun _ => rfl⟩
  | cons s rest ih =>
      cases turns with
      | nil => cases hlength
      | cons turn later =>
          have hrest := ih (Nat.succ.inj hlength)
          rw [List.zipWith_cons_cons, List.all_cons, Bool.and_eq_true, hrest, passed_report,
            List.forall_mem_cons]

theorem map_name_zipWith_report {scenarios : List (Scenario σ)}
    {turns : List (Run.Turn (Net σ) Fault Unit)} (hlength : turns.length = scenarios.length) :
    (List.zipWith report scenarios turns).map Report.name = scenarios.map Scenario.name := by
  induction scenarios generalizing turns with
  | nil => rfl
  | cons s rest ih =>
      cases turns with
      | nil => cases hlength
      | cons turn later =>
          rw [List.zipWith_cons_cons, List.map_cons, List.map_cons, ih (Nat.succ.inj hlength)]
          rfl

section

variable (c : Cluster σ) (t : Timings) (clock : Clock)

/-- A scenario passes where its body does and every step of the cleanup that follows. -/
structure Passes (s : Scenario σ) (now : Nat) (net : Net σ) : Prop where
  body : (s.body c t clock now net).outcome = .done ()
  cleanup : ∀ turn ∈ s.cleanupTurns c t clock now net, turn.step.outcome = .done ()

theorem perform_eq_done_iff {s : Scenario σ} {now : Nat} {net : Net σ} :
    (s.perform c t clock now net).outcome = .done () ↔ s.Passes c t clock now net := by
  constructor
  · intro hdone
    have hreturns := Outcome.returns_of_done hdone
    have hall := (s.cleanup_goesThrough c).returns (Run.returns_of_withCleanup hreturns).2
    rw [(cleaned_of_allReturn c t clock hall).performed] at hdone
    obtain ⟨hbody, hfault⟩ := Outcome.orFault_eq_done_iff.mp hdone
    refine ⟨hbody, fun turn hturn => Outcome.eq_done_iff.mpr ⟨hall turn hturn, ?_⟩⟩
    rw [Option.isNone_iff_eq_none]
    exact List.findSome?_eq_none_iff.mp hfault turn hturn
  · intro hpasses
    have hturns (turn) (hturn : turn ∈ s.cleanupTurns c t clock now net) :=
      Outcome.eq_done_iff.mp (hpasses.cleanup turn hturn)
    rw [(cleaned_of_allReturn c t clock fun turn hturn => (hturns turn hturn).1).performed]
    refine Outcome.orFault_eq_done_iff.mpr ⟨hpasses.body, List.findSome?_eq_none_iff.mpr ?_⟩
    exact fun turn hturn => Option.isNone_iff_eq_none.mp (hturns turn hturn).2

theorem allReturn_of_mapEach_run (scenarios : List (Scenario σ)) (now : Nat) (net : Net σ)
    (h : (Run.mapEach scenarios (fun s => s.run c t) clock now net).outcome.returns = true) :
    Run.Turn.allReturn (scenarioTurns c t clock scenarios now net) := by
  induction scenarios generalizing now net with
  | nil => exact nofun
  | cons s rest ih =>
      change ((s.run c t >>= fun r => Run.mapEach rest (fun s => s.run c t) >>= fun rs =>
        pure (r :: rs)) clock now net).outcome.returns = true at h
      have hperform : (s.perform c t clock now net).outcome.returns = true := by
        have hrun := Run.returns_of_bind h
        rw [run_apply] at hrun
        cases houtcome : (s.perform c t clock now net).outcome with
        | done _ => rfl
        | failed fault => rfl
        | panicked text =>
            rw [houtcome] at hrun
            exact hrun
      rw [Run.bind_apply, run_of_returns c t clock hperform] at h
      have hrest := ih _ _ (Run.returns_of_bind h)
      exact List.forall_mem_cons.mpr ⟨hperform, hrest⟩

variable {c t clock} {scenarios : List (Scenario σ)} {now : Nat} {net : Net σ}

theorem allReturn_of_runAll (hdone : (setUp c clock now net).outcome = .done ())
    (h : (runAll scenarios c t clock now net).outcome.returns = true) :
    let first := setUp c clock now net
    Run.Turn.allReturn (scenarioTurns c t clock scenarios (now + first.elapsed) first.state) := by
  rw [runAll_of_done hdone] at h
  exact allReturn_of_mapEach_run c t clock scenarios _ _ h

end

end Scenario

namespace Session

/-- Everything is in place before the first request: the settings of the last file that is named
load and take what the environment says, every name is that of a scenario, and the settings
describe a cluster. -/
structure Prepared (server : Server σ) (around : Surroundings) (a : Arguments) (s : Settings)
    (scenarios : List (Scenario σ)) (c : Cluster σ) : Prop where
  loaded : settings around (a.values "settings").getLast? = .ok s
  chosen : Scenario.Chosen a.scenarioNames scenarios
  configured : Cluster.ofSettings server s = .ok c

/-- How a session ends whose scenarios have come to this. -/
def concluded (color : Bool) (s : Settings) (opening : Utterance) :
    Outcome Fault (List Report) → Outcome Fault (Option Settings × Ending)
  | .done reports =>
    .done (some s, ⟨reports.all Report.passed,
      [opening, .print (Report.summary color reports)]⟩)
  | .failed fault => .done (some s, ⟨false, [opening, aborted fault]⟩)
  | .panicked text => .panicked text

section

variable {server : Server σ} {around : Surroundings} {color : Bool} {arguments : List String}
  {clock : Clock} {now : Nat} {net : Net σ}
  (hversion : (Arguments.parse arguments).values "version" = [])
  (hlist : (Arguments.parse arguments).values "list" = [])
include hversion hlist

theorem request_ofArguments : Request.ofArguments (.parse arguments) =
    .run ((Arguments.parse arguments).values "settings").getLast?
      (Arguments.parse arguments).scenarioNames := by
  unfold Request.ofArguments
  rw [Arguments.names_get?_scenario]
  simp only [Arguments.get?_eq_getLast?, hversion, hlist]
  rfl

theorem run_of_prepared {s : Settings} {scenarios : List (Scenario σ)} {c : Cluster σ}
    (h : Prepared server around (.parse arguments) s scenarios c) :
    let made := Scenario.runAll scenarios c (.ofSettings s) clock now net
    run server around color arguments clock now net =
      ⟨concluded color s (announcement scenarios c) made.outcome, made.state,
        made.elapsed⟩ := by
  intro made
  have hprepare : prepare server s (Arguments.parse arguments).scenarioNames =
      .ok (scenarios, c) := by
    unfold prepare
    rw [Scenario.select_eq_ok_iff.mpr h.chosen, h.configured]
    rfl
  unfold run
  simp only [request_ofArguments hversion hlist, h.loaded, runNamed, hprepare, Run.bind_apply,
    Run.attempt_apply]
  unfold made
  rcases Scenario.runAll scenarios c (.ofSettings s) clock now net with
    ⟨reports | fault | text, later, n⟩ <;> rfl

theorem run_of_unprepared
    (h : ∀ s scenarios c, ¬ Prepared server around (.parse arguments) s scenarios c) :
    ∃ used said, run server around color arguments clock now net =
      ⟨.done (used, ⟨false, said⟩), net, 0⟩ := by
  unfold run
  rw [request_ofArguments hversion hlist]
  simp only
  cases hsettings : settings around ((Arguments.parse arguments).values "settings").getLast? with
  | error fault => exact ⟨_, _, rfl⟩
  | ok s =>
      cases hprepare : prepare server s (Arguments.parse arguments).scenarioNames with
      | error fault =>
          refine ⟨some s, [aborted fault], ?_⟩
          simp only [runNamed, hprepare]
          rfl
      | ok ready =>
          unfold prepare at hprepare
          obtain ⟨scenarios, hselect, hrest⟩ := Json.bind_eq_ok.mp hprepare
          obtain ⟨c, hcluster, -⟩ := Json.bind_eq_ok.mp hrest
          exact absurd ⟨hsettings, Scenario.select_eq_ok_iff.mp hselect, hcluster⟩
            (h s scenarios c)

end

/-- What a session that has run its scenarios has done and said: they were made in turn after the
set-up, there is one report on each of them in their order, and the last line that is printed counts
the reports. The session succeeds if that line counts no failure. -/
structure Accounted (color : Bool) (s : Settings) (scenarios : List (Scenario σ)) (c : Cluster σ)
    (clock : Clock) (first : Step (Net σ) Fault Unit) (turns : List (Run.Turn (Net σ) Fault Unit))
    (step : Step (Net σ) Fault (Option Settings × Ending)) : Prop where
  made : step.state = Run.Turn.final first.state turns ∧
    step.elapsed = first.elapsed + Run.Turn.total turns
  one_each : turns.length = scenarios.length
  /-- A turn is that of its scenario, which is its body with the cleanup after it. -/
  performed : ∀ x turn, (x, turn) ∈ scenarios.zip turns →
    turn.step = x.perform c (.ofSettings s) clock turn.start turn.before ∧
      x.Cleaned c (.ofSettings s) clock turn.start turn.before
  told : ∃ reports passed failed lines, reports = List.zipWith Scenario.report scenarios turns ∧
    reports.map Report.name = scenarios.map Scenario.name ∧
    passed = (reports.filter Report.passed).length ∧ passed + failed = reports.length ∧
    step.outcome = .done (some s, ⟨failed == 0, [announcement scenarios c,
      .print (lines ++ "\n" ++ Report.countLine passed failed)]⟩)

/-- The scenarios of a session, made in turn from the end of its set-up on. -/
def turns (c : Cluster σ) (s : Settings) (clock : Clock) (scenarios : List (Scenario σ))
    (now : Nat) (net : Net σ) : List (Run.Turn (Net σ) Fault Unit) :=
  let first := Scenario.setUp c clock now net
  Scenario.scenarioTurns c (.ofSettings s) clock scenarios (now + first.elapsed) first.state

theorem length_turns (c : Cluster σ) (s : Settings) (clock : Clock)
    (scenarios : List (Scenario σ)) (now : Nat) (net : Net σ) :
    (turns c s clock scenarios now net).length = scenarios.length :=
  Scenario.length_scenarioTurns c _ clock scenarios _ _

theorem forall_done_iff {c : Cluster σ} {s : Settings} {clock : Clock}
    {scenarios : List (Scenario σ)} {now : Nat} {net : Net σ} :
    (∀ turn ∈ turns c s clock scenarios now net, turn.step.outcome = .done ()) ↔
      ∀ x turn, (x, turn) ∈ scenarios.zip (turns c s clock scenarios now net) →
        x.Passes c (.ofSettings s) clock turn.start turn.before := by
  constructor
  · intro hall x turn hturn
    rw [← Scenario.perform_eq_done_iff, ← Run.step_of_mem_zip_inTurn hturn]
    exact hall turn (List.of_mem_zip hturn).2
  · intro hall turn hturn
    have hle : (turns c s clock scenarios now net).length ≤ scenarios.length :=
      Nat.le_of_eq (length_turns c s clock scenarios now net)
    rw [← List.map_snd_zip hle] at hturn
    obtain ⟨⟨x, _⟩, hx, rfl⟩ := List.mem_map.mp hturn
    rw [Run.step_of_mem_zip_inTurn hx]
    exact (Scenario.perform_eq_done_iff c _ clock).mpr (hall x _ hx)

section

variable {server : Server σ} {around : Surroundings} {color : Bool} {arguments : List String}
  {clock : Clock} {now : Nat} {net : Net σ}
  (hversion : (Arguments.parse arguments).values "version" = [])
  (hlist : (Arguments.parse arguments).values "list" = [])
  {s : Settings} {scenarios : List (Scenario σ)} {c : Cluster σ}
  (hprepared : Prepared server around (.parse arguments) s scenarios c)
include hversion hlist hprepared

theorem run_of_setUp_failed {fault : Fault}
    (hfailed : (Scenario.setUp c clock now net).outcome = .failed fault) :
    run server around color arguments clock now net =
      ⟨.done (some s, ⟨false, [announcement scenarios c, aborted fault]⟩),
        (Scenario.setUp c clock now net).state, (Scenario.setUp c clock now net).elapsed⟩ := by
  rw [run_of_prepared hversion hlist hprepared, Scenario.runAll_of_failed hfailed]
  rfl

theorem allReturn_of_returns
    (h : (run server around color arguments clock now net).outcome.returns = true) :
    (Scenario.setUp c clock now net).outcome.returns = true ∧
      ((Scenario.setUp c clock now net).outcome = .done () →
        Run.Turn.allReturn (turns c s clock scenarios now net)) := by
  have hmade : (Scenario.runAll scenarios c (.ofSettings s) clock now net).outcome.returns =
      true := by
    rw [run_of_prepared hversion hlist hprepared] at h
    cases houtcome : (Scenario.runAll scenarios c (.ofSettings s) clock now net).outcome with
    | done _ => rfl
    | failed _ => rfl
    | panicked text =>
        rw [houtcome] at h
        exact h
  exact ⟨Run.returns_of_bind hmade, fun hdone => Scenario.allReturn_of_runAll hdone hmade⟩

theorem run_of_allReturn (hdone : (Scenario.setUp c clock now net).outcome = .done ())
    (hall : Run.Turn.allReturn (turns c s clock scenarios now net)) :
    let first := Scenario.setUp c clock now net
    let made := turns c s clock scenarios now net
    run server around color arguments clock now net =
      ⟨concluded color s (announcement scenarios c)
          (.done (List.zipWith Scenario.report scenarios made)),
        Run.Turn.final first.state made, first.elapsed + Run.Turn.total made⟩ := by
  intro first made
  rw [run_of_prepared hversion hlist hprepared, Scenario.runAll_of_done hdone,
    Scenario.mapEach_run c _ clock scenarios _ _ hall]
  rfl

theorem accounted_of_allReturn (hdone : (Scenario.setUp c clock now net).outcome = .done ())
    (hall : Run.Turn.allReturn (turns c s clock scenarios now net)) :
    Accounted color s scenarios c clock (Scenario.setUp c clock now net)
      (turns c s clock scenarios now net) (run server around color arguments clock now net) := by
  have hlength := length_turns c s clock scenarios now net
  let reports := List.zipWith Scenario.report scenarios (turns c s clock scenarios now net)
  have hreports : reports.length = scenarios.length := by
    rw [List.length_zipWith, hlength, Nat.min_self]
  have hne : reports ≠ [] := fun hnil => by
    rw [hnil] at hreports
    exact hprepared.chosen.ne_nil (List.length_eq_zero_iff.mp hreports.symm)
  have hverdict : reports.all Report.passed = (Report.failedCount reports == 0) := by
    rw [Bool.eq_iff_iff, beq_iff_eq, Report.failedCount_eq_zero_iff]
  rw [run_of_allReturn hversion hlist hprepared hdone hall]
  refine ⟨⟨rfl, rfl⟩, hlength,
    fun x turn hturn => Scenario.cleaned_of_mem_zip c _ clock hall hturn,
    reports, Report.passedCount reports, Report.failedCount reports,
    "\n".intercalate (reports.map (Report.line color)), rfl,
    Scenario.map_name_zipWith_report hlength, rfl, Report.passedCount_add_failedCount reports, ?_⟩
  rw [← Report.summary_eq hne, ← hverdict]
  rfl

/-- A session that is prepared succeeds exactly if nothing that it makes fails. -/
theorem success_iff_of_prepared :
    (∃ used said, (run server around color arguments clock now net).outcome =
        .done (used, ⟨true, said⟩)) ↔
      (Scenario.setUp c clock now net).outcome = .done () ∧
        ∀ x turn, (x, turn) ∈ scenarios.zip (turns c s clock scenarios now net) →
          x.Passes c (.ofSettings s) clock turn.start turn.before := by
  rw [← forall_done_iff]
  have hlength := length_turns c s clock scenarios now net
  constructor
  · rintro ⟨used, said, hsuccess⟩
    obtain ⟨hsetUp, hturns⟩ := allReturn_of_returns hversion hlist hprepared
      (Outcome.returns_of_done hsuccess)
    cases hfirst : (Scenario.setUp c clock now net).outcome with
    | panicked text =>
        rw [hfirst] at hsetUp
        cases hsetUp
    | failed fault =>
        rw [run_of_setUp_failed hversion hlist hprepared hfirst] at hsuccess
        cases hsuccess
    | done _ =>
        have hall := hturns hfirst
        rw [run_of_allReturn hversion hlist hprepared hfirst hall] at hsuccess
        have hpassed := congrArg (·.2.success) (Outcome.done.inj hsuccess)
        have hnone := (Scenario.all_passed_iff hlength).mp hpassed
        exact ⟨rfl, fun turn hturn => Outcome.eq_done_iff.mpr
          ⟨hall turn hturn, hnone turn hturn⟩⟩
  · rintro ⟨hdone, hturns⟩
    have hall : Run.Turn.allReturn (turns c s clock scenarios now net) :=
      fun turn hturn => (Outcome.eq_done_iff.mp (hturns turn hturn)).1
    have hpassed := (Scenario.all_passed_iff hlength).mpr
      fun turn hturn => (Outcome.eq_done_iff.mp (hturns turn hturn)).2
    rw [run_of_allReturn hversion hlist hprepared hdone hall]
    exact ⟨_, _, by rw [concluded, hpassed]⟩

end

/-- A session succeeds exactly if it is prepared, its cluster is set up and each of the scenarios
that it was asked for passes, of which there is at least one. Unprepared it fails without a request;
if the set-up fails it makes no scenario; otherwise, and unless something panics, it gives account
of every scenario. -/
theorem run_verdict (server : Server σ) (around : Surroundings) (color : Bool)
    (arguments : List String) (clock : Clock) (now : Nat) (net : Net σ)
    (hversion : (Arguments.parse arguments).values "version" = [])
    (hlist : (Arguments.parse arguments).values "list" = []) :
    let step := run server around color arguments clock now net
    let prepared := Prepared server around (.parse arguments)
    ((∃ used said, step.outcome = .done (used, ⟨true, said⟩)) ↔
      ∃ s scenarios c, prepared s scenarios c ∧ scenarios ≠ [] ∧
        (Scenario.setUp c clock now net).outcome = .done () ∧
        ∀ x turn, (x, turn) ∈ scenarios.zip (turns c s clock scenarios now net) →
          x.Passes c (.ofSettings s) clock turn.start turn.before) ∧
    ((∀ s scenarios c, ¬ prepared s scenarios c) →
      ∃ used said, step = ⟨.done (used, ⟨false, said⟩), net, 0⟩) ∧
    ∀ s scenarios c, prepared s scenarios c →
      let first := Scenario.setUp c clock now net
      (∀ fault, first.outcome = .failed fault →
        step = ⟨.done (some s, ⟨false, [announcement scenarios c, aborted fault]⟩),
          first.state,
          first.elapsed⟩) ∧
      (first.outcome = .done () → step.outcome.returns = true →
        Accounted color s scenarios c clock first (turns c s clock scenarios now net) step) := by
  intro step prepared
  refine ⟨⟨?_, ?_⟩, run_of_unprepared hversion hlist, fun s scenarios c hprepared =>
    ⟨fun fault hfailed => run_of_setUp_failed hversion hlist hprepared hfailed,
      fun hdone hreturns => accounted_of_allReturn hversion hlist hprepared hdone
        ((allReturn_of_returns hversion hlist hprepared hreturns).2 hdone)⟩⟩
  · rintro ⟨used, said, hsuccess⟩
    by_cases hprepared : ∃ s scenarios c, prepared s scenarios c
    · obtain ⟨s, scenarios, c, hprepared⟩ := hprepared
      exact ⟨s, scenarios, c, hprepared, hprepared.chosen.ne_nil,
        (success_iff_of_prepared hversion hlist hprepared).mp ⟨used, said, hsuccess⟩⟩
    · obtain ⟨_, _, hfailure⟩ :
        ∃ used said, step = ⟨.done (used, ⟨false, said⟩), net, 0⟩ :=
        run_of_unprepared hversion hlist fun s scenarios c h => hprepared ⟨s, scenarios, c, h⟩
      rw [hfailure] at hsuccess
      cases hsuccess
  · rintro ⟨s, scenarios, c, hprepared, -, hmade⟩
    exact (success_iff_of_prepared hversion hlist hprepared).mpr hmade

/-- A server on which the nested orchestrator is registered, deployments end at once and every
service answers. -/
def swiftServer : Server Unit := fun _ r u =>
  let reply (status : Status) (text : String) : Reply × Unit :=
    (⟨1, .response status (Text.toBytes text) .complete⟩, u)
  match r.method, r.url.path with
  | .get, .segments ["mesos", "master", "frameworks"] => reply 200
    "\x7b\"frameworks\":[\x7b\"id\":\"1\",\"name\":\"marathon-user\",\"active\":true\x7d]\x7d"
  | .get, .segments ["service", _, ""] => reply 200 ""
  | .get, .segments ["marathon", "v2", "info"] =>
    reply 200 "\x7b\"name\":\"marathon\",\"version\":\"1\"\x7d"
  | .post, .segments ["marathon", "v2", "apps"] =>
    reply 201 "\x7b\"id\":\"/python-http\",\"deployments\":[\x7b\"id\":\"d\"\x7d]\x7d"
  | .get, .segments ["marathon", "v2", "deployments"] => reply 200 "[]"
  | .get, .segments ["service", "marathon-user", "v2", "apps"] => reply 200 "\x7b\"apps\":[]\x7d"
  | .get, .segments ["service", "marathon-user", "v2", "deployments"] => reply 200 "[]"
  | _, _ => reply 404 "gone"

def plainSurroundings : Surroundings := ⟨fun _ => none, fun _ => .missing, "", ""⟩

/-- Of two lists of names the last counts. The first alone names nothing that exists. -/
theorem run_verdict_deploying :
    let session (arguments : List String) :=
      run swiftServer plainSurroundings false arguments .exact 0 (⟨(), []⟩ : Net Unit)
    let unknown := ["--scenario=other"]
    let known := unknown ++ ["--scenario= deploy_custom_framework ,,"]
    (∃ used said, session unknown = ⟨.done (used, ⟨false, said⟩), ⟨(), []⟩, 0⟩) ∧
      ∃ s scenarios c, Prepared swiftServer plainSurroundings (.parse known) s scenarios c ∧
        scenarios.map Scenario.name = ["deploy_custom_framework"] ∧
        Accounted false s scenarios c .exact (Scenario.setUp c .exact 0 ⟨(), []⟩)
          (turns c s .exact scenarios 0 ⟨(), []⟩) (session known) := by
  intro session unknown known
  have hunknown := run_verdict swiftServer plainSurroundings false unknown .exact 0
    (⟨(), []⟩ : Net Unit) (by decide +kernel) (by decide +kernel)
  have hknown := run_verdict swiftServer plainSurroundings false known .exact 0
    (⟨(), []⟩ : Net Unit) (by decide +kernel) (by decide +kernel)
  have hsuccess : (run swiftServer plainSurroundings false known .exact 0
      (⟨(), []⟩ : Net Unit)).outcome = .done (some .usual, ⟨true,
      [.log .info "Running 1 scenario(s) against http://localhost/ (version 0.1.0)",
        .print "PASS deploy_custom_framework (0.0s)\n1 passed, 0 failed"]⟩) := by
    decide +kernel
  obtain ⟨s, scenarios, c, hprepared, -, hdone, -⟩ := hknown.1.mp ⟨_, _, hsuccess⟩
  refine ⟨hunknown.2.1 ?_, s, scenarios, c, hprepared, ?_,
    (hknown.2.2 s scenarios c hprepared).2 hdone ?_⟩
  · intro s scenarios c hprepared
    have hnames : (Arguments.parse unknown).scenarioNames = ["other"] := by decide +kernel
    have hselect := Scenario.select_eq_ok_iff.mpr hprepared.chosen
    rw [hnames] at hselect
    cases hselect
  · have hnames : (Arguments.parse known).scenarioNames = ["deploy_custom_framework"] := by
      decide +kernel
    have hselect := Scenario.select_eq_ok_iff.mpr hprepared.chosen
    rw [hnames] at hselect
    cases hselect
    rfl
  · exact Outcome.returns_of_done hsuccess

end Session

end Rollout
