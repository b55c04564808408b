import Rollout.Proofs.Watch.Checks
import Rollout.Proofs.Watch.Ledger
/-!
# Assertions on what a deployment has come to

Deployments are asserted to be gone, or to report on their readiness. An assertion looks the
deployment up once and has its verdict from what it finds; there is no second look. What is found
is kept before the verdict, so that it is there to be read when the assertion does not hold.
-/

namespace Rollout.Watch

open Time Wire

variable {σ : Type}

/-- What can be asserted of a deployment. -/
inductive Assertion where
  | absent
  | ready (expected : Bool)

namespace Assertion

def run (w : Watch σ) (h : Handle) : Assertion → Run (Ledger × σ) Fault Unit
  | absent => w.assertAbsent h
  | ready expected => w.assertReadiness h expected

def verdict (h : Handle) : Assertion → Snapshot → Except Fault Unit
  | absent => absenceVerdict
  | ready expected => readinessVerdict h expected

/-- What is asserted of a snapshot. -/
def Holds : Assertion → Snapshot → Prop
  | absent => fun snapshot => snapshot = none
  | ready expected => Snapshot.Reports expected

theorem verdict_eq_ok_iff (a : Assertion) (h : Handle) (snapshot : Snapshot) :
    a.verdict h snapshot = .ok () ↔ a.Holds snapshot := by
  cases a with
  | absent => exact absenceVerdict_eq_ok_iff snapshot
  | ready expected => exact readinessVerdict_eq_ok_iff h expected snapshot

theorem verdict_error {a : Assertion} {h : Handle} {snapshot : Snapshot} {e : Fault}
    (herror : a.verdict h snapshot = .error e) : ∃ text, e = .assertion text := by
  cases a with
  | absent => exact absenceVerdict_error herror
  | ready expected => exact readinessVerdict_error herror

theorem Holds.unique {a b : Assertion} {snapshot : Snapshot} (ha : a.Holds snapshot)
    (hb : b.Holds snapshot) : a = b := by
  cases snapshot with
  | none =>
      cases a with
      | absent =>
          cases b with
          | absent => rfl
          | ready other => exact absurd hb Snapshot.not_reports_none
      | ready expected => exact absurd ha Snapshot.not_reports_none
  | some d =>
      cases a with
      | absent => cases ha
      | ready expected =>
          cases b with
          | absent => cases hb
          | ready other =>
              obtain ⟨result, hresult, rfl⟩ := Snapshot.reports_some_iff.mp ha
              obtain ⟨same, hsame, rfl⟩ := Snapshot.reports_some_iff.mp hb
              rw [Option.some.inj (hresult.symm.trans hsame)]

/-- Nothing can be asserted of a deployment whose first action under way has no readiness results,
whatever the actions after it have. -/
theorem forall_not_holds_iff {snapshot : Snapshot} :
    (∀ a : Assertion, ¬ a.Holds snapshot) ↔
      ∃ d, snapshot = some d ∧
        ∀ action, d.currentActions.head? = some action → action.readinessCheckResults = [] := by
  constructor
  · intro hnever
    cases snapshot with
    | none => exact absurd rfl (hnever .absent)
    | some d =>
        refine ⟨d, rfl, fun action haction => ?_⟩
        cases hresults : action.readinessCheckResults with
        | nil => rfl
        | cons result more =>
            have hfirst : action.readinessCheckResults.head? = some result := by
              rw [hresults]
              rfl
            have hreports : Snapshot.Reports result.ready (some d) :=
              ⟨d, action, result, rfl, haction, hfirst, rfl⟩
            exact absurd hreports (hnever (.ready result.ready))
  · rintro ⟨d, rfl, hempty⟩ a ha
    cases a with
    | absent => cases ha
    | ready expected =>
        obtain ⟨other, action, result, hd, haction, hfirst, -⟩ := ha
        cases hd
        rw [hempty action haction] at hfirst
        cases hfirst

/-! ## Runs of assertions -/

theorem run_eq (a : Assertion) (w : Watch σ) (h : Handle) : a.run w h =
    w.observe h >>= fun snapshot => .ofExcept (a.verdict h snapshot) := by
  cases a with
  | absent => exact assertAbsent_eq w h
  | ready expected => exact assertReadiness_eq w h expected

theorem run_agree {τ : Type} {R : σ → τ → Prop} {o : Orchestrator σ} {o' : Orchestrator τ}
    (ho : o.Agree R o') (p : Patience) (a : Assertion) (h : Handle) :
    Run.Agree (Run.Beside R) (a.run (mk o p) h) (a.run (mk o' p) h) := by
  cases a with
  | absent => exact assertAbsent_agree ho p h
  | ready expected => exact assertReadiness_agree ho p h expected

/-- What an assertion comes to, from what the one lookup that it makes comes to. -/
structure Decides (a : Assertion) (h : Handle) (before : Ledger × List Lookup × σ)
    (lookup : Step σ Fault Snapshot) (step : Step (Ledger × List Lookup × σ) Fault Unit) :
    Prop where
  /-- This lookup is all that the orchestrator is asked. -/
  made : step.state.2 = (before.2.1 ++ [⟨h.deploymentId, lookup.outcome⟩], lookup.state)
  elapsed : step.elapsed = lookup.elapsed
  failed : ∀ e, lookup.outcome = .failed e → step.outcome = .failed e ∧
    step.state.1 = before.1
  panicked : ∀ text, lookup.outcome = .panicked text →
    step.outcome = .panicked text ∧ step.state.1 = before.1
  /-- A snapshot is kept whether or not the assertion holds of it. -/
  kept : ∀ snapshot, lookup.outcome = .done snapshot → ∀ id,
    step.state.1.last? id = if id = h.deploymentId then some snapshot else before.1.last? id
  holds : ∀ snapshot, lookup.outcome = .done snapshot →
    (step.outcome = .done () ↔ a.Holds snapshot)
  fails : ∀ snapshot, lookup.outcome = .done snapshot → ¬ a.Holds snapshot →
    ∃ text, step.outcome = .failed (.assertion text)

theorem run_decides (a : Assertion) (o : Orchestrator σ) (p : Patience) (clock : Clock) (now : Nat)
    (h : Handle) (s : Ledger × List Lookup × σ) :
    a.Decides h s (o.getDeployment h.deploymentId clock now s.2.2)
      (a.run (mk o.recorded p) h clock now s) := by
  rw [run_eq, Run.bind_ofExcept_apply, observe_apply]
  unfold Orchestrator.recorded
  simp only
  rcases o.getDeployment h.deploymentId clock now s.2.2 with ⟨snapshot | e | text, t, n⟩
  · refine ⟨rfl, rfl, nofun, nofun, ?_, ?_, ?_⟩
    · rintro _ ⟨⟩ id
      exact s.1.last?_record h.deploymentId id snapshot
    · rintro _ ⟨⟩
      rw [← a.verdict_eq_ok_iff h]
      exact Outcome.ofExcept_eq_done_iff
    · rintro _ ⟨⟩ hnot
      cases hverdict : a.verdict h snapshot with
      | ok => exact absurd ((a.verdict_eq_ok_iff h snapshot).mp hverdict) hnot
      | error e =>
          obtain ⟨text, rfl⟩ := verdict_error hverdict
          exact ⟨text, congrArg Outcome.ofExcept hverdict⟩
  · refine ⟨rfl, rfl, ?_, nofun, nofun, nofun, nofun⟩
    rintro _ ⟨⟩
    exact ⟨rfl, rfl⟩
  · refine ⟨rfl, rfl, nofun, ?_, nofun, nofun, nofun⟩
    rintro _ ⟨⟩
    exact ⟨rfl, rfl⟩

end Assertion

variable (o : Orchestrator σ) (p : Patience) (clock : Clock) (now : Nat)

/-- Assertions decide by one lookup, which the orchestrator cannot tell from any other, and keep
what it finds. Of a snapshot that is found no more than one assertion holds, and none if it is that
of a deployment that has nothing to report. -/
theorem assertions_decide (h : Handle) (l : Ledger) (made : List Lookup) (u : σ) :
    let lookup := o.getDeployment h.deploymentId clock now u
    let step (a : Assertion) := a.run (mk o.recorded p) h clock now (l, made, u)
    (∀ a : Assertion, a.Decides h (l, made, u) lookup (step a) ∧
      (step a).Agree (Run.Beside fun s t => s.2 = t) (a.run (mk o p) h clock now (l, u))) ∧
    ∀ snapshot, lookup.outcome = .done snapshot →
      (∀ a b, (step a).outcome = .done () → (step b).outcome = .done () → a = b) ∧
      ((∀ a, (step a).outcome ≠ .done ()) ↔
        ∃ d, snapshot = some d ∧
          ∀ action, d.currentActions.head? = some action →
            action.readinessCheckResults = []) := by
  intro lookup step
  have hdecides (a : Assertion) : a.Decides h (l, made, u) lookup (step a) :=
    a.run_decides o p clock now h (l, made, u)
  refine ⟨fun a => ⟨hdecides a, ?_⟩, fun snapshot hfound => ⟨fun a b ha hb => ?_, ?_⟩⟩
  · exact Assertion.run_agree o.recorded_agree p a h clock now _ _ ⟨rfl, rfl⟩
  · have haHolds := ((hdecides a).holds snapshot hfound).mp ha
    have hbHolds := ((hdecides b).holds snapshot hfound).mp hb
    exact haHolds.unique hbHolds
  · rw [← Assertion.forall_not_holds_iff]
    exact forall_congr' fun a => not_congr ((hdecides a).holds snapshot hfound)

/-- A deployment of two apps. The second is ready, and nothing is known of the first. -/
def half : Deployment where
  id := "d"
  version := "v"
  affectedApps := ["/a", "/b"]
  affectedPods := []
  steps := []
  currentActions :=
    [⟨"StartApplication", some "/a", none, []⟩,
      ⟨"ScaleApplication", some "/b", none, [⟨"up", "b.1", true, none⟩]⟩]
  currentStep := 1
  totalSteps := 2

/-- An orchestrator with this deployment only. -/
def listing : Orchestrator Nat where
  addApp _ := .fail (.internal "")
  removeApp _ _ := .fail (.internal "")
  getDeployment _ := fun _ _ n => ⟨.done (some half), n + 1, 7⟩

/-- Readiness is asserted of the first action, which has nothing to report, and not of the second,
which is ready. What is found is kept. -/
theorem assertions_decide_half :
    let w := mk listing.recorded ⟨.ofSecs 5, .ofSecs 1⟩
    let h : Handle := ⟨"d", "/b", .deploy⟩
    let step := (Assertion.ready true).run w h .exact 0 (.empty, [], 0)
    (∃ text, step.outcome = .failed (.assertion text)) ∧ step.elapsed = 7 ∧
      step.state.2.1.length = 1 ∧ step.state.1.last? "d" = some (some half) := by
  intro w h step
  obtain ⟨hdecides, hfound⟩ :=
    assertions_decide listing ⟨.ofSecs 5, .ofSecs 1⟩ .exact 0 h .empty [] 0
  have hempty : ∃ d, some half = some d ∧
      ∀ action, d.currentActions.head? = some action → action.readinessCheckResults = [] := by
    refine ⟨half, rfl, fun action haction => ?_⟩
    cases haction
    rfl
  have hnot := (hfound (some half) rfl).2.mpr hempty (.ready true)
  obtain ⟨hready, -⟩ := hdecides (.ready true)
  refine ⟨?_, hready.elapsed, ?_, ?_⟩
  · exact hready.fails _ rfl (mt (hready.holds _ rfl).mpr hnot)
  · rw [hready.made]
    rfl
  · exact hready.kept _ rfl "d"

end Rollout.Watch
