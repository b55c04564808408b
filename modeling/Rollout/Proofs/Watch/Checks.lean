import Rollout.Proofs.Run.Agreement
import Rollout.Proofs.Run.Outcome
import Rollout.Watch
/-!
# Checks of a watch

A check looks a deployment up once and decides on what it finds. The ledger has no part in it, so a
watch that is given up in the end has done no more than to ask its orchestrator.
-/

namespace Rollout

open Wire Time

variable {σ : Type}

/-- The first action under way has a readiness result, and its first is `ready`. -/
def Snapshot.Reports (ready : Bool) (snapshot : Snapshot) : Prop :=
  ∃ d action result, snapshot = some d ∧ d.currentActions.head? = some action ∧
    action.readinessCheckResults.head? = some result ∧ result.ready = ready

theorem Snapshot.reports_some_iff {ready : Bool} {d : Deployment} :
    Snapshot.Reports ready (some d) ↔
      ∃ result, d.firstReadiness? = some result ∧ result.ready = ready := by
  unfold Deployment.firstReadiness?
  constructor
  · rintro ⟨_, action, result, ⟨⟩, haction, hfirst, hready⟩
    exact ⟨result, Option.bind_eq_some_iff.mpr ⟨action, haction, hfirst⟩, hready⟩
  · rintro ⟨result, hresult, hready⟩
    obtain ⟨action, haction, hfirst⟩ := Option.bind_eq_some_iff.mp hresult
    exact ⟨d, action, result, rfl, haction, hfirst, hready⟩

theorem Snapshot.not_reports_none {ready : Bool} : ¬ Snapshot.Reports ready none := by
  rintro ⟨d, _, _, hd, -⟩
  cases hd

theorem Snapshot.Reports.isSome {ready : Bool} {snapshot : Snapshot} (h : snapshot.Reports ready) :
    snapshot.isSome = true := by
  obtain ⟨d, _, _, rfl, -⟩ := h
  rfl

namespace Watch

/-- What the check for absence makes of a snapshot. -/
def absenceVerdict : Snapshot → Except Fault Unit
  | none => .ok ()
  | some d =>
    .error (.assertion ("deployment " ++ d.id ++ " still in progress (step "
      ++ toString d.currentStep ++ "/" ++ toString d.totalSteps ++ ")"))

/-- What the check for a readiness result makes of a snapshot. -/
def readinessVerdict (h : Handle) (expected : Bool) : Snapshot → Except Fault Unit
  | none =>
    .error (.assertion
      ("deployment " ++ h.deploymentId ++ " not found, expected a readiness result"))
  | some d =>
    match d.firstReadiness? with
    | none => .error (.assertion ("deployment " ++ d.id ++ " has no readiness check results"))
    | some result =>
      if result.ready = expected then .ok ()
      else
        .error (.assertion ("readiness check '" ++ result.name ++ "' of task " ++ result.taskId
          ++ " reported ready=" ++ toString result.ready ++ ", expected " ++ toString expected))

theorem absenceVerdict_eq_ok_iff (snapshot : Snapshot) :
    absenceVerdict snapshot = .ok () ↔ snapshot = none := by
  cases snapshot with
  | none => exact ⟨fun _ => rfl, fun _ => rfl⟩
  | some d => exact ⟨nofun, nofun⟩

theorem readinessVerdict_eq_ok_iff (h : Handle) (expected : Bool) (snapshot : Snapshot) :
    readinessVerdict h expected snapshot = .ok () ↔ snapshot.Reports expected := by
  cases snapshot with
  | none => exact ⟨nofun, fun hreports => absurd hreports Snapshot.not_reports_none⟩
  | some d =>
      rw [Snapshot.reports_some_iff]
      unfold readinessVerdict
      simp only
      cases d.firstReadiness? with
      | none => simp
      | some result => by_cases hready : result.ready = expected <;> simp [hready]

theorem absenceVerdict_error {snapshot : Snapshot} {e : Fault}
    (h : absenceVerdict snapshot = .error e) : ∃ text, e = .assertion text := by
  cases snapshot with
  | none => cases h
  | some d => exact ⟨_, (Except.error.inj h).symm⟩

theorem readinessVerdict_error {h : Handle} {expected : Bool} {snapshot : Snapshot} {e : Fault}
    (herror : readinessVerdict h expected snapshot = .error e) : ∃ text, e = .assertion text := by
  cases snapshot with
  | none => exact ⟨_, (Except.error.inj herror).symm⟩
  | some d =>
      unfold readinessVerdict at herror
      simp only at herror
      cases hresult : d.firstReadiness? with
      | none =>
          rw [hresult] at herror
          exact ⟨_, (Except.error.inj herror).symm⟩
      | some result =>
          rw [hresult] at herror
          simp only at herror
          split at herror
          · cases herror
          · exact ⟨_, (Except.error.inj herror).symm⟩

variable (w : Watch σ) (h : Handle)

theorem assertAbsent_eq : w.assertAbsent h =
    w.observe h >>= fun snapshot => .ofExcept (absenceVerdict snapshot) := by
  unfold assertAbsent
  congr
  funext snapshot
  cases snapshot <;> rfl

theorem assertReadiness_eq (expected : Bool) : w.assertReadiness h expected =
    w.observe h >>= fun snapshot => .ofExcept (readinessVerdict h expected snapshot) := by
  unfold assertReadiness
  congr
  funext snapshot
  cases snapshot with
  | none => rfl
  | some d =>
      unfold readinessVerdict
      simp only
      cases d.firstReadiness? with
      | none => rfl
      | some result =>
          simp only
          split <;> rfl

/-! ## Without the ledger -/

theorem submitApp_over (app : App) : Run.Agree Run.Over (w.submitApp app)
    (w.orchestrator.addApp app >>= fun id => pure ⟨id, app.id, .deploy⟩) :=
  .bind (.onSnd_over _) fun _ => .pure _

theorem observe_over :
    Run.Agree Run.Over (w.observe h) (w.orchestrator.getDeployment h.deploymentId) := by
  have hobserved : Run.Agree Run.Over (w.observe h)
      (w.orchestrator.getDeployment h.deploymentId >>= fun snapshot =>
        (pure () : Run σ Fault Unit) >>= fun _ => pure snapshot) :=
    .bind (.onSnd_over _) fun _ => .bind (.modify_over fun _ => rfl) fun _ => .pure _
  simpa only [pure_bind, bind_pure] using hobserved

theorem assertAbsent_over : Run.Agree Run.Over (w.assertAbsent h)
    (w.orchestrator.getDeployment h.deploymentId >>= fun snapshot =>
      .ofExcept (absenceVerdict snapshot)) := by
  rw [assertAbsent_eq]
  exact .bind (w.observe_over h) fun _ => .ofExcept _

theorem assertReadiness_over (expected : Bool) : Run.Agree Run.Over (w.assertReadiness h expected)
    (w.orchestrator.getDeployment h.deploymentId >>= fun snapshot =>
      .ofExcept (readinessVerdict h expected snapshot)) := by
  rw [assertReadiness_eq]
  exact .bind (w.observe_over h) fun _ => .ofExcept _

end Watch

end Rollout
