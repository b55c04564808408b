import Rollout.Orchestrator.Basic
import Rollout.Run.Wait
/-!
# Watching deployments

Submissions return handles, and handles are looked up until something holds of their deployment or
time runs out. The ledger keeps the last snapshot of each deployment, where absence is a snapshot
too; a failed lookup changes nothing in it.
-/

namespace Rollout

open Wire Time

/-- What a deployment was started for. -/
inductive Purpose where
  | deploy
  | remove
  deriving DecidableEq, Repr

def Purpose.text : Purpose → String
  | .deploy => "Deploy"
  | .remove => "Remove"

/-- A deployment that was started here. -/
structure Handle where
  deploymentId : String
  appId : String
  purpose : Purpose
  deriving DecidableEq, Repr

def Handle.text (h : Handle) : String :=
  h.deploymentId ++ " (" ++ h.purpose.text ++ " " ++ h.appId ++ ")"

/-- What a lookup finds: a deployment, or that there is none. -/
abbrev Snapshot := Option Deployment

/-- The last snapshot for each deployment id that was ever looked up. -/
structure Ledger where
  entries : List (String × Snapshot)

namespace Ledger

def empty : Ledger := ⟨[]⟩

/-- `none` for an id that was never looked up. -/
def last? (l : Ledger) (id : String) : Option Snapshot := l.entries.lookup id

def record (l : Ledger) (id : String) (snapshot : Snapshot) : Ledger :=
  ⟨(id, snapshot) :: l.entries.filter fun e => e.1 != id⟩

/-- Records a snapshot if there is one. -/
def keep (l : Ledger) (id : String) : Option Snapshot → Ledger
  | none => l
  | some snapshot => l.record id snapshot

@[simp] theorem last?_empty (id : String) : empty.last? id = none := rfl

@[simp] theorem last?_record_self (l : Ledger) (id : String) (snapshot : Snapshot) :
    (l.record id snapshot).last? id = some snapshot := by
  simp [last?, record]

/-- What is kept for other ids does not change. -/
theorem last?_record_of_ne {id other : String} (h : other ≠ id) (l : Ledger)
    (snapshot : Snapshot) : (l.record id snapshot).last? other = l.last? other := by
  have hlookup (es : List (String × Snapshot)) :
      (es.filter fun e => e.1 != id).lookup other = es.lookup other := by
    induction es with
    | nil => rfl
    | cons e es ih =>
      obtain ⟨k, v⟩ := e
      by_cases hk : k = id
      · simp [hk, ih, Json.lookup_cons_of_ne h]
      · by_cases ho : other = k
        · simp [ho, hk]
        · simp [hk, ih, Json.lookup_cons_of_ne ho]
  simp [last?, record, Json.lookup_cons_of_ne h, hlookup]

end Ledger

/-- An orchestrator under watch. The time out of the patience gives way to that of each wait. -/
structure Watch (σ : Type) where
  orchestrator : Orchestrator σ
  patience : Patience

namespace Watch

variable {σ : Type}

def submitApp (w : Watch σ) (app : App) : Run (Ledger × σ) Fault Handle := do
  let id ← (w.orchestrator.addApp app).onSnd
  return ⟨id, app.id, .deploy⟩

def submitRemoval (w : Watch σ) (appId : String) (force : Bool) :
    Run (Ledger × σ) Fault Handle := do
  let id ← (w.orchestrator.removeApp appId force).onSnd
  return ⟨id, appId, .remove⟩

/-- Looks the deployment up and keeps what it finds. -/
def observe (w : Watch σ) (h : Handle) : Run (Ledger × σ) Fault Snapshot := do
  let snapshot ← (w.orchestrator.getDeployment h.deploymentId).onSnd
  .modify fun s => (s.1.record h.deploymentId snapshot, s.2)
  return snapshot

/-- The snapshot that was taken last; nothing is looked up. -/
def lastObserved (_ : Watch σ) (h : Handle) : Run (Ledger × σ) Fault (Option Snapshot) := do
  return (← .get).1.last? h.deploymentId

/-- One look of a wait. What it finds goes into a cell of the wait, and the wait is over when the
predicate holds of it. -/
def look (w : Watch σ) (h : Handle) (predicate : Snapshot → Bool) :
    Run (Option Snapshot × σ) Fault (Option Unit) := do
  let snapshot ← (w.orchestrator.getDeployment h.deploymentId).onSnd
  .modify fun s => (some snapshot, s.2)
  return if predicate snapshot then some () else none

/-- Looks the deployment up until the predicate holds of what it finds. What the wait has found
last is kept when it ends, also when it ends in a failure. -/
def await (w : Watch σ) (h : Handle) (timeout : Span) (predicate : Snapshot → Bool) :
    Run (Ledger × σ) Fault Bool := do
  let (met, found) ← Run.onSnd <| .startingWith none do
    let met ← (Run.pollUntil (w.patience.withTimeout timeout) (w.look h predicate)).attempt
    return (met, (← .get).1)
  .modify fun s => (s.1.keep h.deploymentId found, s.2)
  return (← .ofExcept met).isSome

/-- Waits until the deployment is no longer listed. -/
def awaitCompletion (w : Watch σ) (h : Handle) (timeout : Span) : Run (Ledger × σ) Fault Bool :=
  w.await h timeout Option.isNone

/-- Fails unless the deployment is no longer listed. -/
def assertAbsent (w : Watch σ) (h : Handle) : Run (Ledger × σ) Fault Unit := do
  match ← w.observe h with
  | none => return ()
  | some d =>
    .fail (.assertion ("deployment " ++ d.id ++ " still in progress (step "
      ++ toString d.currentStep ++ "/" ++ toString d.totalSteps ++ ")"))

/-- Fails unless the first readiness result of the deployment is as expected. -/
def assertReadiness (w : Watch σ) (h : Handle) (expected : Bool) :
    Run (Ledger × σ) Fault Unit := do
  match ← w.observe h with
  | none =>
    .fail (.assertion ("deployment " ++ h.deploymentId ++
      " not found, expected a readiness result"))
  | some d =>
    match d.firstReadiness? with
    | none => .fail (.assertion ("deployment " ++ d.id ++ " has no readiness check results"))
    | some result =>
      if result.ready = expected then return ()
      else
        .fail (.assertion ("readiness check '" ++ result.name ++ "' of task " ++ result.taskId
          ++ " reported ready=" ++ toString result.ready ++ ", expected " ++ toString expected))

end Watch

end Rollout
