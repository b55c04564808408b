import Mathlib.Data.List.Perm.Basic
import Rollout.FrameworkApp
import Rollout.Proofs.Run.Outcome
/-!
# Changes of the readiness check

How often the first readiness check of an app is made and what it asks for can be changed, any
number of times and in any order. What such changes come to together is told here from what was
asked for: the last interval and the last path count, and the shortest of the time outs that the
intervals have left room for. A check that ends before the next one begins always goes on to do so,
and nothing else in the app is touched.
-/

namespace Rollout

open Wire

namespace FrameworkApp

inductive Change where
  | interval (seconds : UInt32)
  | path (p : String)

namespace Change

def apply (a : App) : Change → Except Fault App
  | interval seconds => setReadinessInterval a seconds
  | path p => setReadinessPath a p

/-- The change made in place. -/
def run (change : Change) : Run App Fault Unit := do
  let changed ← .ofExcept (change.apply (← .get))
  .modify fun _ => changed

/-- The change made in place, whatever becomes of it. -/
def attempt (change : Change) : Run App Fault Unit := do
  let _ ← change.run.attempt

/-- The interval that is asked for, if it has room for a check. -/
def interval? : Change → Option UInt32
  | interval seconds => if 2 ≤ seconds then some seconds else none
  | path _ => none

def path? : Change → Option String
  | interval _ => none
  | path p => some p

/-- No check fits into the interval that is asked for. -/
def TooShort : Change → Prop
  | interval seconds => seconds < 2
  | path _ => False

end Change

/-- Changes in order, whatever becomes of each of them. -/
def perform (changes : List Change) : Run App Fault Unit := .forEach changes Change.attempt

def intervals (changes : List Change) : List UInt32 := changes.filterMap Change.interval?

def paths (changes : List Change) : List String := changes.filterMap Change.path?

theorem toNat_sub_one {seconds : UInt32} (h : 2 ≤ seconds) :
    (seconds - 1).toNat = seconds.toNat - 1 := by
  have htwo : 2 ≤ seconds.toNat := UInt32.le_iff_toNat_le.mp h
  apply UInt32.toNat_sub_of_le
  rw [UInt32.le_iff_toNat_le]
  exact Nat.le_trans (by decide) htwo

theorem two_le_of_mem_intervals {changes : List Change} {seconds : UInt32}
    (h : seconds ∈ intervals changes) : 2 ≤ seconds := by
  obtain ⟨change, -, hasked⟩ := List.mem_filterMap.mp h
  cases change with
  | path p => cases hasked
  | interval asked =>
      obtain ⟨hroom, hsame⟩ := Option.ite_none_right_eq_some.mp hasked
      rwa [Option.some.inj hsame] at hroom

end FrameworkApp

open FrameworkApp

namespace Wire.ReadinessCheck

/-- A check takes some time and ends before the next one begins. -/
def EndsInTime (check : ReadinessCheck) : Prop :=
  0 < check.timeoutSeconds ∧ check.timeoutSeconds < check.intervalSeconds

/-- A check with what was last asked for. No interval that it has had is too short for it. -/
def after (check : ReadinessCheck) (changes : List Change) : ReadinessCheck :=
  { check with
    intervalSeconds := (intervals changes).getLast?.getD check.intervalSeconds
    timeoutSeconds := ((intervals changes).map (· - 1)).foldl min check.timeoutSeconds
    path := (paths changes).getLast?.getD check.path }

variable (check : ReadinessCheck)

theorem after_append (changes more : List Change) :
    check.after (changes ++ more) = (check.after changes).after more := by
  simp only [after, intervals, paths, List.filterMap_append, List.getLast?_append, List.map_append,
    List.foldl_append, Option.getD_or]

theorem after_cons (change : Change) (rest : List Change) :
    check.after (change :: rest) = (check.after [change]).after rest :=
  check.after_append [change] rest

theorem after_path (p : String) : check.after [.path p] = { check with path := p } := rfl

theorem after_tooShort {seconds : UInt32} (h : seconds < 2) :
    check.after [.interval seconds] = check := by
  have hnone : Change.interval? (.interval seconds) = none :=
    if_neg fun hle => UInt32.not_lt.mpr hle h
  simp [after, intervals, paths, hnone, Change.path?]

theorem after_interval {seconds : UInt32} (h : 2 ≤ seconds) :
    check.after [.interval seconds] =
      { check with
        intervalSeconds := seconds
        timeoutSeconds := min check.timeoutSeconds (seconds - 1) } := by
  have hsome : Change.interval? (.interval seconds) = some seconds := if_pos h
  simp [after, intervals, paths, hsome, Change.path?]

/-- The time out is a minimum, and no subtraction in it wraps around. -/
theorem toNat_timeout_after (changes : List Change) :
    (check.after changes).timeoutSeconds.toNat =
      ((intervals changes).map (·.toNat - 1)).foldl min check.timeoutSeconds.toNat := by
  have hroom : ∀ seconds ∈ intervals changes, 2 ≤ seconds := fun _ => two_le_of_mem_intervals
  change (((intervals changes).map (· - 1)).foldl min check.timeoutSeconds).toNat = _
  generalize intervals changes = accepted at hroom
  generalize check.timeoutSeconds = least
  -- Only intervals of two seconds and more are accepted, so each of them has one to spare.
  induction accepted generalizing least with
  | nil => rfl
  | cons seconds rest ih =>
      rw [List.map_cons, List.map_cons, List.foldl_cons, List.foldl_cons,
        ih (fun n hn => hroom n (List.mem_cons_of_mem _ hn)), UInt32.toNat_min,
        toNat_sub_one (hroom seconds List.mem_cons_self)]

theorem timeout_after_of_perm {changes other : List Change} (h : other.Perm changes) :
    (check.after other).timeoutSeconds = (check.after changes).timeoutSeconds := by
  rw [← UInt32.toNat_inj, toNat_timeout_after, toNat_timeout_after]
  exact ((h.filterMap Change.interval?).map _).foldl_eq _

variable {check}

theorem EndsInTime.after_singleton (h : check.EndsInTime) (change : Change) :
    (check.after [change]).EndsInTime := by
  cases change with
  | path p =>
      rw [after_path]
      exact h
  | interval seconds =>
      by_cases hroom : 2 ≤ seconds
      · rw [after_interval check hroom]
        -- The longest time out that the interval leaves room for is at least a second.
        have htwo : 2 ≤ seconds.toNat := UInt32.le_iff_toNat_le.mp hroom
        have hpos : 0 < check.timeoutSeconds.toNat := UInt32.lt_iff_toNat_lt.mp h.1
        have hleast : (min check.timeoutSeconds (seconds - 1)).toNat =
            min check.timeoutSeconds.toNat (seconds.toNat - 1) := by
          rw [UInt32.toNat_min, toNat_sub_one hroom]
        constructor
        · rw [UInt32.lt_iff_toNat_lt, hleast]
          change 0 < min check.timeoutSeconds.toNat (seconds.toNat - 1)
          omega
        · rw [UInt32.lt_iff_toNat_lt, hleast]
          change min check.timeoutSeconds.toNat (seconds.toNat - 1) < seconds.toNat
          omega
      · rw [after_tooShort check (UInt32.not_le.mp hroom)]
        exact h

theorem EndsInTime.after (h : check.EndsInTime) (changes : List Change) :
    (check.after changes).EndsInTime := by
  induction changes generalizing check with
  | nil => exact h
  | cons change rest ih =>
      rw [after_cons]
      exact ih (h.after_singleton change)

end Wire.ReadinessCheck

namespace FrameworkApp

/-! ## Changes of an app -/

def tooShort (seconds : UInt32) : Fault :=
  .config ("readiness interval must be at least 2 seconds, got " ++ toString seconds)

def unchecked (a : App) : Fault := .config ("app " ++ a.id ++ " has no readiness check")

variable (clock : Time.Clock) (now : Nat)

namespace Change

theorem run_apply (change : Change) (a : App) : change.run clock now a =
    match change.apply a with
    | .ok b => ⟨.done (), b, 0⟩
    | .error e => ⟨.failed e, a, 0⟩ := by
  have hget : (Run.get clock now a : Step App Fault App) = ⟨.done a, a, 0⟩ := rfl
  rw [run, Run.bind_apply, hget]
  cases h : change.apply a with
  | ok b =>
      simp only [h]
      rfl
  | error e =>
      simp only [h]
      rfl

theorem attempt_apply (change : Change) (a : App) :
    change.attempt clock now a = ⟨.done (), (change.run clock now a).state, 0⟩ := by
  rw [attempt, Run.bind_apply, Run.attempt_apply, run_apply]
  cases change.apply a <;> rfl

theorem run_tooShort {seconds : UInt32} (h : seconds < 2) (a : App) :
    (interval seconds).run clock now a = ⟨.failed (tooShort seconds), a, 0⟩ := by
  have happly : (interval seconds).apply a = .error (tooShort seconds) := if_pos h
  rw [run_apply, happly]

theorem apply_of_not_tooShort {change : Change} (h : ¬ change.TooShort) (a : App) :
    change.apply a = changeFirstCheck a fun check => check.after [change] := by
  cases change with
  | path p => rfl
  | interval seconds =>
      have hshort : ¬ seconds < 2 := h
      have hroom : 2 ≤ seconds := UInt32.not_lt.mp hshort
      rw [apply, setReadinessInterval, if_neg hshort]
      simp only [ReadinessCheck.after_interval _ hroom]

theorem run_of_not_tooShort {change : Change} (h : ¬ change.TooShort) {a : App}
    {check : ReadinessCheck} {rest : List ReadinessCheck}
    (hchecks : a.readinessChecks = check :: rest) : change.run clock now a =
      ⟨.done (), { a with readinessChecks := check.after [change] :: rest }, 0⟩ := by
  rw [run_apply, apply_of_not_tooShort h, changeFirstCheck, hchecks]

theorem state_run {a : App} {check : ReadinessCheck} {rest : List ReadinessCheck}
    (hchecks : a.readinessChecks = check :: rest) (change : Change) :
    (change.run clock now a).state =
      { a with readinessChecks := check.after [change] :: rest } := by
  by_cases h : change.TooShort
  · cases change with
    | path p => cases h
    | interval seconds => rw [run_tooShort clock now h, check.after_tooShort h, ← hchecks]
  · rw [run_of_not_tooShort clock now h hchecks]

theorem run_of_no_checks {a : App} (hchecks : a.readinessChecks = []) (change : Change) :
    ∃ fault, change.run clock now a = ⟨.failed fault, a, 0⟩ ∧
      (¬ change.TooShort → fault = unchecked a) := by
  by_cases h : change.TooShort
  · cases change with
    | path p => cases h
    | interval seconds => exact ⟨_, run_tooShort clock now h a, fun hlong => absurd h hlong⟩
  · refine ⟨unchecked a, ?_, fun _ => rfl⟩
    rw [run_apply, apply_of_not_tooShort h, changeFirstCheck, hchecks]
    rfl

end Change

/-! ## Sequences of changes -/

theorem perform_cons (change : Change) (rest : List Change) (a : App) :
    perform (change :: rest) clock now a =
      perform rest clock now (change.run clock now a).state := by
  change (change.attempt >>= fun _ => perform rest) clock now a = _
  rw [Run.bind_apply, change.attempt_apply]
  simp only [Nat.add_zero, Nat.zero_add]

theorem perform_of_checks (changes : List Change) {a : App} {check : ReadinessCheck}
    {rest : List ReadinessCheck} (hchecks : a.readinessChecks = check :: rest) :
    perform changes clock now a =
      ⟨.done (), { a with readinessChecks := check.after changes :: rest }, 0⟩ := by
  induction changes generalizing a check with
  | nil =>
      change (⟨.done (), a, 0⟩ : Step App Fault Unit) =
        ⟨.done (), { a with readinessChecks := check :: rest }, 0⟩
      rw [← hchecks]
  | cons change more ih =>
      rw [perform_cons, Change.state_run clock now hchecks, ih rfl, ← check.after_cons]

theorem perform_of_no_checks (changes : List Change) {a : App} (hchecks : a.readinessChecks = []) :
    perform changes clock now a = ⟨.done (), a, 0⟩ := by
  induction changes with
  | nil => rfl
  | cons change more ih =>
      obtain ⟨fault, hrun, -⟩ := Change.run_of_no_checks clock now hchecks change
      rw [perform_cons, hrun, ih]

/-- What a sequence of changes makes of an app with a readiness check, and what it leaves for
another change to find. -/
structure Settles (a : App) (check : ReadinessCheck) (rest : List ReadinessCheck)
    (changes : List Change) : Prop where
  /-- Only the first check is another one: that with what was last asked for. -/
  settled : perform changes clock now a =
    ⟨.done (), { a with readinessChecks := check.after changes :: rest }, 0⟩
  endsInTime : check.EndsInTime → (check.after changes).EndsInTime
  /-- The time out is a minimum of numbers, where no subtraction wraps around. -/
  timeout : (check.after changes).timeoutSeconds.toNat =
    ((intervals changes).map (·.toNat - 1)).foldl min check.timeoutSeconds.toNat
  /-- The same changes in another order leave the same time out. -/
  unordered : ∀ other : List Change, other.Perm changes → ∃ last,
    (perform other clock now a).state = { a with readinessChecks := last :: rest } ∧
      last.timeoutSeconds = (check.after changes).timeoutSeconds
  refused : ∀ seconds < 2,
    (Change.interval seconds).run clock now
    { a with readinessChecks := check.after changes :: rest }
      = ⟨.failed (tooShort seconds),
        { a with readinessChecks := check.after changes :: rest }, 0⟩
  accepted : ∀ change : Change, ¬ change.TooShort →
    change.run clock now { a with readinessChecks := check.after changes :: rest } =
      ⟨.done (), { a with readinessChecks := check.after (changes ++ [change]) :: rest }, 0⟩

/-- Changes made in any order leave an app with its first readiness check as it was last asked for,
which ends in time if it has done so before, and leave an app without such a check as it is. -/
theorem changes_settle (a : App) (changes : List Change) :
    (∀ check rest, a.readinessChecks = check :: rest →
      Settles clock now a check rest changes) ∧
    (a.readinessChecks = [] → perform changes clock now a = ⟨.done (), a, 0⟩ ∧
      ∀ change : Change, ∃ fault, change.run clock now a = ⟨.failed fault, a, 0⟩ ∧
        (¬ change.TooShort → fault = unchecked a)) := by
  refine ⟨fun check rest hchecks => ⟨?_, ?_, ?_, ?_, ?_, ?_⟩, fun hnone => ⟨?_, ?_⟩⟩
  · exact perform_of_checks clock now changes hchecks
  · exact fun h => h.after changes
  · exact check.toNat_timeout_after changes
  · intro other hperm
    refine ⟨check.after other, ?_, check.timeout_after_of_perm hperm⟩
    rw [perform_of_checks clock now other hchecks]
  · intro seconds hshort
    exact Change.run_tooShort clock now hshort _
  · intro change hlong
    rw [Change.run_of_not_tooShort clock now hlong rfl, check.after_append]
  · exact perform_of_no_checks clock now changes hnone
  · exact fun change => Change.run_of_no_checks clock now hnone change

/-- An interval of three seconds lowers the time out for good: a longer one does not raise it
again. Without a check there is nothing to change. -/
theorem changes_settle_lowered :
    let check : ReadinessCheck := ⟨"readiness", "HTTP", "/v1/plan", "api", 10, 5, [200], true⟩
    let last : ReadinessCheck := ⟨"readiness", "HTTP", "/bad-path", "api", 30, 2, [200], true⟩
    let bare : App := { app with readinessChecks := [] }
    let changes : List Change := [.interval 3, .interval 1, .path "/bad-path", .interval 30]
    (app.readinessChecks = [check] ∧ check.EndsInTime ∧
      perform changes .exact 0 app = ⟨.done (), { app with readinessChecks := [last] }, 0⟩ ∧
      last.EndsInTime) ∧
    bare.readinessChecks = [] ∧ perform changes .exact 0 bare = ⟨.done (), bare, 0⟩ := by
  intro check last bare changes
  obtain ⟨hchecked, -⟩ := changes_settle .exact 0 app changes
  obtain ⟨-, hbare⟩ := changes_settle .exact 0 bare changes
  have hsettles := hchecked check [] rfl
  have hlast : check.after changes = last := by decide
  have hends : check.EndsInTime := ⟨by decide, by decide⟩
  refine ⟨⟨rfl, hends, ?_, ?_⟩, rfl, (hbare rfl).1⟩
  · rw [hsettles.settled, hlast]
  · rw [← hlast]
    exact hsettles.endsInTime hends

end FrameworkApp

end Rollout
