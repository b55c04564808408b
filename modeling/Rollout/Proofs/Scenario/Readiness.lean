import Rollout.Proofs.Cluster.Origin
import Rollout.Proofs.Http.Courses
import Rollout.Proofs.Orchestrator.Calls
import Rollout.Proofs.Scenario.Agreement
import Rollout.Proofs.Watch.Checks
import Rollout.Scenario.Basic
/-!
# Readiness scenarios

Both readiness scenarios submit an app and look at its deployment at two later instants. What these
instants are depends on the clock alone if answers take no time; what has to be seen at each of them
is laid down here, and which orchestrators pass by how long they take to complete a deployment.
-/

namespace Rollout.Scenario

open Http Wire Time

variable {σ : Type}

/-- The app of the timing scenario: its readiness check is made at long intervals. -/
def slowApp : App :=
  { FrameworkApp.app with
    readinessChecks := [⟨"readiness", "HTTP", FrameworkApp.readinessPath, "api",
      readinessInterval, 5, [200], true⟩] }

/-- The app of the other scenario: its readiness check cannot succeed. -/
def stuckApp : App :=
  { FrameworkApp.app with
    readinessChecks := [⟨"readiness", "HTTP", "/bad-path", "api",
      FrameworkApp.readinessIntervalSeconds, 5, [200], true⟩] }

theorem setReadinessInterval_app :
    FrameworkApp.setReadinessInterval FrameworkApp.app readinessInterval = .ok slowApp := rfl

theorem setReadinessPath_app :
    FrameworkApp.setReadinessPath FrameworkApp.app "/bad-path" = .ok stuckApp := rfl

/-! ## Two looks -/

/-- Submits an app, and looks at its deployment after one pause and after another. -/
def lookTwice (r : Remote σ) (app : App) (pause pause' : Run (Net σ) Fault Unit)
    (first second : String → Snapshot → Except Fault Unit) : Run (Net σ) Fault Unit :=
  r.addApp app >>= fun id => pause >>= fun _ =>
    (r.getDeployment id >>= fun snapshot => .ofExcept (first id snapshot)) >>= fun _ =>
      pause' >>= fun _ => r.getDeployment id >>= fun snapshot => .ofExcept (second id snapshot)

/-- A look at the deployment of an id shows something acceptable. -/
def Sees (r : Remote σ) (limit : Nat) (id : String) (accepted : Snapshot → Prop) (x : Exchange) :
    Prop :=
  ∃ snapshot, r.Shows limit id x snapshot ∧ accepted snapshot

/-- The course of two looks: an app is posted, and the deployments are listed at two instants. -/
def lookingTwice (r : Remote σ) (limit : Nat) (app : App) (first second : Snapshot → Prop)
    (t₀ t₁ t₂ : Nat) : Course :=
  .call t₀ (r.http.Posts "v2/apps" app) (r.Starts limit app) fun id =>
    .call t₁ (r.http.Sends "v2/deployments")
      (fun x (_ : Unit) => Sees r limit id first x) fun _ =>
      .call t₂ (r.http.Sends "v2/deployments") (fun x (_ : Unit) => Sees r limit id second x)
        fun _ => .finished

section

variable {r : Remote σ} {limit : Nat} {app : App} {first second : Snapshot → Prop}
  {t₀ t₁ t₂ : Nat} {xs : List Exchange} {passed : Bool}

/-- Two looks succeed exactly if all three exchanges are made and show what they have to. -/
theorem lookingTwice_passed_iff
    (h : lookingTwice r limit app first second t₀ t₁ t₂ xs passed) :
    passed = true ↔ ∃ x y z id, xs = [x, y, z] ∧ x.time = t₀ ∧ y.time = t₁ ∧
      z.time = t₂ ∧
      r.Starts limit app x id ∧ Sees r limit id first y ∧ Sees r limit id second z := by
  constructor
  · rintro rfl
    obtain ⟨x, id, _, rfl, hx, -, hstarts, hlooks⟩ := Course.call_passed_iff.mp h
    obtain ⟨y, _, _, rfl, hy, -, hfirst, hlast⟩ := Course.call_passed_iff.mp hlooks
    obtain ⟨z, _, _, rfl, hz, -, hsecond, rfl, -⟩ := Course.call_passed_iff.mp hlast
    exact ⟨x, y, z, id, rfl, hx, hy, hz, hstarts, hfirst, hsecond⟩
  · rintro ⟨x, y, z, id, rfl, -, -, -, hstarts, hfirst, hsecond⟩
    have hlooks := Course.call.rest h hstarts fun _ hother => hother.unique hstarts
    have hlast := hlooks.rest (a := ()) hfirst fun _ _ => rfl
    exact (hlast.rest (a := ()) hsecond fun _ _ => rfl).2

theorem lookingTwice_passed_iff_of_known
    (h : lookingTwice r limit app first second t₀ t₁ t₂ xs passed) (id : String)
    {early late : Prop}
    (hposts : ∃ q, r.http.Posts "v2/apps" app q) (hlists : ∃ q, r.http.Sends "v2/deployments" q)
    (hstarts : ∀ x ∈ xs, x.time = t₀ → r.http.Posts "v2/apps" app x.request →
      r.Starts limit app x id)
    (hfirst : ∀ x ∈ xs, x.time = t₁ → r.http.Sends "v2/deployments" x.request →
      (Sees r limit id first x ↔ early))
    (hsecond : ∀ x ∈ xs, x.time = t₂ → r.http.Sends "v2/deployments" x.request →
      (Sees r limit id second x ↔ late)) : passed = true ↔ early ∧ late := by
  obtain ⟨x, ys, rfl, hlooks⟩ := Course.call.goesOn_of_shows h hposts fun x hx htime hasked _ =>
    ⟨fun hother => hother.unique (hstarts x hx htime hasked), fun heq =>
      heq ▸ hstarts x hx htime hasked⟩
  have hfirst := (List.forall_mem_cons.mp hfirst).2
  have hsecond := (List.forall_mem_cons.mp hsecond).2
  by_cases hearly : early
  · obtain ⟨y, zs, rfl, hlast⟩ := hlooks.goesOn_of_shows (a := ()) hlists
      fun y hy htime hasked _ => ⟨fun _ => rfl, fun _ => (hfirst y hy htime hasked).mpr hearly⟩
    have hsecond := (List.forall_mem_cons.mp hsecond).2
    by_cases hlate : late
    · obtain ⟨z, rest, rfl, hfinished⟩ := hlast.goesOn_of_shows (a := ()) hlists
        fun z hz htime hasked _ =>
          ⟨fun _ => rfl, fun _ => (hsecond z hz htime hasked).mpr hlate⟩
      exact ⟨fun _ => ⟨hearly, hlate⟩, fun _ => hfinished.2⟩
    · have hfailed := hlast.eq_false_of_not_shows fun z hz htime hasked _ hsees =>
        hlate ((hsecond z hz htime hasked).mp hsees)
      rw [hfailed]
      exact ⟨nofun, fun h => absurd h.2 hlate⟩
  · have hfailed := hlooks.eq_false_of_not_shows fun y hy htime hasked _ hsees =>
      hearly ((hfirst y hy htime hasked).mp hsees)
    rw [hfailed]
    exact ⟨nofun, fun h => absurd h.1 hearly⟩

end

section

variable {r : Remote σ} {clock : Clock} (hclock : ∀ n, clock.lasting n ≤ n)
  (hinstant : Instantaneous r.http.server) (now : Nat)
include hclock hinstant

theorem look_takes (id : String) {verdict : Snapshot → Except Fault Unit}
    {accepted : Snapshot → Prop}
    (hverdict : ∀ snapshot, verdict snapshot = .ok () ↔ accepted snapshot) {next : Course}
    {f : Unit → Run (Net σ) Fault Unit} (hf : Takes r.http.server clock next now (f ())) :
    Takes r.http.server clock (.call now (r.http.Sends "v2/deployments")
        (fun x (_ : Unit) => Sees r (clock.lasting r.http.limit.nanos) id accepted x) fun _ => next)
      now ((r.getDeployment id >>= fun snapshot => .ofExcept (verdict snapshot)) >>= f) := by
  have hlook : Yields r.http.server clock (clock.lasting r.http.limit.nanos)
      (r.http.Sends "v2/deployments")
      (fun x (_ : Unit) => Sees r (clock.lasting r.http.limit.nanos) id accepted x)
      (r.getDeployment id >>= fun snapshot => .ofExcept (verdict snapshot)) :=
    ((r.yields_getDeployment hclock id).through verdict).congr fun x _ => by
      simp only [hverdict]
      exact Iff.rfl
  exact hlook.takes hinstant fun _ => hf

theorem lookTwice_takes (app : App) {pause pause' : Run (Net σ) Fault Unit} {n n' : Nat}
    (hpause : ∀ now net, pause clock now net = ⟨.done (), net, n⟩)
    (hpause' : ∀ now net, pause' clock now net = ⟨.done (), net, n'⟩)
    {first second : String → Snapshot → Except Fault Unit} {early late : Snapshot → Prop}
    (hfirst : ∀ id snapshot, first id snapshot = .ok () ↔ early snapshot)
    (hsecond : ∀ id snapshot, second id snapshot = .ok () ↔ late snapshot) :
    Takes r.http.server clock (lookingTwice r (clock.lasting r.http.limit.nanos) app early late now
      (now + n) (now + n + n')) now (lookTwice r app pause pause' first second) := by
  refine (r.yields_addApp hclock app).takes hinstant fun id => Takes.after ?_ (hpause now)
  refine look_takes hclock hinstant _ id (hfirst id) (Takes.after ?_ (hpause' _))
  have hlast := look_takes hclock hinstant (now + n + n') id (hsecond id)
    (f := fun _ => pure ()) takes_finished
  rwa [bind_pure_unit] at hlast

end

/-! ## The scenarios -/

/-- What the other scenario makes of its first look. -/
def presenceVerdict (h : Handle) (snapshot : Snapshot) : Except Fault Unit :=
  if snapshot.isSome then .ok ()
  else
    .error (.assertion ("deployment " ++ h.text ++ " finished despite a failing readiness check"))

theorem presenceVerdict_eq_ok_iff (h : Handle) (snapshot : Snapshot) :
    presenceVerdict h snapshot = .ok () ↔ snapshot.isSome = true := by
  unfold presenceVerdict
  split
  · exact ⟨fun _ => ‹_›, fun _ => rfl⟩
  · exact ⟨nofun, fun h => absurd h ‹_›⟩

theorem require_present (h : Handle) (snapshot : Snapshot) :
    (require snapshot.isSome
        ("deployment " ++ h.text ++ " finished despite a failing readiness check") :
      Run σ Fault Unit) = .ofExcept (presenceVerdict h snapshot) := by
  cases snapshot <;> rfl

section

variable {c : Cluster σ} {root : Remote σ} (hroot : c.root = .ok root) (t : Timings)
include hroot

theorem readinessTimeCheck_eq : readinessTimeCheck c t =
    lookTwice root slowApp (t.sleep beforeFirstCheck) (t.sleep pastFirstCheck)
      (fun id => Watch.readinessVerdict ⟨id, slowApp.id, .deploy⟩ false)
      (fun _ => Watch.absenceVerdict) := by
  have hbody := Run.Agree.bind ((c.watch root).submitApp_over slowApp) fun handle =>
    .bind (t.sleep_agree beforeFirstCheck) fun _ =>
      .bind ((c.watch root).assertReadiness_over handle false) fun _ =>
        .bind (t.sleep_agree pastFirstCheck) fun _ => (c.watch root).assertAbsent_over handle
  have heq := hbody.startingWith_eq Ledger.empty
  unfold readinessTimeCheck
  rw [hroot, setReadinessInterval_app]
  simp only [bind_assoc, pure_bind] at heq
  change (pure root >>= fun r => pure slowApp >>= fun app => _) = _
  rw [pure_bind, pure_bind, heq]
  unfold lookTwice
  simp only [bind_assoc]
  rfl

theorem readinessTestTimeout_eq : readinessTestTimeout c t =
    lookTwice root stuckApp (t.sleep stuckWait) (pure ())
      (fun id => presenceVerdict ⟨id, stuckApp.id, .deploy⟩)
      (fun id => Watch.readinessVerdict ⟨id, stuckApp.id, .deploy⟩ false) := by
  have hbody := Run.Agree.bind ((c.watch root).submitApp_over stuckApp) fun handle =>
    .bind (t.sleep_agree stuckWait) fun _ =>
      .bind ((c.watch root).observe_over handle) fun snapshot =>
        .bind (.ofExcept (presenceVerdict handle snapshot)) fun _ =>
          (c.watch root).assertReadiness_over handle false
  have heq := hbody.startingWith_eq Ledger.empty
  unfold readinessTestTimeout
  rw [hroot, setReadinessPath_app]
  simp only [require_present]
  simp only [bind_assoc, pure_bind] at heq
  change (pure root >>= fun r => pure stuckApp >>= fun app => _) = _
  rw [pure_bind, pure_bind, heq]
  unfold lookTwice
  simp only [bind_assoc, pure_bind]
  rfl

end

/-- A run that submits an app and looks at its deployment at two instants: how far it gets, and what
has to be seen for it to succeed. -/
def LooksTwice (server : Server σ) (r : Remote σ) (limit : Nat) (app : App)
    (first second : Snapshot → Prop) (t₀ t₁ t₂ : Nat) (net : Net σ)
    (step : Step (Net σ) Fault Unit) : Prop :=
  ∃ xs passed, Exchanges server net xs step.state ∧
    lookingTwice r limit app first second t₀ t₁ t₂ xs passed ∧
    (step.outcome = .done () ↔ passed = true) ∧
    (passed = true ↔ ∃ x y z id, xs = [x, y, z] ∧ x.time = t₀ ∧ y.time = t₁ ∧
      z.time = t₂ ∧
      r.Starts limit app x id ∧ Sees r limit id first y ∧ Sees r limit id second z)

/-- A server that can be asked for an app and for the deployments, accepts the app at some instant
and lists its deployment as not ready for some time from then on, and not at all afterwards. -/
structure Completes (server : Server σ) (r : Remote σ) (limit : Nat) (app : App)
    (start duration : Nat) : Prop where
  posts : ∃ q, r.http.Posts "v2/apps" app q
  lists : ∃ q, r.http.Sends "v2/deployments" q
  completes : ∃ id,
    (∀ q u, r.http.Posts "v2/apps" app q →
      r.Starts limit app ⟨start, q, (server start q u).1⟩ id) ∧
    ∀ time q u, r.http.Sends "v2/deployments" q → start ≤ time →
      Sees r limit id (fun snapshot =>
        if time < start + duration then snapshot.Reports false else snapshot = none)
        ⟨time, q, (server time q u).1⟩

theorem LooksTwice.of_takes {server : Server σ} {clock : Clock} {r : Remote σ} {limit : Nat}
    {app : App} {first second : Snapshot → Prop} {now t₁ t₂ : Nat}
    {x : Run (Net σ) Fault Unit}
    (h : Takes server clock (lookingTwice r limit app first second now t₁ t₂) now x)
    (net : Net σ) :
    LooksTwice server r limit app first second now t₁ t₂ net (x clock now net) := by
  obtain ⟨xs, passed, hxs, hcourse, hdone⟩ := h net
  exact ⟨xs, passed, hxs, hcourse, hdone, lookingTwice_passed_iff hcourse⟩

section

variable {server : Server σ} {r : Remote σ} {limit : Nat} {app : App}
  {first second : Snapshot → Prop} {t₀ t₁ t₂ : Nat} {net : Net σ}
  {step : Step (Net σ) Fault Unit}
  {duration : Nat}

theorem sees_iff_of_completes {id : String} {x : Exchange} {pending : Prop} [Decidable pending]
    {accepted : Snapshot → Prop} {known : Prop}
    (hsees : Sees r limit id (fun snapshot =>
      if pending then snapshot.Reports false else snapshot = none) x)
    (hpending : pending → ∀ snapshot : Snapshot, snapshot.Reports false →
      (accepted snapshot ↔ known))
    (hgone : ¬ pending → (accepted none ↔ known)) : Sees r limit id accepted x ↔ known := by
  obtain ⟨snapshot, hshows, hsnapshot⟩ := hsees
  have hseen : Sees r limit id accepted x ↔ accepted snapshot := by
    constructor
    · rintro ⟨other, hother, haccepted⟩
      rwa [hshows.unique hother]
    · exact fun haccepted => ⟨snapshot, hshows, haccepted⟩
  rw [hseen]
  by_cases hnow : pending
  · rw [if_pos hnow] at hsnapshot
    exact hpending hnow snapshot hsnapshot
  · rw [if_neg hnow] at hsnapshot
    rw [hsnapshot]
    exact hgone hnow

/-- Which servers pass, by the time for which they list the deployment. -/
theorem LooksTwice.done_iff (h : LooksTwice server r limit app first second t₀ t₁ t₂ net step)
    (hserver : Completes server r limit app t₀ duration) (h₁ : t₀ ≤ t₁)
    (h₂ : t₁ ≤ t₂) {early late : Prop}
    (hearly : t₁ < t₀ + duration → ∀ snapshot : Snapshot, snapshot.Reports false →
      (first snapshot ↔ early))
    (hearly' : ¬ t₁ < t₀ + duration → (first none ↔ early))
    (hlate : t₂ < t₀ + duration → ∀ snapshot : Snapshot, snapshot.Reports false →
      (second snapshot ↔ late))
    (hlate' : ¬ t₂ < t₀ + duration → (second none ↔ late)) :
    step.outcome = .done () ↔ early ∧ late := by
  obtain ⟨xs, passed, hxs, hcourse, hdone, -⟩ := h
  obtain ⟨id, hstarts, hlisted⟩ := hserver.completes
  have hreplies := hxs.reply_of_mem
  rw [hdone]
  apply lookingTwice_passed_iff_of_known hcourse id hserver.posts hserver.lists
  · rintro ⟨_, q, reply⟩ hx rfl hposts
    obtain ⟨u, hreply⟩ := hreplies _ hx
    simp only at hreply hposts
    rw [hreply]
    exact hstarts q u hposts
  · rintro ⟨_, q, reply⟩ hx rfl hsends
    obtain ⟨u, hreply⟩ := hreplies _ hx
    simp only at hreply hsends
    rw [hreply]
    exact sees_iff_of_completes (hlisted _ q u hsends h₁) hearly hearly'
  · rintro ⟨_, q, reply⟩ hx rfl hsends
    obtain ⟨u, hreply⟩ := hreplies _ hx
    simp only at hreply hsends
    rw [hreply]
    exact sees_iff_of_completes (hlisted _ q u hsends (h₁.trans h₂)) hlate hlate'

end

section

variable {server : Server σ} {r : Remote σ} {limit : Nat} {app : App} {t₀ t₁ t₂ : Nat}
  {net : Net σ} {step : Step (Net σ) Fault Unit} {duration : Nat}

/-- A run that has to see the deployment not ready, and then not at all, succeeds if the deployment
is completed between its looks. -/
theorem LooksTwice.done_iff_between
    (h : LooksTwice server r limit app (Snapshot.Reports false) (· = none) t₀ t₁ t₂ net step)
    (hserver : Completes server r limit app t₀ duration) (h₁ : t₀ ≤ t₁)
    (h₂ : t₁ ≤ t₂) :
    step.outcome = .done () ↔ t₁ < t₀ + duration ∧ t₀ + duration ≤ t₂ := by
  apply h.done_iff hserver h₁ h₂
  · exact fun hpending _ hreports => iff_of_true hreports hpending
  · exact fun hgone => iff_of_false Snapshot.not_reports_none hgone
  · intro hpending snapshot hreports
    refine iff_of_false (fun hnone => ?_) (Nat.not_le.mpr hpending)
    rw [hnone] at hreports
    exact Snapshot.not_reports_none hreports
  · exact fun hgone => iff_of_true rfl (Nat.not_lt.mp hgone)

theorem LooksTwice.done_iff_beyond
    (h : LooksTwice server r limit app (·.isSome = true) (Snapshot.Reports false)
      t₀ t₁ t₁ net step)
    (hserver : Completes server r limit app t₀ duration) (h₁ : t₀ ≤ t₁) :
    step.outcome = .done () ↔ t₁ < t₀ + duration := by
  rw [← and_self (t₁ < t₀ + duration)]
  apply h.done_iff hserver h₁ (Nat.le_refl t₁)
  · exact fun hpending _ hreports => iff_of_true hreports.isSome hpending
  · exact fun hgone => iff_of_false nofun hgone
  · exact fun hpending _ hreports => iff_of_true hreports hpending
  · exact fun hgone => iff_of_false Snapshot.not_reports_none hgone

end

section

variable {c : Cluster σ} {root : Remote σ} (hroot : c.root = .ok root) (s : Settings)
  {clock : Clock} (hclock : ∀ n, clock.lasting n ≤ n)
  (hinstant : Instantaneous root.http.server) (now : Nat) (net : Net σ)
include hroot hclock hinstant

theorem readinessTimeCheck_looksTwice :
    let pause (n : Nat) := clock.lasting (s.timeUnit.nanos * n)
    LooksTwice root.http.server root (clock.lasting root.http.limit.nanos) slowApp
      (Snapshot.Reports false) (· = none) now (now + pause 20) (now + pause 20 + pause 12) net
      (readinessTimeCheck c (.ofSettings s) clock now net) := by
  intro pause
  have htakes := lookTwice_takes (r := root) hclock hinstant now slowApp
    (Cluster.sleep_ofSettings s (n := beforeFirstCheck) (by decide) clock)
    (Cluster.sleep_ofSettings s (n := pastFirstCheck) (by decide) clock)
    (fun id => Watch.readinessVerdict_eq_ok_iff ⟨id, slowApp.id, .deploy⟩ false)
    (fun _ => Watch.absenceVerdict_eq_ok_iff)
  rw [← readinessTimeCheck_eq hroot] at htakes
  exact .of_takes htakes net

theorem readinessTestTimeout_looksTwice :
    let pause (n : Nat) := clock.lasting (s.timeUnit.nanos * n)
    LooksTwice root.http.server root (clock.lasting root.http.limit.nanos) stuckApp
      (·.isSome = true) (Snapshot.Reports false) now (now + pause 60) (now + pause 60) net
      (readinessTestTimeout c (.ofSettings s) clock now net) := by
  intro pause
  have hnone (now : Nat) (net : Net σ) : (pure () : Run (Net σ) Fault Unit) clock now net =
      ⟨.done (), net, 0⟩ := rfl
  have htakes := lookTwice_takes (r := root) hclock hinstant now stuckApp
    (Cluster.sleep_ofSettings s (n := stuckWait) (by decide) clock) hnone
    (fun id => presenceVerdict_eq_ok_iff ⟨id, stuckApp.id, .deploy⟩)
    (fun id => Watch.readinessVerdict_eq_ok_iff ⟨id, stuckApp.id, .deploy⟩ false)
  rw [← readinessTestTimeout_eq hroot] at htakes
  exact .of_takes htakes net

end

/-- The readiness scenarios of a configured cluster look at the deployment at instants that only
depend on the clock if answers take no time, and they succeed by what these looks show. An
orchestrator passes the first one if it completes the deployment between the two looks, and the
other one if it has not completed it by then. -/
theorem readiness_scenarios_iff {server : Server σ} {s : Settings} {c : Cluster σ}
    (h : Cluster.ofSettings server s = .ok c) (hinstant : Instantaneous server) {clock : Clock}
    (hclock : ∀ n, clock.lasting n ≤ n) (now : Nat) (net : Net σ) :
    let limit := clock.lasting s.requestTimeout.nanos
    let pause (n : Nat) := clock.lasting (s.timeUnit.nanos * n)
    let timed := readinessTimeCheck c (.ofSettings s) clock now net
    let stuck := readinessTestTimeout c (.ofSettings s) clock now net
    ∃ root, c.root = .ok root ∧
      LooksTwice server root limit slowApp (Snapshot.Reports false) (· = none) now (now + pause 20)
        (now + pause 20 + pause 12) net timed ∧
      LooksTwice server root limit stuckApp (·.isSome = true) (Snapshot.Reports false) now
        (now + pause 60)
        (now + pause 60) net stuck ∧
      ∀ duration,
        (Completes server root limit slowApp now duration →
          (timed.outcome = .done () ↔
            pause 20 < duration ∧ duration ≤ pause 20 + pause 12)) ∧
        (Completes server root limit stuckApp now duration →
          (stuck.outcome = .done () ↔ pause 60 < duration)) := by
  intro limit pause timed stuck
  obtain ⟨root, hroot, hserver, hlimit⟩ := Cluster.root_of_ofSettings h
  subst hserver
  have hlasting : clock.lasting root.http.limit.nanos = limit := by rw [hlimit]
  have htimed : LooksTwice root.http.server root limit slowApp (Snapshot.Reports false)
    (· = none) now
      (now + pause 20) (now + pause 20 + pause 12) net timed :=
    hlasting ▸ readinessTimeCheck_looksTwice hroot s hclock hinstant now net
  have hstuck : LooksTwice root.http.server root limit stuckApp (·.isSome = true)
    (Snapshot.Reports false)
      now (now + pause 60) (now + pause 60) net stuck :=
    hlasting ▸ readinessTestTimeout_looksTwice hroot s hclock hinstant now net
  refine ⟨root, hroot, htimed, hstuck,
    fun duration => ⟨fun hserver => ?_, fun hserver => ?_⟩⟩
  · rw [htimed.done_iff_between hserver (by omega) (by omega)]
    omega
  · rw [hstuck.done_iff_beyond hserver (by omega)]
    omega

/-! ## A server that completes deployments -/

/-- A deployment whose readiness check has not succeeded yet. -/
def pendingDeployment : Deployment :=
  { id := "d"
    version := "1"
    affectedApps := []
    affectedPods := []
    steps := []
    currentActions := [⟨"StartApplication", none, none, [⟨"readiness", "t", false, none⟩]⟩]
    currentStep := 0
    totalSteps := 0 }

/-- The answer to a submission that has started one deployment. -/
def startedText : String := "\x7b\"id\":\"/a\",\"deployments\":[\x7b\"id\":\"d\"\x7d]\x7d"

/-- A server that starts a deployment for every app, and lists it as not ready up to some instant,
and no longer from then on. -/
def completing (duration : Nat) : Server Unit := fun now q u =>
  let reply (status : Status) (text : String) : Reply × Unit :=
    (⟨0, .response status (Text.toBytes text) .complete⟩, u)
  if q.method = .post then reply 201 startedText
  else reply 200 (if now < duration then Json.encode [pendingDeployment] else "[]")

def completingCluster (duration : Nat) (s : Settings) : Cluster Unit :=
  Cluster.configured (completing duration) (Cluster.endlessUrl [""]) s

def completingRoot (duration : Nat) (s : Settings) : Remote Unit :=
  ⟨(completingCluster duration s).http.rebased (Cluster.endlessUrl ["marathon", ""]), .root⟩

theorem root_completing (duration : Nat) (s : Settings) :
    (completingCluster duration s).root = .ok (completingRoot duration s) := by
  have hjoin : (Cluster.endlessUrl [""]).join (Text.trimStart '/' Context.root.basePath) =
      .ok (Cluster.endlessUrl ["marathon", ""]) := Json.eq_ok_of_toOption (by decide +kernel)
  have hbase : (completingCluster duration s).http.base = Cluster.endlessUrl [""] := rfl
  unfold Cluster.root Cluster.remote Client.url
  rw [hbase, hjoin]
  rfl

theorem instantaneous_completing (duration : Nat) : Instantaneous (completing duration) := by
  intro now q u
  unfold completing
  simp only
  split <;> rfl

theorem decode_startedText : ∃ created : AppCreated,
    Json.decodeBytes (Text.toBytes startedText) = .ok created ∧
      created.deployments = [⟨"d"⟩] := by
  have hdecoded : ((Json.decodeBytes (Text.toBytes startedText) :
      Except Json.Fault AppCreated).toOption.map (·.deployments)) = some [⟨"d"⟩] := by
    decide +kernel
  obtain ⟨created, hcreated, hdeployments⟩ := Option.map_eq_some_iff.mp hdecoded
  exact ⟨created, Json.eq_ok_of_toOption hcreated, hdeployments⟩

theorem decode_listing (pending : Prop) [Decidable pending] : Json.decodeBytes
    (Text.toBytes (if pending then Json.encode [pendingDeployment] else "[]")) =
      .ok (if pending then [pendingDeployment] else []) := by
  by_cases h : pending
  · rw [if_pos h, if_pos h]
    exact Json.eq_ok_of_toOption (by decide +kernel)
  · rw [if_neg h, if_neg h]
    exact Json.eq_ok_of_toOption (by decide +kernel)

theorem completes_completing {s : Settings} (hs : s.requestTimeout.isZero = false) {limit : Nat}
    (hlimit : 0 < limit) (app : App) (duration : Nat) :
    Completes (completing duration) (completingRoot duration s) limit app 0 duration where
  posts := by
    have hjoin : (Cluster.endlessUrl ["marathon", ""]).join (Text.trimStart '/' "v2/apps") =
        .ok (Cluster.endlessUrl ["marathon", "v2", "apps"]) :=
      Json.eq_ok_of_toOption (by decide +kernel)
    exact ⟨_, Client.makes_of_join _ .post id _ hjoin (by decide +kernel)
      (by decide +kernel) hs⟩
  lists := by
    have hjoin : (Cluster.endlessUrl ["marathon", ""]).join (Text.trimStart '/' "v2/deployments") =
        .ok (Cluster.endlessUrl ["marathon", "v2", "deployments"]) :=
      Json.eq_ok_of_toOption (by decide +kernel)
    have hmakes := Client.makes_of_join (completingRoot duration s).http .get id none hjoin
      (by decide +kernel) (by decide +kernel) hs
    exact ⟨_, (Client.makes_get_iff _).mp hmakes⟩
  completes := by
    refine ⟨"d", fun q u hposts => ⟨hposts, ?_⟩, fun time q u hsends hstart => ?_⟩
    · obtain ⟨_, -, hq⟩ := hposts.made
      have hmethod : q.method = .post := hq ▸ Client.method_request _ _ _ _
      obtain ⟨created, hdecode, hdeployments⟩ := decode_startedText
      have hreply : (completing duration 0 q u).1 =
          ⟨0, .response 201 (Text.toBytes startedText) .complete⟩ := by
        unfold completing
        simp only [hmethod, if_true]
      simp only [hreply]
      exact ⟨created, ⟨hlimit, 201, _, rfl, rfl, hdecode⟩, _, _, hdeployments, rfl⟩
    · obtain ⟨_, -, hq⟩ := hsends.asked
      have hmethod : q.method = .get := hq ▸ Client.method_request _ _ _ _
      have hreply : (completing duration time q u).1 = ⟨0, .response 200 (Text.toBytes
          (if time < duration then Json.encode [pendingDeployment] else "[]")) .complete⟩ := by
        unfold completing
        simp only [hmethod, reduceCtorEq, if_false]
      simp only [hreply, Nat.zero_add]
      refine ⟨_, ⟨hsends, _, ⟨hlimit, 200, _, rfl, rfl, decode_listing _⟩,
        listed_find? _ _⟩, ?_⟩
      by_cases hpending : time < duration
      · simp only [if_pos hpending]
        exact ⟨pendingDeployment, _, _, rfl, rfl, rfl, rfl⟩
      · simp only [if_neg hpending]
        rfl

/-- A deployment that completes just at the second look passes the first scenario, but not the other
one. -/
theorem readiness_scenarios_iff_completing :
    let s := Settings.forCluster "http://c"
    let duration := 32 * nanosPerSecond
    let c := completingCluster duration s
    let net : Net Unit := ⟨(), []⟩
    c.root = .ok (completingRoot duration s) ∧
      (readinessTimeCheck c (.ofSettings s) .exact 0 net).outcome = .done () ∧
      (readinessTestTimeout c (.ofSettings s) .exact 0 net).outcome ≠ .done () := by
  intro s duration c net
  have hc : Cluster.ofSettings (completing duration) s = .ok c :=
    Cluster.ofSettings_eq (Json.eq_ok_of_toOption (by decide +kernel))
      (Json.eq_ok_of_toOption (by decide +kernel)) rfl _
  have hroot : c.root = .ok (completingRoot duration s) := root_completing duration s
  obtain ⟨root, hknown, -, -, hpasses⟩ := readiness_scenarios_iff hc
    (instantaneous_completing duration) (fun n => Nat.le_of_eq (Clock.lasting_exact n)) 0 net
  obtain rfl : completingRoot duration s = root := Except.ok.inj (hroot.symm.trans hknown)
  obtain ⟨htimed, hstuck⟩ := hpasses duration
  have hlimit : 0 < Clock.exact.lasting s.requestTimeout.nanos := by decide
  refine ⟨hroot, ?_, ?_⟩
  · apply (htimed (completes_completing rfl hlimit slowApp duration)).mpr
    decide
  · intro hdone
    have hlong := (hstuck (completes_completing rfl hlimit stuckApp duration)).mp hdone
    exact absurd hlong (by decide)

/-- Settings with a time unit that is as long as a sleep can be. -/
def lengthy : Settings := { Settings.forCluster "http://c" with timeUnitMs := 946080000000 }

/-- Sleeps that are cut short make the looks early: a pause of twenty such units lasts no longer
than one, and so does one of twelve. A deployment that takes a unit and a half then passes the
first scenario. -/
theorem readiness_looks_early :
    let unit := lengthy.timeUnit.nanos
    let duration := unit + unit / 2
    let c := completingCluster duration lengthy
    let limit := Clock.usual.lasting lengthy.requestTimeout.nanos
    let net : Net Unit := ⟨(), []⟩
    let step := readinessTimeCheck c (.ofSettings lengthy) .usual 0 net
    Cluster.ofSettings (completing duration) lengthy = .ok c ∧
      c.root = .ok (completingRoot duration lengthy) ∧
      Completes (completing duration) (completingRoot duration lengthy) limit slowApp 0 duration ∧
      step.state.sent.map Sent.time = [0, unit, 2 * unit] ∧
      step.outcome = .done () ∧ ¬ (20 * unit < duration ∧ duration ≤ 32 * unit) := by
  intro unit duration c limit net step
  have hlimit : 0 < limit := by decide
  have hc : Cluster.ofSettings (completing duration) lengthy = .ok c :=
    Cluster.ofSettings_eq (Json.eq_ok_of_toOption (by decide +kernel))
      (Json.eq_ok_of_toOption (by decide +kernel)) rfl _
  have hrun : (step.state.sent.map Sent.time, step.outcome) = ([0, unit, 2 * unit], .done ()) := by
    decide +kernel
  obtain ⟨hsent, hdone⟩ := Prod.mk.inj hrun
  exact ⟨hc, root_completing duration lengthy, completes_completing rfl hlimit slowApp duration,
    hsent, hdone, by decide⟩

end Rollout.Scenario
