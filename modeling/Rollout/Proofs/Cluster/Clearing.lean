import Rollout.Proofs.Cluster.Verdicts
import Rollout.Proofs.Http.Instants
/-!
# Clearing an orchestrator

All apps are gone, and the deployments have settled, exactly if every answer says so: the apps are
listed, each of them is removed or is not there, and the deployments are listed until there is none.
The listing without any has to be asked for in the time there is from the last removal on. It may be
answered after that.
-/

namespace Rollout

open Http Time Wire

variable {σ : Type}

namespace Remote

variable (r : Remote σ) (clock : Clock) (limit : Nat) (moment : Exchange → Nat)

/-- Deployments are listed until there is none, which is the case by a deadline: `moment` is the
instant that counts. -/
def SettlesBy (deadline : Nat) (xs : List Exchange) : Prop :=
  ∃ ys x, xs = ys ++ [x] ∧ (∀ y ∈ ys, r.Busy limit y) ∧ r.Lists limit x [] ∧
    moment x ≤ deadline

/-- All apps are listed, each of them is removed or is not there, and the deployments settle by some
time after the last of these answers. -/
def ClearsBy (timeout : Span) (xs : List Exchange) : Prop :=
  ∃ x apps removals settled, xs = x :: (removals ++ settled) ∧ r.ListsApps limit x apps ∧
    List.Forall₂ (fun app e => (∃ deployment, r.Accepts limit app.id e deployment) ∨
      r.Misses limit app.id e) apps removals ∧
    r.SettlesBy limit moment (ended clock limit 0 (x :: removals) + timeout.nanos) settled

/-- An app is removed, and the deployments settle by some time after the answer, or there is no such
app. -/
def WithdrawsBy (timeout : Span) (id : String) (xs : List Exchange) : Prop :=
  (∃ x settled deployment, xs = x :: settled ∧ r.Accepts limit id x deployment ∧
      r.SettlesBy limit moment (x.over clock limit + timeout.nanos) settled) ∨
    ∃ x, xs = [x] ∧ r.Misses limit id x

section

variable {r limit}

theorem Lists.not_busy {x : Exchange} (h : r.Lists limit x []) : ¬ r.Busy limit x := by
  rintro ⟨d, ds, hbusy⟩
  cases h.2.unique hbusy.2

variable {clock}

theorem punctual_listApps :
    Punctual r.http.server clock (clock.lasting r.http.limit.nanos) r.listApps :=
  (r.http.punctual_get clock "v2/apps").bind fun _ => .pure _

theorem punctual_removeApp (id : String) :
    Punctual r.http.server clock (clock.lasting r.http.limit.nanos) (r.removeApp id true) :=
  ((r.http.punctual_delete clock _).mapFault Fault.isNotFound_ofSubmission).bind fun _ => .pure _

end

end Remote

namespace Cluster

variable (c : Cluster σ)

section

variable {clock : Clock} (hclock : ∀ n, clock.lasting n ≤ n)
  (hinterval : 0 < c.pollInterval.nanos)
  (r : Remote σ)
include hclock hinterval

theorem deploymentWait_tellsFrom :
    TellsFrom r.http.server clock (fun now xs _ =>
        r.SettlesBy (clock.lasting r.http.limit.nanos) Exchange.time
          (now + c.deploymentWaitTimeout.nanos) xs)
      (c.deploymentWait r) := by
  intro now net
  by_cases hdeadline : now + c.deploymentWaitTimeout.nanos < instantLimit
  · obtain ⟨xs, hxs, -, htimes, hdecided⟩ :=
      c.deploymentWaitFor_decided clock hinterval hdeadline net r
    refine ⟨xs, hxs, fun _ => hdecided.met_iff.trans ⟨fun hturns => ?_, ?_⟩⟩
    · obtain ⟨ys, x, rfl, hys, hx⟩ :=
        hturns.last hdecided.earlier fun x hbusy hlists => hlists.not_busy hbusy
      have htime := htimes hclock x (List.mem_append_right _ (List.mem_singleton_self x))
      exact ⟨ys, x, rfl, hys, hx, htime⟩
    · rintro ⟨ys, x, rfl, hys, hx, -⟩
      exact ⟨ys, x, [], rfl, hys, hx⟩
  · have hpanics : c.deploymentWait r clock now net =
        ⟨.panicked "overflow when adding duration to instant", net, 0⟩ := by
      unfold deploymentWait deploymentWaitFor Run.awaitUntil
      rw [Run.bind_apply, Run.bind_apply,
        Run.pollUntil_of_no_deadline _ _ (p := c.patience c.deploymentWaitTimeout) hdeadline]
    rw [hpanics]
    refine ⟨[], .start, fun _ => ⟨nofun, ?_⟩⟩
    rintro ⟨ys, x, hnil, -⟩
    cases (List.append_eq_nil_iff.mp hnil.symm).2

theorem deleteAllAppsWait_tellsFrom :
    TellsFrom r.http.server clock (fun _ xs _ =>
        r.ClearsBy clock (clock.lasting r.http.limit.nanos) Exchange.time
          c.deploymentWaitTimeout xs)
      (c.deleteAllAppsWait r) := by
  have hpunctual : Punctual r.http.server clock (clock.lasting r.http.limit.nanos)
      (r.listApps >>= fun apps => Run.forEach apps fun app => tolerateNotFound do
        let _ ← r.removeApp app.id true) := by
    refine r.punctual_listApps.bind fun apps => .forEach (fun app => ?_) apps
    rw [tolerateNotFound_eq]
    exact (r.punctual_removeApp app.id).found.bind fun _ => .pure ()
  have hremoved := (r.yields_listApps hclock).leads.bind (removals_leads hclock r)
  have hcleared := hremoved.bind_tellsFrom hpunctual fun _ =>
    c.deploymentWait_tellsFrom hclock hinterval r
  rw [bind_assoc] at hcleared
  intro now net
  obtain ⟨xs, hxs, htells⟩ := hcleared now net
  refine ⟨xs, hxs, fun a => (htells a).trans ?_⟩
  constructor
  · rintro ⟨_, _, settled,
      rfl, ⟨_, apps, removals, ⟨x, rfl, hx⟩, hremovals, rfl⟩, hsettled⟩
    refine ⟨x, apps, removals, settled, rfl, hx, hremovals, ?_⟩
    rwa [List.singleton_append, ended_cons clock _ now 0] at hsettled
  · rintro ⟨x, apps, removals, settled, rfl, hx, hremovals, hsettled⟩
    refine ⟨x :: removals, (), settled, rfl, ?_, ?_⟩
    · exact ⟨[x], apps, removals, ⟨x, rfl, hx⟩, hremovals, rfl⟩
    · rwa [ended_cons clock _ now 0]

theorem removeAppWait_tellsFrom (id : String) :
    TellsFrom r.http.server clock (fun _ xs _ =>
        r.WithdrawsBy clock (clock.lasting r.http.limit.nanos) Exchange.time
          c.deploymentWaitTimeout id xs)
      (c.removeAppWait r id) := by
  have hwait (o : Option String) : TellsFrom r.http.server clock
      (fun now xs _ => if o.isSome then r.SettlesBy (clock.lasting r.http.limit.nanos) Exchange.time
        (now + c.deploymentWaitTimeout.nanos) xs else xs = [])
      (if o.isSome then c.deploymentWait r else pure ()) := by
    cases o with
    | some deployment => exact c.deploymentWait_tellsFrom hclock hinterval r
    | none => exact fun now net => ⟨[], .start, fun _ => ⟨fun _ => rfl, fun _ => rfl⟩⟩
  have hremoved := (r.found_removeApp_leads hclock id).bind_tellsFrom
    (r.punctual_removeApp id).found hwait
  rw [removeAppWait_eq]
  intro now net
  obtain ⟨xs, hxs, htells⟩ := hremoved now net
  refine ⟨xs, hxs, fun a => (htells a).trans ?_⟩
  constructor
  · rintro ⟨_, o, settled, rfl, ⟨x, rfl, hx⟩, hsettled⟩
    cases o with
    | some deployment => exact .inl ⟨x, settled, deployment, rfl, hx, hsettled⟩
    | none =>
        obtain rfl : settled = [] := hsettled
        exact .inr ⟨x, rfl, hx⟩
  · rintro (⟨x, settled, deployment, rfl, hx, hsettled⟩ | ⟨x, rfl, hx⟩)
    · exact ⟨[x], some deployment, settled, rfl, ⟨x, rfl, hx⟩, hsettled⟩
    · exact ⟨[x], none, [], rfl, ⟨x, rfl, hx⟩, rfl⟩

end

/-- Whatever a server answers, an upkeep of a configured cluster that removes apps succeeds exactly
if the answers say that the apps are gone and, in time, that nothing is deployed any more. Nothing
is sent but what this takes. -/
theorem clearings_iff {s : Settings} {server : Server σ} {c : Cluster σ}
    (h : ofSettings server s = .ok c) {clock : Clock} (hclock : ∀ n, clock.lasting n ≤ n)
    (r : Remote σ) (now : Nat) (net : Net σ) :
    let limit := clock.lasting r.http.limit.nanos
    (let step := c.deleteAllAppsWait r clock now net
      ∃ xs, Exchanges r.http.server net xs step.state ∧
        (step.outcome = .done () ↔
          r.ClearsBy clock limit Exchange.time s.deploymentWaitTimeout xs)) ∧
    ∀ id, let step := c.removeAppWait r id clock now net
      ∃ xs, Exchanges r.http.server net xs step.state ∧
        (step.outcome = .done () ↔
          r.WithdrawsBy clock limit Exchange.time s.deploymentWaitTimeout id xs) := by
  obtain ⟨hvalid, hpoll, hdeployment, -⟩ := times_of_ofSettings h
  have hinterval : 0 < s.pollInterval.nanos := (Settings.pos_of_validate hvalid).1
  rw [← hpoll] at hinterval
  rw [← hdeployment]
  refine ⟨?_, fun id => ?_⟩
  · obtain ⟨xs, hxs, htells⟩ := c.deleteAllAppsWait_tellsFrom hclock hinterval r now net
    exact ⟨xs, hxs, htells ()⟩
  · obtain ⟨xs, hxs, htells⟩ := c.removeAppWait_tellsFrom hclock hinterval r id now net
    exact ⟨xs, hxs, htells ()⟩

/-- A server with one app that is removed at once. It takes two seconds to say that nothing is
deployed. -/
def ponderingServer : Server Nat := fun _ _ n =>
  let reply (delay : Nat) (text : String) : Reply × Nat :=
    (⟨delay, .response 200 (Text.toBytes text) .complete⟩, n + 1)
  match n with
  | 0 => reply 0 "\x7b\"apps\":[\x7b\"id\":\"/a\"\x7d]\x7d"
  | 1 => reply 0 "\x7b\"deploymentId\":\"d\",\"version\":\"1\"\x7d"
  | _ => reply (Span.ofSecs 2).nanos "[]"

/-- Settings with one second for deployments to settle. -/
def hasty : Settings := { Settings.forCluster "http://c" with deploymentWaitTimeoutSecs := 1 }

def ponderingCluster : Cluster Nat := configured ponderingServer (endlessUrl [""]) hasty

def ponderingRemote : Remote Nat :=
  ⟨ponderingCluster.http.rebased (endlessUrl ["marathon", ""]), .root⟩

theorem ofSettings_pondering : ofSettings ponderingServer hasty = .ok ponderingCluster :=
  ofSettings_eq (Json.eq_ok_of_toOption (by decide +kernel))
    (Json.eq_ok_of_toOption (by decide +kernel)) rfl ponderingServer

/-- An app is removed, and nothing is deployed any more, which was asked for in time. -/
theorem clearings_iff_pondering :
    let step := ponderingCluster.deleteAllAppsWait ponderingRemote .exact 0 ⟨0, []⟩
    let limit := Clock.exact.lasting ponderingRemote.http.limit.nanos
    (∀ n, Clock.exact.lasting n ≤ n) ∧ step.outcome = .done () ∧
      ∃ xs, Exchanges ponderingServer ⟨0, []⟩ xs step.state ∧
        ponderingRemote.ClearsBy .exact limit Exchange.time hasty.deploymentWaitTimeout xs := by
  intro step limit
  have hclock (n : Nat) : Clock.exact.lasting n ≤ n := Nat.le_refl n
  have hdone : step.outcome = .done () := by decide +kernel
  obtain ⟨⟨xs, hxs, hiff⟩, -⟩ :=
    clearings_iff ofSettings_pondering hclock ponderingRemote 0 ⟨0, []⟩
  exact ⟨hclock, hdone, xs, hxs, hiff.mp hdone⟩

/-- Success although the listing without deployments is there only after two of the one second that
there is. -/
theorem deleteAllAppsWait_outlasts :
    let step := ponderingCluster.deleteAllAppsWait ponderingRemote .exact 0 ⟨0, []⟩
    let limit := Clock.exact.lasting ponderingRemote.http.limit.nanos
    ofSettings ponderingServer hasty = .ok ponderingCluster ∧
      ponderingCluster.remote .root = .ok ponderingRemote ∧ step.outcome = .done () ∧
      ∀ xs, Exchanges ponderingServer ⟨0, []⟩ xs step.state →
        ¬ ponderingRemote.ClearsBy .exact limit (Exchange.over .exact limit)
          hasty.deploymentWaitTimeout xs := by
  intro step limit
  have hdone : step.outcome = .done () := by decide +kernel
  have hroot : ponderingCluster.remote .root = .ok ponderingRemote :=
    remote_of_url (Json.eq_ok_of_toOption (by decide +kernel))
  refine ⟨ofSettings_pondering, hroot, hdone, fun xs hxs => ?_⟩
  -- The transcript is known by what was sent.
  let removed : Url :=
    { endlessUrl ["marathon", "v2", "apps", "a"] with query := some "force=true" }
  let listsApps : Request := ⟨.get, endlessUrl ["marathon", "v2", "apps"], none, none⟩
  let removes : Request := ⟨.delete, removed, none, none⟩
  let lists : Request := ⟨.get, endlessUrl ["marathon", "v2", "deployments"], none, none⟩
  have hsent : step.state.sent = [⟨0, listsApps⟩, ⟨0, removes⟩, ⟨0, lists⟩] :=
    by decide +kernel
  have hstart : Exchanges ponderingServer ⟨0, []⟩ [] ⟨0, []⟩ := .start
  obtain ⟨rfl, -⟩ := hxs.unique (((hstart.next 0 listsApps).next 0 removes).next 0 lists) hsent
  rintro ⟨x, apps, removals, settled, hsplit, -, -, ys, last, rfl, -, -, hlate⟩
  obtain ⟨rfl, htail⟩ := List.cons.inj hsplit
  rw [← List.append_assoc] at htail
  obtain ⟨hmiddle, hlast⟩ := List.append_inj' htail rfl
  obtain rfl := List.singleton_inj.mp hlast
  cases removals with
  | nil => exact absurd hlate (by decide +kernel)
  | cons removal rest =>
      obtain ⟨rfl, hrest⟩ := List.cons.inj hmiddle
      obtain ⟨rfl, rfl⟩ := List.append_eq_nil_iff.mp hrest.symm
      exact absurd hlate (by decide +kernel)

end Cluster

end Rollout
