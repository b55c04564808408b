import Rollout.Proofs.Cluster.Waiting
import Rollout.Proofs.Orchestrator.Calls
/-!
# Stories of a cluster

Which exchanges make the upkeep of a cluster succeed: deployments settle, apps and endpoints go
away, and what is not there needs no removing.
-/

namespace Rollout

open Http Time Wire

variable {σ : Type}

/-- Deployments are listed until there is none, in time. -/
def Remote.Settles (r : Remote σ) (limit : Nat) (timeout : Span) (xs : List Exchange) : Prop :=
  Waited (fun x => ∃ d ds, r.Lists limit x (d :: ds)) (fun x => r.Lists limit x []) timeout xs

/-- An app is removed and the deployments settle, or there is no such app. -/
def Remote.Withdraws (r : Remote σ) (limit : Nat) (timeout : Span) (id : String)
    (xs : List Exchange) : Prop :=
  (∃ x settled deployment, xs = x :: settled ∧ r.Accepts limit id x deployment ∧
      r.Settles limit timeout settled) ∨
    ∃ x, xs = [x] ∧ r.Misses limit id x

/-- All apps are listed, each of them is removed or is not there, and the deployments settle. -/
def Remote.Clears (r : Remote σ) (limit : Nat) (timeout : Span) (xs : List Exchange) : Prop :=
  ∃ x apps removals settled, xs = x :: (removals ++ settled) ∧ r.ListsApps limit x apps ∧
    List.Forall₂ (fun app e => (∃ deployment, r.Accepts limit app.id e deployment) ∨
      r.Misses limit app.id e) apps removals ∧
    r.Settles limit timeout settled

namespace Cluster

variable (c : Cluster σ)

/-- An endpoint is probed and answers. -/
def Up (limit : Nat) (name : String) (x : Exchange) : Prop :=
  c.http.Sends ("service/" ++ name ++ "/") x.request ∧
    ∃ status, x.reply.Heads limit status ∧ isSuccess status = true

/-- An endpoint is probed and is not reachable. -/
def Down (limit : Nat) (name : String) (x : Exchange) : Prop :=
  c.http.Sends ("service/" ++ name ++ "/") x.request ∧
    ∃ status, x.reply.Heads limit status ∧ (status = 404 ∨ status = 502 ∨ status = 503)

/-- The frameworks are asked for and listed. -/
def ListsFrameworks (limit : Nat) (x : Exchange) (frameworks : List Framework) : Prop :=
  c.http.Sends "mesos/master/frameworks" x.request ∧ ∃ listing : FrameworkListing,
    x.reply.Carries limit listing ∧ listing.frameworks = frameworks

/-- Whether a framework of a name is among some and active. -/
def isActive (name : String) (frameworks : List Framework) : Bool :=
  frameworks.any fun f => f.name == name && f.active

theorem endpointStatus_eq_ok_true_iff {name : String} {status : Status} :
    endpointStatus name status = .ok true ↔ isSuccess status = true := by
  unfold endpointStatus
  cases isSuccess status with
  | true => exact ⟨fun _ => rfl, fun _ => rfl⟩
  | false =>
      simp only [Bool.false_eq_true, if_false]
      split <;> exact ⟨nofun, nofun⟩

theorem endpointStatus_eq_ok_false_iff {name : String} {status : Status} :
    endpointStatus name status = .ok false ↔ status = 404 ∨ status = 502 ∨ status = 503 := by
  unfold endpointStatus
  by_cases hdown : status = 404 ∨ status = 502 ∨ status = 503
  · have hfailed : isSuccess status = false := by
      rcases hdown with rfl | rfl | rfl <;> rfl
    rw [hfailed]
    simp only [Bool.false_eq_true, if_false, hdown, if_true]
  · simp only [hdown, if_false, iff_false]
    split <;> exact nofun

theorem removeAppWait_eq (r : Remote σ) (id : String) : c.removeAppWait r id =
    found (r.removeApp id true) >>= fun o => if o.isSome then c.deploymentWait r else pure () := by
  unfold removeAppWait found
  rw [bind_assoc]
  congr
  funext result
  cases result with
  | ok _ => exact (pure_bind _ _).symm
  | error fault =>
      simp only
      split
      · exact (pure_bind _ _).symm
      · rfl

theorem tolerateNotFound_eq {α : Type} (x : Run (Net σ) Fault α) :
    tolerateNotFound (do let _ ← x) = found x >>= fun _ => pure () := by
  ext clock now net
  rw [tolerateNotFound_apply, Run.bind_apply, Run.bind_apply, found_apply]
  rcases x clock now net with ⟨a | fault | text, later, n⟩
  · rfl
  · simp only [Outcome.tolerated, foundOutcome]
    split <;> rfl
  · rfl

section

variable {clock : Clock}

theorem yields_endpointExists (name : String) :
    Yields c.http.server clock (clock.lasting c.http.limit.nanos)
      (c.http.Sends ("service/" ++ name ++ "/"))
      (fun x up => if up then c.Up (clock.lasting c.http.limit.nanos) name x
        else c.Down (clock.lasting c.http.limit.nanos) name x) (c.endpointExists name) := by
  have hprobed := (c.http.yields_probe clock ("service/" ++ name ++ "/")).through
    (endpointStatus name)
  apply hprobed.congr
  intro x up
  cases up with
  | true =>
      simp only [endpointStatus_eq_ok_true_iff, and_assoc, exists_and_left]
      exact Iff.rfl
  | false =>
      simp only [endpointStatus_eq_ok_false_iff, and_assoc, exists_and_left]
      exact Iff.rfl

variable (hclock : ∀ n, clock.lasting n ≤ n)
include hclock

theorem serviceAvailable_leads (name : String) :
    Leads c.http.server clock (fun xs active => ∃ x frameworks, xs = [x] ∧
        c.ListsFrameworks (clock.lasting c.http.limit.nanos) x frameworks ∧
          isActive name frameworks = active)
      (c.serviceAvailable name) := by
  have hlisted := (((c.http.yields_get hclock "mesos/master/frameworks").map
    FrameworkListing.frameworks).map (isActive name)).leads
  apply hlisted.congr
  intro xs active
  constructor
  · rintro ⟨x, hxs, frameworks, ⟨listing, ⟨hsent, hcarries⟩, hframeworks⟩, hactive⟩
    exact ⟨x, frameworks, hxs, ⟨hsent, listing, hcarries, hframeworks⟩, hactive⟩
  · rintro ⟨x, frameworks, hxs, ⟨hsent, listing, hcarries, hframeworks⟩, hactive⟩
    exact ⟨x, hxs, frameworks, ⟨listing, ⟨hsent, hcarries⟩, hframeworks⟩, hactive⟩

variable (hinterval : 0 < c.pollInterval.nanos)
include hinterval

theorem deploymentWait_leads (r : Remote σ) :
    Leads r.http.server clock (fun xs _ => r.Settles (clock.lasting r.http.limit.nanos)
      c.deploymentWaitTimeout xs) (c.deploymentWait r) := by
  have hlisted : Yields r.http.server clock (clock.lasting r.http.limit.nanos)
      (r.http.Sends "v2/deployments")
      (fun x settled => if settled then r.Lists (clock.lasting r.http.limit.nanos) x []
        else ∃ d ds, r.Lists (clock.lasting r.http.limit.nanos) x (d :: ds))
      (do return (← r.listDeployments).isEmpty) := by
    apply ((r.yields_listDeployments hclock).map List.isEmpty).congr
    intro x settled
    cases settled with
    | true =>
        constructor
        · rintro ⟨ds, hlists, hempty⟩
          rwa [List.isEmpty_iff.mp hempty] at hlists
        · exact fun hlists => ⟨[], hlists, rfl⟩
    | false => exact Remote.lists_nonempty_iff
  exact hlisted.waited_leads hclock (p := c.patience c.deploymentWaitTimeout) hinterval rfl rfl

theorem removeAppWait_leads (r : Remote σ) (id : String) :
    Leads r.http.server clock (fun xs _ => r.Withdraws (clock.lasting r.http.limit.nanos)
      c.deploymentWaitTimeout id xs) (c.removeAppWait r id) := by
  rw [removeAppWait_eq]
  have hremoved := (r.found_removeApp_leads hclock id).bind
    (t := fun o xs _ => if o.isSome then r.Settles (clock.lasting r.http.limit.nanos)
      c.deploymentWaitTimeout xs else xs = []) (f := fun o =>
        if o.isSome then c.deploymentWait r else pure ()) fun o => by
      cases o with
      | some deployment => exact c.deploymentWait_leads hclock hinterval r
      | none => exact (Leads.pure ()).congr fun xs _ => ⟨And.left, fun h => ⟨h, rfl⟩⟩
  apply hremoved.congr
  intro xs _
  constructor
  · rintro ⟨_, o, ys, ⟨x, rfl, hx⟩, hys, rfl⟩
    cases o with
    | some deployment => exact .inl ⟨x, ys, deployment, rfl, hx, hys⟩
    | none =>
        obtain rfl : ys = [] := hys
        exact .inr ⟨x, rfl, hx⟩
  · rintro (⟨x, settled, deployment, rfl, hx, hsettled⟩ | ⟨x, rfl, hx⟩)
    · exact ⟨[x], some deployment, settled, ⟨x, rfl, hx⟩, hsettled, rfl⟩
    · exact ⟨[x], none, [], ⟨x, rfl, hx⟩, rfl, rfl⟩

omit hinterval in
theorem removals_leads (r : Remote σ) (apps : List App) :
    Leads r.http.server clock (fun xs _ => List.Forall₂ (fun app e =>
        (∃ deployment, r.Accepts (clock.lasting r.http.limit.nanos) app.id e deployment) ∨
          r.Misses (clock.lasting r.http.limit.nanos) app.id e) apps xs)
      (Run.forEach apps fun app => tolerateNotFound do let _ ← r.removeApp app.id true) := by
  refine Leads.forEach (fun app => ?_) apps
  rw [tolerateNotFound_eq]
  apply ((r.found_removeApp_leads hclock app.id).map fun _ => ()).congr
  intro xs _
  constructor
  · rintro ⟨o, ⟨x, hxs, hx⟩, -⟩
    cases o with
    | some deployment => exact ⟨x, hxs, .inl ⟨deployment, hx⟩⟩
    | none => exact ⟨x, hxs, .inr hx⟩
  · rintro ⟨x, hxs, ⟨deployment, hx⟩ | hx⟩
    · exact ⟨some deployment, ⟨x, hxs, hx⟩, rfl⟩
    · exact ⟨none, ⟨x, hxs, hx⟩, rfl⟩

theorem deleteAllAppsWait_leads (r : Remote σ) :
    Leads r.http.server clock (fun xs _ => r.Clears (clock.lasting r.http.limit.nanos)
      c.deploymentWaitTimeout xs) (c.deleteAllAppsWait r) := by
  have hcleared := (r.yields_listApps hclock).leads.bind fun apps =>
    (removals_leads hclock r apps).bind fun _ => c.deploymentWait_leads hclock hinterval r
  apply hcleared.congr
  intro xs _
  constructor
  · rintro ⟨_, apps, _, ⟨x, rfl, hx⟩,
      ⟨removals, _, settled, hremovals, hsettled, rfl⟩, rfl⟩
    exact ⟨x, apps, removals, settled, rfl, hx, hremovals, hsettled⟩
  · rintro ⟨x, apps, removals, settled, rfl, hx, hremovals, hsettled⟩
    exact ⟨[x], apps, removals ++ settled, ⟨x, rfl, hx⟩,
      ⟨removals, (), settled, hremovals, hsettled, rfl⟩, rfl⟩

theorem waitForEndpoint_leads (name : String) (timeout : Span)
    {k : Bool → Run (Net σ) Fault Unit} {fault : Fault} (htrue : k true = pure ())
    (hfalse : k false = .fail fault) :
    Leads c.http.server clock (fun xs _ => Waited
        (c.Down (clock.lasting c.http.limit.nanos) name)
        (c.Up (clock.lasting c.http.limit.nanos) name) timeout xs)
      (c.waitForEndpoint name timeout >>= k) :=
  (c.yields_endpointExists name).waited_leads hclock (p := c.patience timeout) hinterval htrue
    hfalse

theorem waitForEndpoint_tells (name : String) (timeout : Span)
    {k : Bool → Run (Net σ) Fault Unit} {fault : Fault} (htrue : k true = .fail fault)
    (hfalse : k false = pure ()) :
    Tells c.http.server clock (fun xs _ => Lingered
        (c.Down (clock.lasting c.http.limit.nanos) name) timeout xs)
      (c.waitForEndpoint name timeout >>= k) :=
  (c.yields_endpointExists name).lingered_tells hclock (p := c.patience timeout) hinterval htrue
    hfalse

theorem waitForEndpointRemoval_leads (name : String) (timeout : Span)
    {k : Bool → Run (Net σ) Fault Unit} {fault : Fault} (htrue : k true = pure ())
    (hfalse : k false = .fail fault) :
    Leads c.http.server clock (fun xs _ => Waited
        (c.Up (clock.lasting c.http.limit.nanos) name)
        (c.Down (clock.lasting c.http.limit.nanos) name) timeout xs)
      (c.waitForEndpointRemoval name timeout >>= k) := by
  have hgone : Yields c.http.server clock (clock.lasting c.http.limit.nanos)
      (c.http.Sends ("service/" ++ name ++ "/"))
      (fun x gone => if gone then c.Down (clock.lasting c.http.limit.nanos) name x
        else c.Up (clock.lasting c.http.limit.nanos) name x)
      (do return !(← c.endpointExists name)) := by
    apply ((c.yields_endpointExists name).map not).congr
    intro x gone
    cases gone with
    | true =>
        constructor
        · rintro ⟨up, hx, hup⟩
          cases up with
          | true => cases hup
          | false => exact hx
        · exact fun hx => ⟨false, hx, rfl⟩
    | false =>
        constructor
        · rintro ⟨up, hx, hup⟩
          cases up with
          | true => exact hx
          | false => cases hup
        · exact fun hx => ⟨true, hx, rfl⟩
  exact hgone.waited_leads hclock (p := c.patience timeout) hinterval htrue hfalse

end

end Cluster

end Rollout
