import Rollout.Proofs.Cluster.Verdicts
/-!
# Upkeep by its requests

What an upkeep of an orchestrator sends, and what it comes to by the replies. Everything that is
listed gets its request to go, a single app gets one without being listed, and where apps were
removed the wait for deployments follows.
-/

namespace Rollout

open Http Time Wire

variable {σ : Type} {α β : Type}

namespace Http.Client

/-- What a path lists is swept, and what is to follow follows after the last of the items. -/
inductive Empties [Json.Wire β] (c : Client σ) (limit : Nat) (listing : String)
    (items : β → List α) (path : α → String)
    (reads : String → Reply → Outcome Fault Unit → Prop)
    (next : Net σ → Net σ → Outcome Fault Unit → Prop) (net : Net σ) :
    Net σ → Outcome Fault Unit → Prop where
  | unlisted {later : Net σ} {fault : Fault}
      (listed : c.Gets listing limit net later (.failed fault : Outcome Fault β)) :
      Empties c limit listing items path reads next net later (.failed fault)
  | stopped {b : β} {mid later : Net σ} {xs : List Exchange} {fault : Fault}
      (listed : c.Gets listing limit net mid (.done b))
      (swept : Sweep c path reads (items b) mid xs later (.failed fault)) :
      Empties c limit listing items path reads next net later (.failed fault)
  | swept {b : β} {mid last later : Net σ} {xs : List Exchange} {o : Outcome Fault Unit}
      (listed : c.Gets listing limit net mid (.done b))
      (swept : Sweep c path reads (items b) mid xs last (.done ())) (followed : next last later o) :
      Empties c limit listing items path reads next net later o

end Http.Client

theorem Clears.empties [Json.Wire β] {c : Client σ} {limit : Nat} {listing : String}
    {items : β → List α} {path : α → String}
    {reads : String → Reply → Outcome Fault Unit → Prop}
    {clock : Clock} {next : Run (Net σ) Fault Unit} {listed : Step (Net σ) Fault (List α)}
    {net later : Net σ} {o : Outcome Fault Unit}
    (h : Clears c path reads clock next listed later o)
    (hlisted : ∃ o', c.Gets listing limit net listed.state o' ∧
      listed.outcome = o'.through fun b => .ok (items b))
    {follows : Net σ → Net σ → Outcome Fault Unit → Prop}
    (hnext : ∀ now mid, (next clock now mid).outcome.returns = true →
      follows mid (next clock now mid).state (next clock now mid).outcome)
    (hreturns : o.returns = true) :
    c.Empties limit listing items path reads follows net later o := by
  obtain ⟨o', hgets, houtcome⟩ := hlisted
  cases h with
  | unlisted =>
      rcases Outcome.through_eq_failed_iff.mp houtcome.symm with rfl | ⟨_, -, hnone⟩
      · exact .unlisted hgets
      · cases hnone
  | stopped swept =>
      obtain ⟨b, rfl, hitems⟩ := Outcome.through_eq_done_iff.mp houtcome.symm
      cases hitems
      exact .stopped hgets swept
  | cleared swept now =>
      obtain ⟨b, rfl, hitems⟩ := Outcome.through_eq_done_iff.mp houtcome.symm
      cases hitems
      exact .swept hgets swept (hnext now _ hreturns)

namespace Remote

variable (r : Remote σ) (limit : Nat) (timeout : Span)

/-- Deployments are listed until there is none, a listing fails or time has run out. -/
def Awaits (net later : Net σ) (o : Outcome Fault Unit) : Prop :=
  ∃ xs, Exchanges r.http.server net xs later ∧
    (∀ x ∈ xs, r.http.Sends "v2/deployments" x.request) ∧
    Cluster.SettledBy r limit timeout xs o

/-- The forced removal of an app, and the wait for deployments after it. -/
inductive Dismisses (path : String) (net : Net σ) : Net σ → Outcome Fault Unit → Prop where
  | removed {mid later : Net σ} {o : Outcome Fault Unit}
      (removal : r.http.Removal path (AppRemoval limit) net mid (.done ()))
      (awaited : r.Awaits limit timeout mid later o) : Dismisses path net later o
  | absent {later : Net σ} {fault : Fault}
      (removal : r.http.Removal path (AppRemoval limit) net later (.failed fault))
      (gone : fault.isNotFound = true) : Dismisses path net later (.done ())
  | failed {later : Net σ} {fault : Fault}
      (removal : r.http.Removal path (AppRemoval limit) net later (.failed fault))
      (kept : fault.isNotFound = false) : Dismisses path net later (.failed fault)

end Remote

namespace Cluster

variable (c : Cluster σ)

/-- Something is done with an orchestrator below a path of the cluster, unless the path has no
URL. -/
inductive Below (path : String) (context : Context)
    (does : Remote σ → Net σ → Net σ → Outcome Fault Unit → Prop) (net : Net σ) :
    Net σ → Outcome Fault Unit → Prop where
  | unnamed {fault : Fault} (h : c.http.url path = .error fault) :
      Below path context does net net (.failed fault)
  | named {base : Url} {later : Net σ} {o : Outcome Fault Unit} (h : c.http.url path = .ok base)
      (done : does ⟨c.http.rebased base, context⟩ net later o) :
      Below path context does net later o

/-- All deployments of the cluster's own orchestrator are stopped. -/
def StopsDeployments (limit : Nat) : Net σ → Net σ → Outcome Fault Unit → Prop :=
  c.Below "marathon/" .root fun r => r.http.Empties limit "v2/deployments" id
    (fun d : Deployment => "v2/deployments/" ++ d.id) (Remote.DeploymentRemoval limit)
    fun net later o => later = net ∧ o = .done ()

/-- An app of the cluster's own orchestrator is removed. -/
def DismissesApp (limit : Nat) (path : String) :
    Net σ → Net σ → Outcome Fault Unit → Prop :=
  c.Below "marathon/" .root fun r => r.Dismisses limit c.deploymentWaitTimeout path

/-- All apps of the nested orchestrator are removed. -/
def EmptiesNested (limit : Nat) : Net σ → Net σ → Outcome Fault Unit → Prop :=
  c.Below ("service/" ++ c.nestedServiceName ++ "/") (.nested c.nestedServiceName) fun r =>
    r.http.Empties limit "v2/apps" AppListing.apps (fun app => "v2/apps/" ++ pathId app.id)
      (Remote.AppRemoval limit) (r.Awaits limit c.deploymentWaitTimeout)

section

variable {c} {clock : Clock} {now : Nat} {net : Net σ}

theorem deploymentWait_awaits {r : Remote σ}
    (h : (c.deploymentWait r clock now net).outcome.returns = true) :
    r.Awaits (clock.lasting r.http.limit.nanos) c.deploymentWaitTimeout net
      (c.deploymentWait r clock now net).state (c.deploymentWait r clock now net).outcome :=
  c.deploymentWaitFor_settledBy h

theorem stopAllDeployments_empties {r : Remote σ}
    (h : (c.stopAllDeployments r clock now net).outcome.returns = true) :
    let limit := clock.lasting r.http.limit.nanos
    let step := c.stopAllDeployments r clock now net
    r.http.Empties limit "v2/deployments" id (fun d : Deployment => "v2/deployments/" ++ d.id)
      (Remote.DeploymentRemoval limit) (fun net later o => later = net ∧ o = .done ()) net
      step.state step.outcome := by
  have hgets := r.http.get_gets (α := List Deployment) clock now net "v2/deployments"
  have hclears := c.stopAllDeployments_clears r clock now net
  refine hclears.empties ⟨_, hgets, ?_⟩ (fun _ _ _ => ⟨rfl, rfl⟩) h
  unfold Remote.listDeployments
  cases (r.http.get (α := List Deployment) "v2/deployments" clock now net).outcome <;> rfl

theorem deleteAllAppsWait_empties {r : Remote σ}
    (h : (c.deleteAllAppsWait r clock now net).outcome.returns = true) :
    let limit := clock.lasting r.http.limit.nanos
    let step := c.deleteAllAppsWait r clock now net
    r.http.Empties limit "v2/apps" AppListing.apps (fun app => "v2/apps/" ++ pathId app.id)
      (Remote.AppRemoval limit) (r.Awaits limit c.deploymentWaitTimeout) net step.state
      step.outcome := by
  have hgets := r.http.get_gets (α := AppListing) clock now net "v2/apps"
  have hlisted : r.listApps clock now net = _ := Run.bind_ofExcept_apply
    (r.http.get "v2/apps") (fun l : AppListing => .ok l.apps) clock now net
  have hclears := c.deleteAllAppsWait_clears r clock now net
  rw [hlisted] at hclears
  exact hclears.empties ⟨_, hgets, rfl⟩ (fun _ _ => deploymentWait_awaits) h

theorem removeAppWait_dismisses {r : Remote σ} {id : String}
    (h : (c.removeAppWait r id clock now net).outcome.returns = true) :
    let step := c.removeAppWait r id clock now net
    r.Dismisses (clock.lasting r.http.limit.nanos) c.deploymentWaitTimeout
      ("v2/apps/" ++ pathId id) net step.state step.outcome := by
  have hremoval := r.removeApp_removal id clock now net
  rw [Run.bind_apply] at hremoval
  unfold removeAppWait at h ⊢
  rw [Run.bind_apply, Run.attempt_apply] at h ⊢
  rcases hstep : r.removeApp id true clock now net with ⟨_ | fault | text, mid, n⟩ <;>
    rw [hstep] at hremoval h <;> simp only at h ⊢
  · exact .removed hremoval (deploymentWait_awaits h)
  · cases hfault : fault.isNotFound with
    | true =>
        simp only [if_true]
        exact .absent hremoval hfault
    | false =>
        simp only [Bool.false_eq_true, if_false]
        exact .failed hremoval hfault
  · cases h

theorem below_of_remote (context : Context) (block : Remote σ → Run (Net σ) Fault Unit)
    {does : Remote σ → Net σ → Net σ → Outcome Fault Unit → Prop}
    (hdoes : ∀ base, let r : Remote σ := ⟨c.http.rebased base, context⟩
      (block r clock now net).outcome.returns = true →
        does r net (block r clock now net).state (block r clock now net).outcome) :
    let step := (Run.ofExcept (c.remote context) >>= block) clock now net
    step.outcome.returns = true →
      c.Below context.basePath context does net step.state step.outcome := by
  intro step hreturns
  unfold step at hreturns ⊢
  cases hurl : c.http.url context.basePath with
  | error fault =>
      have hremote : c.remote context = .error fault := by
        unfold remote
        rw [hurl]
        rfl
      rw [hremote]
      exact .unnamed hurl
  | ok base =>
      rw [remote_of_url hurl, Run.ofExcept_ok_bind] at hreturns ⊢
      exact .named hurl (hdoes base hreturns)

end

end Cluster

end Rollout
