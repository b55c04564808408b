import Mathlib.Data.List.Forall2
import Rollout.Cluster.Upkeep
import Rollout.Proofs.Http.Exchanges
import Rollout.Proofs.Run.Outcome
/-!
# Removals

Listed items are removed one after the other, each by one forced request. What is not there needs no
removing, but any other failure is the last thing that happens: nothing is asked about the items
behind it, and no wait follows.
-/

namespace Rollout

open Http Time Wire

variable {σ : Type} {α β : Type}

namespace Http.Client

variable (c : Client σ) (path : String)

/-- The request that removes by force what a path names. -/
def Orders (q : Request) : Prop :=
  ∃ u, c.url path = .ok u ∧ q = c.request .delete (u.withParameter "force" "true") none

/-- The request that removes what a path names, if it can be made in the time there is. -/
structure Removes (q : Request) : Prop where
  ordered : c.Orders path q
  sendable : isSendable q.url = true
  inTime : c.limit.isZero = false

/-- Why no request is made to remove what a path names. -/
inductive Spares : Fault → Prop where
  | url {fault : Fault} (h : c.url path = .error fault) : Spares fault
  | unsendable {q : Request} (h : c.Orders path q) (hurl : isSendable q.url = false) :
      Spares (.transfer (.unsendable q.url.text))
  | noTime {q : Request} (h : c.Orders path q) (hlimit : c.limit.isZero = true) :
      Spares (.transfer (.unanswered q.url.text))

/-- What becomes of a removal: its reply is read, or no request is made. -/
inductive Removal (reads : String → Reply → Outcome Fault β → Prop) (net : Net σ) :
    Net σ → Outcome Fault β → Prop where
  | answered {q : Request} {outcome : Outcome Fault β} (now : Nat) (sent : c.Removes path q)
      (read : reads q.url.text (c.server now q net.server).1 outcome) :
      Removal reads net ⟨(c.server now q net.server).2, net.sent ++ [⟨now, q⟩]⟩ outcome
  | unsent {fault : Fault} (h : c.Spares path fault) : Removal reads net net (.failed fault)

variable {c path}

theorem Spares.own_fault {fault : Fault} (h : c.Spares path fault) :
    fault.isNotFound = false ∧ fault.ofSubmission = fault := by
  cases h with
  | url h =>
      obtain ⟨_, rfl⟩ := eq_url_of_url_eq_error h
      exact ⟨rfl, rfl⟩
  | unsendable => exact ⟨rfl, rfl⟩
  | noTime => exact ⟨rfl, rfl⟩

theorem Gets.returns [Json.Wire β] {limit : Nat} {net later : Net σ} {outcome : Outcome Fault β}
    (h : c.Gets path limit net later outcome) : outcome.returns = true := by
  cases h with
  | answered _ _ read => cases read <;> rfl
  | unsent => rfl

variable (c path)

theorem removal_of_reads {reads : String → Reply → Outcome Fault β → Prop}
    {read : Response → Run (Net σ) Fault β} {clock : Clock}
    (hread : ∀ q now net, c.limit.isZero = false →
      let step := (c.transmit q >>= read) clock now net
      step.state = ⟨(c.server now q net.server).2, net.sent ++ [⟨now, q⟩]⟩ ∧
        reads q.url.text (c.server now q net.server).1 step.outcome) (now : Nat) (net : Net σ) :
    let step := (Run.ofExcept (c.url path) >>= fun u =>
      c.send .delete (u.withParameter "force" (toString true)) >>= read) clock now net
    c.Removal path reads net step.state step.outcome := by
  intro step
  have hasked : c.Asked clock now net .delete (·.withParameter "force" "true") none path read
      step := c.asked clock now net .delete (·.withParameter "force" "true") none path read
  clear_value step
  cases hasked with
  | unnamed hurl => exact .unsent (.url hurl)
  | unsendable hurl hsendable => exact .unsent (.unsendable ⟨_, hurl, rfl⟩ hsendable)
  | noTime hurl _ hlimit => exact .unsent (.noTime ⟨_, hurl, rfl⟩ hlimit)
  | @sent u hurl hsendable hlimit =>
      obtain ⟨hstate, houtcome⟩ :=
        hread (c.request .delete (u.withParameter "force" "true") none) now net hlimit
      have hremoval := Removal.answered now ⟨⟨u, hurl, rfl⟩, hsendable, hlimit⟩ houtcome
      rwa [← hstate] at hremoval

end Http.Client

/-! ## One removal -/

/-- A removal counts as done when it fails because the item is not there. -/
def Outcome.tolerated : Outcome Fault Unit → Outcome Fault Unit
  | .failed fault => if fault.isNotFound then .done () else .failed fault
  | outcome => outcome

theorem Cluster.tolerateNotFound_apply (x : Run (Net σ) Fault Unit) (clock : Clock) (now : Nat)
    (net : Net σ) : Cluster.tolerateNotFound x clock now net =
      { x clock now net with outcome := (x clock now net).outcome.tolerated } := by
  unfold Cluster.tolerateNotFound
  rw [Run.bind_apply, Run.attempt_apply]
  rcases x clock now net with ⟨_ | fault | text, later, n⟩
  · rfl
  · simp only [Outcome.tolerated]
    split <;> rfl
  · rfl

namespace Remote

/-- How the reply to the removal of an app is read: as the deployment that it has started, or as
its fault. -/
inductive AppRemoval (limit : Nat) (url : String) (reply : Reply) :
    Outcome Fault Unit → Prop where
  | done {removal : Removal} (h : reply.Carries limit removal) :
      AppRemoval limit url reply (.done ())
  | failed {fault : Fault} (h : reply.Fails Removal url limit fault) :
      AppRemoval limit url reply (.failed fault.ofSubmission)

/-- How the reply to the removal of a deployment is read: its status counts alone. -/
inductive DeploymentRemoval (limit : Nat) (url : String) (reply : Reply) :
    Outcome Fault Unit → Prop where
  | done {status : Status} {body : List UInt8} {ending : BodyEnd} (hdelay : reply.delay < limit)
      (hanswer : reply.answer = .response status body ending) (h : isSuccess status = true) :
      DeploymentRemoval limit url reply (.done ())
  | failed {fault : Fault} (h : ∀ (α : Type) [Json.Wire α], reply.Fails α url limit fault) :
      DeploymentRemoval limit url reply (.failed fault)

theorem requireSuccess_settles (clock : Clock) (now : Nat) (net : Net σ) (r : Response)
    (url : String) {limit : Nat} {reply : Reply} (hdelay : reply.delay < limit)
    (hanswer : reply.answer = .response r.status r.body r.ending) :
    let step := Client.requireSuccess r clock now net
    step.state = net ∧ DeploymentRemoval limit url reply step.outcome := by
  cases hstatus : isSuccess r.status with
  | true =>
      have hsuccess : (Client.requireSuccess r : Run (Net σ) Fault Unit) = pure () :=
        if_pos hstatus
      rw [hsuccess]
      exact ⟨rfl, .done hdelay hanswer hstatus⟩
  | false =>
      obtain ⟨hstate, houtcome⟩ := Client.requireSuccess_fails clock now net hstatus
      refine ⟨hstate, ?_⟩
      rw [houtcome]
      obtain ⟨delay, answer⟩ := reply
      cases hanswer
      refine .failed fun α _ => ?_
      by_cases hfound : r.status = 404
      · rw [if_pos hfound, hfound]
        exact .notFound hdelay
      · rw [if_neg hfound]
        exact .status hdelay hstatus hfound

variable (r : Remote σ) (id : String) (clock : Clock) (now : Nat) (net : Net σ)

theorem removeApp_removal :
    let step := (do let _ ← r.removeApp id true : Run (Net σ) Fault Unit) clock now net
    r.http.Removal ("v2/apps/" ++ pathId id) (AppRemoval (clock.lasting r.http.limit.nanos)) net
      step.state step.outcome := by
  have hdelete : r.http.Removal ("v2/apps/" ++ pathId id)
      (fun url reply => reply.Read url (clock.lasting r.http.limit.nanos)) net
      ((r.http.delete (α := Removal) ("v2/apps/" ++ pathId id) true) clock now net).state
      ((r.http.delete (α := Removal) ("v2/apps/" ++ pathId id) true) clock now net).outcome :=
    r.http.removal_of_reads _ (fun q now net hlimit =>
      r.http.transmit_bind_readValue clock now net Removal hlimit q) now net
  unfold removeApp
  rw [bind_assoc, Run.bind_apply]
  unfold Run.mapFault
  rcases hstep : (r.http.delete (α := Removal) ("v2/apps/" ++ pathId id) true) clock now net
    with ⟨outcome, later, n⟩
  rw [hstep] at hdelete
  cases hdelete with
  | unsent h =>
      simp only [h.own_fault.2]
      exact .unsent h
  | answered time sent read =>
      cases read with
      | done h => exact .answered time sent (.done h)
      | failed h => exact .answered time sent (.failed h)

theorem stopDeployment_removal :
    let step := r.stopDeployment id clock now net
    r.http.Removal ("v2/deployments/" ++ id) (DeploymentRemoval (clock.lasting r.http.limit.nanos))
      net step.state step.outcome := by
  refine r.http.removal_of_reads _ (fun q now net hlimit => ?_) now net
  obtain ⟨hstate, hend⟩ := r.http.transmit_timed clock now net hlimit q
  rw [Run.bind_apply]
  rcases hstep : r.http.transmit q clock now net with ⟨outcome, later, n⟩
  rw [hstep] at hstate hend
  cases hstate
  rcases hend with ⟨fault, houtcome, -, hlost⟩ | ⟨head, houtcome, hdelay, hanswer, -⟩
  · cases houtcome
    exact ⟨rfl, .failed hlost.fails⟩
  · cases houtcome
    obtain ⟨hstate, hread⟩ := requireSuccess_settles clock (now + n)
      ⟨(r.http.server now q net.server).2, net.sent ++ [⟨now, q⟩]⟩ head q.url.text
        hdelay hanswer
    exact ⟨hstate, hread⟩

end Remote

/-! ## Removals in turn -/

/-- Removals of some items in order, with what was exchanged for them and how they end. The first
one that fails, and not because its item is not there, is the last one. -/
inductive Sweep (c : Client σ) (path : α → String)
    (reads : String → Reply → Outcome Fault Unit → Prop) :
    List α → Net σ → List Exchange → Net σ → Outcome Fault Unit → Prop where
  | nothing {net : Net σ} : Sweep c path reads [] net [] net (.done ())
  | removed {item : α} {items : List α} {q : Request} {net later : Net σ} {xs : List Exchange}
      {result outcome : Outcome Fault Unit} (now : Nat) (sent : c.Removes (path item) q)
      (read : reads q.url.text (c.server now q net.server).1 result)
      (gone : result.tolerated = .done ())
      (rest : Sweep c path reads items
        ⟨(c.server now q net.server).2, net.sent ++ [⟨now, q⟩]⟩ xs later outcome) :
      Sweep c path reads (item :: items) net
        (⟨now, q, (c.server now q net.server).1⟩ :: xs) later
        outcome
  | failed {item : α} {items : List α} {q : Request} {net : Net σ} {fault : Fault} (now : Nat)
      (sent : c.Removes (path item) q)
      (read : reads q.url.text (c.server now q net.server).1 (.failed fault))
      (kept : fault.isNotFound = false) :
      Sweep c path reads (item :: items) net [⟨now, q, (c.server now q net.server).1⟩]
        ⟨(c.server now q net.server).2, net.sent ++ [⟨now, q⟩]⟩ (.failed fault)
  | unsent {item : α} {items : List α} {net : Net σ} {fault : Fault}
      (h : c.Spares (path item) fault) :
      Sweep c path reads (item :: items) net [] net (.failed fault)

namespace Sweep

variable {c : Client σ} {path : α → String}
  {reads : String → Reply → Outcome Fault Unit → Prop}
  {items : List α} {net later : Net σ} {xs : List Exchange} {outcome : Outcome Fault Unit}

theorem exchanged (h : Sweep c path reads items net xs later outcome) :
    Exchanges c.server net xs later := by
  induction h with
  | nothing => exact .start
  | @removed _ _ q net _ _ _ _ now _ _ _ _ ih =>
      exact (Exchanges.single c.server net now q).append ih
  | @failed _ _ q net _ now => exact .single c.server net now q
  | unsent => exact .start

end Sweep

/-- Removals that are made for each item sweep the items. -/
theorem forEach_sweep (c : Client σ) {path : α → String}
    {reads : String → Reply → Outcome Fault Unit → Prop}
    {remove : α → Run (Net σ) Fault Unit} {clock : Clock}
    (hreads : ∀ {url reply text}, ¬ reads url reply (.panicked text))
    (hremove : ∀ item now net, c.Removal (path item) reads net
      (remove item clock now net).state (remove item clock now net).outcome)
    (items : List α) (now : Nat) (net : Net σ) :
    let step := Run.forEach items (fun item => Cluster.tolerateNotFound (remove item)) clock now net
    ∃ xs, Sweep c path reads items net xs step.state step.outcome := by
  induction items generalizing now net with
  | nil => exact ⟨[], .nothing⟩
  | cons item rest ih =>
      have hfirst := hremove item now net
      change let step := (Cluster.tolerateNotFound (remove item) >>= fun _ =>
        Run.forEach rest fun item => Cluster.tolerateNotFound (remove item)) clock now net
        ∃ xs, Sweep c path reads (item :: rest) net xs step.state step.outcome
      rw [Run.bind_apply, Cluster.tolerateNotFound_apply]
      rcases hstep : remove item clock now net with ⟨outcome, later, n⟩
      rw [hstep] at hfirst
      cases hfirst with
      | unsent h =>
          simp only [Outcome.tolerated, h.own_fault.1, Bool.false_eq_true, if_false]
          exact ⟨[], .unsent h⟩
      | @answered q _ time sent read =>
          obtain ⟨xs, hxs⟩ := ih (now + n)
            ⟨(c.server time q net.server).2, net.sent ++ [⟨time, q⟩]⟩
          -- Only a failure of another kind than an absent item ends the sweep.
          cases outcome with
          | done _ => exact ⟨_, .removed time sent read rfl hxs⟩
          | failed fault =>
              cases hfault : fault.isNotFound with
              | true =>
                  have hgone : (Outcome.failed fault).tolerated = .done () := if_pos hfault
                  simp only [hgone]
                  exact ⟨_, .removed time sent read hgone hxs⟩
              | false =>
                  simp only [Outcome.tolerated, hfault, Bool.false_eq_true, if_false]
                  exact ⟨_, .failed time sent read hfault⟩
          | panicked text => exact absurd read hreads

/-- How what is listed is cleared away: the listing has failed, or the removals were stopped by a
failure, or all items are gone and what is to follow follows. -/
inductive Clears (c : Client σ) (path : α → String)
    (reads : String → Reply → Outcome Fault Unit → Prop) (clock : Clock)
    (next : Run (Net σ) Fault Unit) :
    Step (Net σ) Fault (List α) → Net σ → Outcome Fault Unit → Prop where
  | unlisted {net : Net σ} {n : Nat} {fault : Fault} :
      Clears c path reads clock next ⟨.failed fault, net, n⟩ net (.failed fault)
  | stopped {items : List α} {net later : Net σ} {n : Nat} {xs : List Exchange} {fault : Fault}
      (swept : Sweep c path reads items net xs later (.failed fault)) :
      Clears c path reads clock next ⟨.done items, net, n⟩ later (.failed fault)
  | cleared {items : List α} {net mid : Net σ} {n : Nat} {xs : List Exchange}
      (swept : Sweep c path reads items net xs mid (.done ())) (now : Nat) :
      Clears c path reads clock next ⟨.done items, net, n⟩ (next clock now mid).state
        (next clock now mid).outcome

theorem Sweep.returns {c : Client σ} {path : α → String}
    {reads : String → Reply → Outcome Fault Unit → Prop} {items : List α}
    {net later : Net σ}
    {xs : List Exchange} {outcome : Outcome Fault Unit}
    (h : Sweep c path reads items net xs later outcome) : outcome.returns = true := by
  induction h with
  | nothing => rfl
  | removed _ _ _ _ _ ih => exact ih
  | failed => rfl
  | unsent => rfl

theorem clears_of_sweeps (c : Client σ) {path : α → String}
    {reads : String → Reply → Outcome Fault Unit → Prop}
    {listing : Run (Net σ) Fault (List α)} {sweep : List α → Run (Net σ) Fault Unit}
    {next : Run (Net σ) Fault Unit} {clock : Clock}
    (hlisting : ∀ now net, (listing clock now net).outcome.returns = true)
    (hsweep : ∀ items now net, ∃ xs, Sweep c path reads items net xs
      (sweep items clock now net).state (sweep items clock now net).outcome)
    (now : Nat) (net : Net σ) :
    let step := (listing >>= fun items => sweep items >>= fun _ => next) clock now net
    Clears c path reads clock next (listing clock now net) step.state step.outcome := by
  have hreturns := hlisting now net
  rw [Run.bind_apply]
  rcases hlist : listing clock now net with ⟨items | fault | text, mid, n⟩ <;>
    rw [hlist] at hreturns
  · obtain ⟨xs, hxs⟩ := hsweep items (now + n) mid
    simp only
    rw [Run.bind_apply]
    rcases hstep : sweep items clock (now + n) mid with ⟨_ | fault | text, later, m⟩ <;>
      rw [hstep] at hxs
    · exact .cleared hxs (now + n + m)
    · exact .stopped hxs
    · cases hxs.returns
  · exact .unlisted
  · cases hreturns

namespace Cluster

variable (c : Cluster σ) (r : Remote σ)

section

variable (clock : Clock) (now : Nat) (net : Net σ)

theorem deleteAllAppsWait_clears :
    let step := c.deleteAllAppsWait r clock now net
    Clears r.http (fun app : App => "v2/apps/" ++ pathId app.id)
      (Remote.AppRemoval (clock.lasting r.http.limit.nanos)) clock (c.deploymentWait r)
      (r.listApps clock now net) step.state step.outcome := by
  refine clears_of_sweeps r.http ?_ ?_ now net
  · intro now net
    have hgets := r.http.get_gets (α := AppListing) clock now net "v2/apps"
    exact (Run.returns_bind_of_decides (fun _ => Run.decides_pure _) clock now net).trans
      hgets.returns
  · intro apps now net
    exact forEach_sweep r.http nofun
      (fun app now net => r.removeApp_removal app.id clock now net) apps now net

theorem stopAllDeployments_clears :
    let step := c.stopAllDeployments r clock now net
    Clears r.http (fun d : Deployment => "v2/deployments/" ++ d.id)
      (Remote.DeploymentRemoval (clock.lasting r.http.limit.nanos)) clock (pure ())
      (r.listDeployments clock now net) step.state step.outcome := by
  have hstop : c.stopAllDeployments r = r.listDeployments >>= fun deployments =>
      (Run.forEach deployments fun d => tolerateNotFound (r.stopDeployment d.id)) >>= fun _ =>
        pure () := by
    simp only [bind_pure_unit]
    rfl
  rw [hstop]
  refine clears_of_sweeps r.http ?_ ?_ now net
  · intro now net
    exact (r.http.get_gets (α := List Deployment) clock now net "v2/deployments").returns
  · intro deployments now net
    exact forEach_sweep r.http nofun
      (fun d now net => r.stopDeployment_removal d.id clock now net) deployments now net

end

/-- Both upkeep steps go through what is listed until a removal fails otherwise than because there
is nothing to remove, and that failure is theirs. Only after the last app is gone the wait for the
deployments follows. -/
theorem clears_until_failure (clock : Clock) (now : Nat) (net : Net σ) :
    let limit := clock.lasting r.http.limit.nanos
    let apps := c.deleteAllAppsWait r clock now net
    let deployments := c.stopAllDeployments r clock now net
    Clears r.http (fun app : App => "v2/apps/" ++ pathId app.id) (Remote.AppRemoval limit) clock
        (c.deploymentWait r) (r.listApps clock now net) apps.state apps.outcome ∧
      Clears r.http (fun d : Deployment => "v2/deployments/" ++ d.id)
        (Remote.DeploymentRemoval limit) clock (pure ()) (r.listDeployments clock now net)
        deployments.state deployments.outcome :=
  ⟨c.deleteAllAppsWait_clears r clock now net, c.stopAllDeployments_clears r clock now net⟩

/-- Two apps and two deployments are listed, and the first of each is locked. -/
def lockedServer : Server Unit := fun _ q u =>
  let reply (status : Status) (text : String) : Reply × Unit :=
    (⟨1, .response status (Text.toBytes text) .complete⟩, u)
  match q.method, q.url.path with
  | .get, .segments ["v2", "apps"] =>
    reply 200 "\x7b\"apps\":[\x7b\"id\":\"/a\"\x7d,\x7b\"id\":\"/b\"\x7d]\x7d"
  | .get, .segments ["v2", "deployments"] =>
    reply 200 "[\x7b\"id\":\"a\",\"version\":\"1\"\x7d,\x7b\"id\":\"b\",\"version\":\"1\"\x7d]"
  | .delete, .segments ["v2", _, "a"] => reply 500 "locked"
  | _, _ => reply 200 "\x7b\"deploymentId\":\"d\",\"version\":\"1\"\x7d"

def locked : Cluster Unit where
  http :=
    { server := lockedServer
      base := ⟨"http", some ⟨"", none, .domain "c", none⟩, .segments [""], none, none⟩
      token := none
      limit := .ofSecs 1 }
  nestedServiceName := "m"
  pollInterval := .ofSecs 1
  deploymentWaitTimeout := .ofSecs 1
  serviceEndpointTimeout := .ofSecs 1

/-- Neither the second app nor the second deployment is asked to go. -/
theorem locked_spares_second :
    let r : Remote Unit := ⟨locked.http, .root⟩
    let net : Net Unit := ⟨(), []⟩
    let sent (step : Step (Net Unit) Fault Unit) : List (Method × String) :=
      step.state.sent.map fun x => (x.request.method, x.request.url.target)
    let listed : Run (Net Unit) Fault (List String × List String) := do
      return ((← r.listApps).map (·.id), (← r.listDeployments).map (·.id))
    let apps := locked.deleteAllAppsWait r .exact 0 net
    let deployments := locked.stopAllDeployments r .exact 0 net
    (listed .exact 0 net).outcome = .done (["/a", "/b"], ["a", "b"]) ∧
      apps.outcome = .failed (.unexpectedStatus 500 "locked") ∧
      sent apps = [(.get, "/v2/apps"), (.delete, "/v2/apps/a?force=true")] ∧
      deployments.outcome = .failed (.unexpectedStatus 500 "locked") ∧
      sent deployments =
        [(.get, "/v2/deployments"), (.delete, "/v2/deployments/a?force=true")] := by
  intro r net sent listed apps deployments
  refine ⟨?_, ?_, ?_, ?_, ?_⟩ <;> decide +kernel

end Cluster

end Rollout
