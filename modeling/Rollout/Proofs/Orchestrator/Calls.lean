import Rollout.Proofs.Cluster.Removal
import Rollout.Proofs.Http.Stories
import Rollout.Proofs.Orchestrator.Lookup
/-!
# Calls of an orchestrator

What the API of an orchestrator is asked for, and what its answers are read as.
-/

namespace Rollout

open Http Time Wire

variable {σ : Type}

theorem Fault.isNotFound_ofSubmission (fault : Fault) :
    fault.ofSubmission.isNotFound = fault.isNotFound := by
  cases fault with
  | unexpectedStatus status text =>
      change (if 400 ≤ status.toNat ∧ status.toNat < 500 then submission status text
        else unexpectedStatus status text).isNotFound = false
      split <;> rfl
  | _ => rfl

theorem Fault.ofSubmission_eq_notFound_iff {fault : Fault} {text : String} :
    fault.ofSubmission = .notFound text ↔ fault = .notFound text := by
  cases fault with
  | unexpectedStatus status body =>
      change (if 400 ≤ status.toNat ∧ status.toNat < 500 then submission status body
        else unexpectedStatus status body) = _ ↔ _
      split <;> exact ⟨nofun, nofun⟩
  | _ => exact Iff.rfl

theorem Http.Reply.fails_notFound_iff {α : Type} [Json.Wire α] {url : String} {limit : Nat}
    {reply : Reply} :
    (∃ text, reply.Fails α url limit (.notFound text)) ↔ reply.Heads limit 404 := by
  constructor
  · rintro ⟨text, h⟩
    cases h with
    | notFound h => exact ⟨h, _, _, rfl⟩
  · rintro ⟨hdelay, body, ending, hanswer⟩
    obtain ⟨delay, answer⟩ := reply
    cases hanswer
    exact ⟨_, .notFound hdelay⟩

namespace Http.Client

variable (c : Client σ)

theorem makes_removal_iff {path : String} {q : Request} :
    c.Makes .delete (·.withParameter "force" "true") none path q ↔ c.Removes path q :=
  ⟨fun h => ⟨h.made, h.sendable, h.inTime⟩, fun h => ⟨h.ordered, h.sendable, h.inTime⟩⟩

theorem finds_delete {α : Type} [Json.Wire α] {clock : Clock}
    (hclock : ∀ n, clock.lasting n ≤ n) (path : String) :
    Finds c.server clock (clock.lasting c.limit.nanos)
      (fun x a => c.Removes path x.request ∧ x.reply.Carries (clock.lasting c.limit.nanos) a)
      (fun x => c.Removes path x.request ∧ x.reply.Heads (clock.lasting c.limit.nanos) 404)
      (c.delete path true : Run (Net σ) Fault α) := by
  refine ⟨_, (c.calls_of_heeds (heeds_readValue hclock) .delete (·.withParameter "force" "true")
    none path).congr fun x o => and_congr_left fun _ => c.makes_removal_iff, .read _ _, ?_, ?_⟩
  · exact fun x a => and_congr_right fun _ => Reply.read_done_iff
  · intro x
    constructor
    · rintro ⟨text, hsent, hread⟩
      cases hread with
      | failed h => exact ⟨hsent, Reply.fails_notFound_iff.mp ⟨text, h⟩⟩
    · rintro ⟨hsent, hheads⟩
      obtain ⟨text, hfails⟩ := (Reply.fails_notFound_iff (α := α)).mpr hheads
      exact ⟨text, hsent, .failed hfails⟩

end Http.Client

namespace Remote

variable (r : Remote σ) (limit : Nat)

/-- The deployments are asked for and listed. -/
def Lists (x : Exchange) (ds : List Deployment) : Prop :=
  r.http.Sends "v2/deployments" x.request ∧ x.reply.Carries limit ds

theorem lists_nonempty_iff {r : Remote σ} {limit : Nat} {x : Exchange} :
    (∃ ds, r.Lists limit x ds ∧ ds.isEmpty = false) ↔
      ∃ d ds, r.Lists limit x (d :: ds) := by
  constructor
  · rintro ⟨ds, hlists, hnonempty⟩
    cases ds with
    | nil => cases hnonempty
    | cons d ds => exact ⟨d, ds, hlists⟩
  · rintro ⟨d, ds, hlists⟩
    exact ⟨d :: ds, hlists, rfl⟩

/-- The apps are asked for and listed. -/
def ListsApps (x : Exchange) (apps : List App) : Prop :=
  r.http.Sends "v2/apps" x.request ∧ ∃ listing : AppListing, x.reply.Carries limit listing ∧
    listing.apps = apps

/-- An app is submitted and accepted, and this is the first deployment that it has started. -/
def Starts (app : App) (x : Exchange) (id : String) : Prop :=
  r.http.Posts "v2/apps" app x.request ∧
    ∃ created : AppCreated, x.reply.Carries limit created ∧
    ∃ d rest, created.deployments = d :: rest ∧ d.id = id

/-- The forced removal of an app is accepted, and this is the deployment that it has started. -/
def Accepts (id : String) (x : Exchange) (deployment : String) : Prop :=
  r.http.Removes ("v2/apps/" ++ pathId id) x.request ∧ ∃ removal : Removal,
    x.reply.Carries limit removal ∧ removal.deploymentId = deployment

/-- The forced removal of an app is answered with the status that there is no such app. -/
def Misses (id : String) (x : Exchange) : Prop :=
  r.http.Removes ("v2/apps/" ++ pathId id) x.request ∧ x.reply.Heads limit 404

/-- The value of a submission: the first deployment that was started. -/
def firstStarted (app : App) (created : AppCreated) : Except Fault String :=
  match created.deployments with
  | deployment :: _ => .ok deployment.id
  | [] => .error (.internal ("No deployment started for app " ++ app.id))

theorem addApp_eq (app : App) :
    r.addApp app = (r.http.post "v2/apps" app).mapFault Fault.ofSubmission >>=
      fun created => .ofExcept (firstStarted app created) := by
  unfold addApp
  congr
  funext created
  unfold firstStarted
  cases created.deployments <;> rfl

section

variable {clock : Clock} (hclock : ∀ n, clock.lasting n ≤ n)
include hclock

theorem yields_listDeployments :
    Yields r.http.server clock (clock.lasting r.http.limit.nanos) (r.http.Sends "v2/deployments")
      (r.Lists (clock.lasting r.http.limit.nanos)) r.listDeployments :=
  r.http.yields_get hclock "v2/deployments"

theorem yields_listApps :
    Yields r.http.server clock (clock.lasting r.http.limit.nanos) (r.http.Sends "v2/apps")
      (r.ListsApps (clock.lasting r.http.limit.nanos)) r.listApps := by
  have hlisted := (r.http.yields_get hclock "v2/apps").map AppListing.apps
  apply hlisted.congr
  intro x apps
  constructor
  · rintro ⟨listing, ⟨hsent, hcarries⟩, happs⟩
    exact ⟨hsent, listing, hcarries, happs⟩
  · rintro ⟨hsent, listing, hcarries, happs⟩
    exact ⟨listing, ⟨hsent, hcarries⟩, happs⟩

omit hclock in
theorem firstStarted_eq_ok_iff {app : App} {created : AppCreated} {id : String} :
    firstStarted app created = .ok id ↔ ∃ d rest, created.deployments = d :: rest ∧
      d.id = id := by
  unfold firstStarted
  cases created.deployments with
  | nil => exact ⟨nofun, nofun⟩
  | cons d rest =>
      constructor
      · intro h
        exact ⟨d, rest, rfl, Except.ok.inj h⟩
      · rintro ⟨_, _, hd, hid⟩
        cases hd
        exact congrArg Except.ok hid

theorem yields_addApp (app : App) :
    Yields r.http.server clock (clock.lasting r.http.limit.nanos) (r.http.Posts "v2/apps" app)
      (r.Starts (clock.lasting r.http.limit.nanos) app) (r.addApp app) := by
  have hposted := ((r.http.yields_post hclock (α := AppCreated) "v2/apps" app).mapFault
    Fault.isNotFound_ofSubmission).through (firstStarted app)
  rw [addApp_eq]
  apply hposted.congr
  intro x id
  constructor
  · rintro ⟨created, ⟨hsent, hcarries⟩, hstarted⟩
    exact ⟨hsent, created, hcarries, firstStarted_eq_ok_iff.mp hstarted⟩
  · rintro ⟨hsent, created, hcarries, hstarted⟩
    exact ⟨created, ⟨hsent, hcarries⟩, firstStarted_eq_ok_iff.mpr hstarted⟩

theorem yields_getDeployment (id : String) :
    Yields r.http.server clock (clock.lasting r.http.limit.nanos) (r.http.Sends "v2/deployments")
      (r.Shows (clock.lasting r.http.limit.nanos) id) (r.getDeployment id) := by
  have hfound := (r.yields_listDeployments hclock).map (List.find? fun d => d.id == id)
  apply hfound.congr
  intro x snapshot
  constructor
  · rintro ⟨ds, ⟨hsent, hcarries⟩, hfind⟩
    exact ⟨hsent, ds, hcarries, listed_iff.mpr hfind⟩
  · rintro ⟨hsent, ds, hcarries, hlisted⟩
    exact ⟨ds, ⟨hsent, hcarries⟩, listed_iff.mp hlisted⟩

omit hclock in
theorem Shows.unique {r : Remote σ} {limit : Nat} {id : String} {x : Exchange}
    {snapshot other : Snapshot} (h : r.Shows limit id x snapshot) (h' : r.Shows limit id x other) :
    snapshot = other := by
  obtain ⟨ds, hcarries, hlisted⟩ := h.listing
  obtain ⟨ds', hcarries', hlisted'⟩ := h'.listing
  rw [hcarries.unique hcarries'] at hlisted
  rw [← listed_iff.mp hlisted, ← listed_iff.mp hlisted']

omit hclock in
theorem Starts.unique {r : Remote σ} {limit : Nat} {app : App} {x : Exchange} {id other : String}
    (h : r.Starts limit app x id) (h' : r.Starts limit app x other) : id = other := by
  obtain ⟨-, created, hcarries, d, rest, hcreated, rfl⟩ := h
  obtain ⟨-, created', hcarries', d', rest', hcreated', rfl⟩ := h'
  rw [hcarries.unique hcarries', hcreated'] at hcreated
  cases hcreated
  rfl

theorem found_removeApp_leads (id : String) :
    Leads r.http.server clock (fun xs o => ∃ x, xs = [x] ∧ match o with
        | some deployment => r.Accepts (clock.lasting r.http.limit.nanos) id x deployment
        | none => r.Misses (clock.lasting r.http.limit.nanos) id x)
      (found (r.removeApp id true)) := by
  have hdeleted := r.http.finds_delete (α := Removal) hclock ("v2/apps/" ++ pathId id)
  have hfinds := (hdeleted.mapFault Fault.isNotFound_ofSubmission
    fun _ _ => Fault.ofSubmission_eq_notFound_iff).map Removal.deploymentId
  apply hfinds.found_leads.congr
  intro xs o
  cases o with
  | some deployment =>
      constructor
      · rintro ⟨x, hxs, removal, ⟨hsent, hcarries⟩, hid⟩
        exact ⟨x, hxs, hsent, removal, hcarries, hid⟩
      · rintro ⟨x, hxs, hsent, removal, hcarries, hid⟩
        exact ⟨x, hxs, removal, ⟨hsent, hcarries⟩, hid⟩
  | none => exact Iff.rfl

end

end Remote

end Rollout
