import Rollout.Orchestrator.Remote
import Rollout.Proofs.Run.Agreement
import Rollout.Proofs.Url.Descent
/-!
# Agreement over a network

Two clients with one base ask for the same URLs. If the requests they make of them agree, so does
everything else the clients do, and everything that is asked of an orchestrator through them.
-/

namespace Rollout

open Http Time Wire

variable {σ : Type} {α β : Type} {A : Net σ → Net σ → Prop}

namespace Http.Client

/-- Clients with one base whose requests, of what paths that descend name, agree. -/
structure Agree (A : Net σ → Net σ → Prop) (c c' : Client σ) : Prop where
  base : c.base = c'.base
  transmit : ∀ path u v method body, Url.Descends path.toList → c.url path = .ok u →
    v.authority = u.authority →
      Run.Agree A (c.transmit (c.request method v body)) (c'.transmit (c'.request method v body))

variable {c c' : Client σ}

theorem request_url (c c' : Client σ) (method : Method) (u : Url) (body : Option String) :
    (c.request method u body).url = (c'.request method u body).url := by
  unfold request
  cases credentials? u <;> rfl

theorem Agree.url_eq (h : c.Agree A c') (path : String) : c.url path = c'.url path := by
  unfold Client.url
  rw [h.base]

theorem send_agree {method : Method} {u : Url} {body : Option String}
    (h : Run.Agree A (c.transmit (c.request method u body))
      (c'.transmit (c'.request method u body))) :
    Run.Agree A (c.send method u body) (c'.send method u body) := by
  unfold send
  simp only [c.request_url c' method u body]
  split
  · exact h
  · exact .fail _

theorem readText_agree (r : Response) :
    Run.Agree A (readText r : Run (Net σ) Fault String) (readText r) := by
  unfold readText
  cases r.ending with
  | complete => exact .pure _
  | truncated => exact .pure _
  | stalled => exact .bind (.sleep _) fun _ => .pure _

theorem requireSuccess_agree (r : Response) :
    Run.Agree A (requireSuccess r : Run (Net σ) Fault Unit) (requireSuccess r) := by
  unfold requireSuccess
  split
  · exact .pure _
  · exact .bind (readText_agree r) fun _ => .fail _

theorem readValue_agree [Json.Wire α] (r : Response) :
    Run.Agree A (readValue r : Run (Net σ) Fault α) (readValue r) := by
  refine .bind (requireSuccess_agree r) fun _ => ?_
  cases r.ending with
  | complete =>
      simp only
      cases (Json.decodeBytes r.body : Except Json.Fault α) with
      | ok a => exact .pure a
      | error e => exact .fail _
  | truncated => exact .fail _
  | stalled => exact .bind (.sleep _) fun _ => .fail _

section

variable (hc : c.Agree A c') {path : String} (hpath : Url.Descends path.toList)
include hc hpath

theorem ask_agree {edit : Url → Url} (hedit : ∀ u, (edit u).authority = u.authority)
    (method : Method) (body : Option String) {read : Response → Run (Net σ) Fault α}
    (hread : ∀ r, Run.Agree A (read r) (read r)) :
    Run.Agree A (Run.ofExcept (c.url path) >>= fun u => c.send method (edit u) body >>= read)
      (Run.ofExcept (c'.url path) >>= fun u => c'.send method (edit u) body >>= read) := by
  rw [← hc.url_eq path]
  exact .ofExcept_bind fun u hurl =>
    .bind (send_agree (hc.transmit path u _ method body hpath hurl (hedit u))) hread

theorem get_agree [Json.Wire α] :
    Run.Agree A (c.get path : Run (Net σ) Fault α) (c'.get path) :=
  ask_agree hc hpath (fun u => Eq.refl u.authority) .get none readValue_agree

theorem post_agree [Json.Wire α] [Json.Wire β] (body : β) :
    Run.Agree A (c.post path body : Run (Net σ) Fault α) (c'.post path body) :=
  ask_agree hc hpath (fun u => Eq.refl u.authority) .post _ readValue_agree

theorem delete_agree [Json.Wire α] (force : Bool) :
    Run.Agree A (c.delete path force : Run (Net σ) Fault α) (c'.delete path force) :=
  ask_agree hc hpath (fun u => u.authority_withParameter _ _) .delete none readValue_agree

theorem deleteOnly_agree (force : Bool) :
    Run.Agree A (c.deleteOnly path force) (c'.deleteOnly path force) :=
  ask_agree hc hpath (fun u => u.authority_withParameter _ _) .delete none requireSuccess_agree

theorem probe_agree : Run.Agree A (c.probe path) (c'.probe path) :=
  ask_agree hc hpath (fun u => Eq.refl u.authority) .get none fun _ => .pure _

end

end Http.Client

namespace Remote

/-- Orchestrators of one context whose clients agree. -/
structure Agree (A : Net σ → Net σ → Prop) (r r' : Remote σ) : Prop where
  http : r.http.Agree A r'.http
  context : r.context = r'.context

variable {r r' : Remote σ} (hr : r.Agree A r')
include hr

theorem info_agree : Run.Agree A r.info r'.info :=
  Client.get_agree hr.http (by decide)

theorem listApps_agree : Run.Agree A r.listApps r'.listApps :=
  .bind (Client.get_agree hr.http (by decide)) fun _ => .pure _

theorem listDeployments_agree : Run.Agree A r.listDeployments r'.listDeployments :=
  Client.get_agree hr.http (by decide)

theorem getDeployment_agree (id : String) :
    Run.Agree A (r.getDeployment id) (r'.getDeployment id) :=
  .bind (listDeployments_agree hr) fun _ => .pure _

theorem stopDeployment_agree (id : String) :
    Run.Agree A (r.stopDeployment id) (r'.stopDeployment id) :=
  Client.deleteOnly_agree hr.http (Url.descends_append (by decide) id) true

theorem addApp_agree (app : App) : Run.Agree A (r.addApp app) (r'.addApp app) := by
  refine .bind ((Client.post_agree hr.http (by decide) app).mapFault _) fun created => ?_
  cases created.deployments with
  | nil => exact .fail _
  | cons d rest => exact .pure _

theorem removeApp_agree (id : String) (force : Bool) :
    Run.Agree A (r.removeApp id force) (r'.removeApp id force) := by
  have hpath : Url.Descends ("v2/apps/" ++ pathId id).toList :=
    Url.descends_append (by decide) (pathId id)
  exact .bind ((Client.delete_agree hr.http hpath force).mapFault _) fun _ => .pure _

end Remote

end Rollout
