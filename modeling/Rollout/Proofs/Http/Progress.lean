import Rollout.Orchestrator.Remote
import Rollout.Proofs.Http.Exchanges
import Rollout.Proofs.Url.Descent
/-!
# Progress over a network

Everything a client does comes down to sending requests below its base, so whatever is kept by each
of them is kept by all calls of an orchestrator. That what was sent stays sent is one instance; each
request falls into the time of the run that sends it.
-/

namespace Rollout

open Http Time Wire

variable {σ : Type} {α β : Type}

namespace Http.Client

variable {P : Progress (Net σ)} {c : Client σ}

/-- Every request on the server of what a path names that descends keeps the relation. -/
def Keeps (P : Progress (Net σ)) (c : Client σ) : Prop :=
  ∀ path u v method body, Url.Descends path.toList → c.url path = .ok u →
    v.origin = u.origin →
    Run.Follows P (c.transmit (c.request method v body))

theorem Keeps.of_transmit (h : ∀ q, Run.Follows P (c.transmit q)) : c.Keeps P :=
  fun _ _ _ _ _ _ _ _ => h _

theorem follows_send {method : Method} {u : Url} {body : Option String}
    (h : Run.Follows P (c.transmit (c.request method u body))) :
    Run.Follows P (c.send method u body) := by
  unfold send
  simp only
  split
  · exact h
  · exact .fail _

theorem follows_readText (r : Response) :
    Run.Follows P (readText r : Run (Net σ) Fault String) := by
  unfold readText
  cases r.ending with
  | complete => exact .pure _
  | truncated => exact .pure _
  | stalled => exact .bind (.sleep _) fun _ => .pure _

theorem follows_requireSuccess (r : Response) :
    Run.Follows P (requireSuccess r : Run (Net σ) Fault Unit) := by
  unfold requireSuccess
  split
  · exact .pure _
  · exact .bind (follows_readText r) fun _ => .fail _

theorem follows_readValue [Json.Wire α] (r : Response) :
    Run.Follows P (readValue r : Run (Net σ) Fault α) := by
  refine .bind (follows_requireSuccess r) fun _ => ?_
  cases r.ending with
  | complete =>
      simp only
      cases (Json.decodeBytes r.body : Except Json.Fault α) with
      | ok a => exact .pure a
      | error e => exact .fail _
  | truncated => exact .fail _
  | stalled => exact .bind (.sleep _) fun _ => .fail _

section

variable (hc : c.Keeps P) {path : String} (hpath : Url.Descends path.toList)
include hc hpath

theorem follows_ask {edit : Url → Url} (hedit : ∀ u, (edit u).origin = u.origin)
    (method : Method) (body : Option String) {read : Response → Run (Net σ) Fault α}
    (hread : ∀ r, Run.Follows P (read r)) :
    Run.Follows P (Run.ofExcept (c.url path) >>= fun u => c.send method (edit u) body >>= read) :=
  .ofExcept_bind fun u hurl =>
    .bind (follows_send (hc path u _ method body hpath hurl (hedit u))) hread

theorem follows_get [Json.Wire α] : Run.Follows P (c.get path : Run (Net σ) Fault α) :=
  follows_ask hc hpath (fun u => Eq.refl u.origin) .get none follows_readValue

theorem follows_post [Json.Wire α] [Json.Wire β] (body : β) :
    Run.Follows P (c.post path body : Run (Net σ) Fault α) :=
  follows_ask hc hpath (fun u => Eq.refl u.origin) .post _ follows_readValue

theorem follows_delete [Json.Wire α] (force : Bool) :
    Run.Follows P (c.delete path force : Run (Net σ) Fault α) :=
  follows_ask hc hpath (fun u => u.origin_withParameter _ _) .delete none follows_readValue

theorem follows_deleteOnly (force : Bool) : Run.Follows P (c.deleteOnly path force) :=
  follows_ask hc hpath (fun u => u.origin_withParameter _ _) .delete none follows_requireSuccess

theorem follows_probe : Run.Follows P (c.probe path) :=
  follows_ask hc hpath (fun u => Eq.refl u.origin) .get none fun _ => .pure _

end

end Http.Client

namespace Remote

variable {P : Progress (Net σ)} {r : Remote σ} (hr : r.http.Keeps P)
include hr

theorem follows_info : Run.Follows P r.info :=
  Client.follows_get hr (by decide)

theorem follows_listApps : Run.Follows P r.listApps :=
  .bind (Client.follows_get hr (by decide)) fun _ => .pure _

theorem follows_listDeployments : Run.Follows P r.listDeployments :=
  Client.follows_get hr (by decide)

theorem follows_getDeployment (id : String) : Run.Follows P (r.getDeployment id) :=
  .bind (follows_listDeployments hr) fun _ => .pure _

theorem follows_stopDeployment (id : String) : Run.Follows P (r.stopDeployment id) :=
  Client.follows_deleteOnly hr (Url.descends_append (by decide) id) true

theorem follows_addApp (app : App) : Run.Follows P (r.addApp app) := by
  refine .bind ((Client.follows_post hr (by decide) app).mapFault _) fun created => ?_
  cases created.deployments with
  | nil => exact .fail _
  | cons d rest => exact .pure _

theorem follows_removeApp (id : String) (force : Bool) : Run.Follows P (r.removeApp id force) := by
  have hpath : Url.Descends ("v2/apps/" ++ pathId id).toList :=
    Url.descends_append (by decide) (pathId id)
  exact .bind ((Client.follows_delete hr hpath force).mapFault _) fun _ => .pure _

end Remote

/-! ## What was sent -/

/-- What was sent stays sent, and what is added was sent in the meantime. -/
def Http.sending : Progress (Net σ) where
  Holds now net later net' := now ≤ later ∧ ∃ more, net'.sent = net.sent ++ more ∧
    ∀ q ∈ more, now ≤ q.time ∧ q.time ≤ later
  wait h := ⟨h, [], (List.append_nil _).symm, fun _ hq => absurd hq List.not_mem_nil⟩
  trans := by
    rintro now s mid t later u ⟨hfirst, xs, hxs, htimes⟩ ⟨hsecond, ys, hys, htimes'⟩
    refine ⟨Nat.le_trans hfirst hsecond, xs ++ ys, ?_, ?_⟩
    · rw [hys, hxs, List.append_assoc]
    · intro q hq
      rcases List.mem_append.mp hq with hq | hq
      · have h := htimes q hq
        omega
      · have h := htimes' q hq
        omega

theorem Http.Client.transmit_sending (c : Client σ) (r : Request) :
    Run.Follows sending (c.transmit r) := by
  intro clock now net
  rcases c.transmit_state clock now net r with hnet | hnext
  · rw [hnet]
    exact sending.wait (Nat.le_add_right _ _)
  · rw [hnext]
    refine ⟨Nat.le_add_right _ _, [⟨now, r⟩], rfl, fun q hq => ?_⟩
    rw [List.mem_singleton.mp hq]
    exact ⟨Nat.le_refl _, Nat.le_add_right _ _⟩

/-- What was sent stays sent, and every request that is added goes to this origin. -/
def Http.staying (origin : String × Option Url.Host × Option UInt16) : Progress (Net σ) where
  Holds _ net _ net' := ∃ more, net'.sent = net.sent ++ more ∧
    ∀ q ∈ more, q.request.url.origin = origin
  wait _ := ⟨[], (List.append_nil _).symm, fun _ hq => absurd hq List.not_mem_nil⟩
  trans := by
    rintro _ net _ mid _ later ⟨xs, hxs, horigin⟩ ⟨ys, hys, horigin'⟩
    refine ⟨xs ++ ys, ?_, List.forall_mem_append.mpr ⟨horigin, horigin'⟩⟩
    rw [hys, hxs, List.append_assoc]

theorem Http.Client.transmit_staying (c : Client σ) (r : Request) :
    Run.Follows (staying r.url.origin) (c.transmit r) := by
  intro clock now net
  rcases c.transmit_state clock now net r with hnet | hnext
  · rw [hnet]
    exact (staying r.url.origin).wait (Nat.le_add_right now _)
  · rw [hnext]
    exact ⟨[⟨now, r⟩], rfl, fun q hq => by rw [List.mem_singleton.mp hq]⟩

end Rollout
