import Rollout.Proofs.Cluster.Origin
import Rollout.Proofs.Http.Exchanges
import Rollout.Proofs.Run.Outcome
import Rollout.Proofs.Url.Literal
/-!
# Ids in requests

An id is put into the path of a request as it is. What the request names is therefore the id only if
the id is read literally there; any other id names something else, which may well be the resource of
another id.
-/

namespace Rollout

open Http

variable {σ : Type} {α β : Type}

/-- Nothing is sent. -/
def Http.still : Progress (Net σ) where
  Holds _ net _ later := later.sent = net.sent
  wait _ := rfl
  trans h h' := h'.trans h

namespace Http.Client

/-- All that a run sends is this request, at once and if the client can make it. -/
def SendsOnly (c : Client σ) (q : Request) (x : Run (Net σ) Fault α) : Prop :=
  ∀ clock now net, (x clock now net).state.sent =
    net.sent ++ if isSendable q.url && !c.limit.isZero then [⟨now, q⟩] else []

variable {c : Client σ} {q : Request}

theorem SendsOnly.mapFault {x : Run (Net σ) Fault α} (h : c.SendsOnly q x) (f : Fault → Fault) :
    c.SendsOnly q (x.mapFault f) := by
  intro clock now net
  rw [Run.mapFault_apply]
  exact h clock now net

theorem SendsOnly.bind_of_decides {x : Run (Net σ) Fault α} (h : c.SendsOnly q x)
    {f : α → Run (Net σ) Fault β} (hf : ∀ a, Run.Decides (f a)) :
    c.SendsOnly q (x >>= f) := by
  intro clock now net
  rw [Run.state_bind_of_decides hf]
  exact h clock now net

theorem sendsOnly_ask {path : String} {u : Url} (hurl : c.url path = .ok u) (edit : Url → Url)
    (method : Method) (body : Option String) {read : Response → Run (Net σ) Fault α}
    (hread : ∀ r, Run.Follows still (read r)) :
    c.SendsOnly (c.request method (edit u) body)
      (Run.ofExcept (c.url path) >>= fun u => c.send method (edit u) body >>= read) := by
  intro clock now net
  have hasked := c.asked clock now net method edit body path read
  generalize (Run.ofExcept (c.url path) >>= fun u =>
    c.send method (edit u) body >>= read) clock now net = step at hasked ⊢
  cases hasked with
  | unnamed hfailed =>
      rw [hurl] at hfailed
      cases hfailed
  | @unsendable v hv hsendable =>
      obtain rfl : u = v := Except.ok.inj (hurl.symm.trans hv)
      simp [hsendable]
  | @noTime v hv _ hlimit => simp [hlimit]
  | @sent v hv hsendable hlimit =>
      obtain rfl : u = v := Except.ok.inj (hurl.symm.trans hv)
      obtain ⟨hstate, -⟩ := c.transmit_timed clock now net hlimit
        (c.request method (edit u) body)
      simp only [hsendable, hlimit, Bool.not_false, Bool.and_self, if_true]
      rw [Run.bind_apply]
      rcases hstep : c.transmit (c.request method (edit u) body) clock now net
        with ⟨r | fault | text, later, n⟩
      · rw [hstep] at hstate
        cases hstate
        exact hread r clock (now + n) _
      · rw [hstep] at hstate
        cases hstate
        rfl
      · rw [hstep] at hstate
        cases hstate
        rfl

theorem request_method (c : Client σ) (method : Method) (u : Url) (body : Option String) :
    (c.request method u body).method = method := by
  unfold request
  split <;> rfl

theorem request_target (c : Client σ) (method : Method) (u : Url) (body : Option String) :
    (c.request method u body).url.pathText = u.pathText ∧
      (c.request method u body).url.query = u.query := by
  unfold request
  split
  · refine ⟨?_, rfl⟩
    unfold Url.pathText Url.withoutCredentials
    cases u.authority <;> rfl
  · exact ⟨rfl, rfl⟩

end Http.Client

/-! ## Requests for resources -/

namespace Url

/-- The URL names a resource below a base, and its query is this one. -/
def Resource (base : Url) (words data : String) (query : Option String) (u : Url) : Prop :=
  Names base words data u ∧ u.query = query

theorem introduces_apps : Introduces "v2/apps/".toList :=
  ⟨by decide, by decide, by decide, by decide⟩

theorem introduces_deployments : Introduces "v2/deployments/".toList :=
  ⟨by decide, by decide, by decide, by decide⟩

theorem introduces_service : Introduces "service/".toList :=
  ⟨by decide, by decide, by decide, by decide⟩

theorem withParameter_of_query {u : Url} (h : u.query = none) (name value : String) :
    (u.withParameter name value).query = some (name ++ "=" ++ value) := by
  unfold withParameter
  rw [h]

theorem names_congr {base u v : Url} (h : u.pathText = v.pathText) (words data : String) :
    Names base words data u ↔ Names base words data v := by
  unfold Names
  rw [h]

theorem Names.unique {base u : Url} {words data data' : String} (h : Names base words data u)
    (h' : Names base words data' u) : data = data' := by
  obtain ⟨rest, hrest, hdecode⟩ := h
  obtain ⟨rest', hrest', hdecode'⟩ := h'
  have heq : rest = rest' := by
    have htext := congrArg String.toList (hrest.symm.trans hrest')
    simp only [String.toList_append, List.append_cancel_left_eq] at htext
    exact String.toList_injective htext
  rw [heq, hdecode'] at hdecode
  exact String.toList_injective (bytes_injective hdecode.symm)

end Url

namespace Http.Client

open Url

variable {c : Client σ} {dirs : List String} (hbase : Directory c.base dirs) {words : String}
  (hwords : Introduces words.toList) (data : String)
include hbase hwords

theorem url_of_introduces : ∃ u, c.url (words ++ data) = .ok u ∧ u.origin = c.base.origin ∧
    (Names c.base words data u ↔ Literal data.toList) ∧
      (Literal data.toList → u.query = none) := by
  have hjoin := join_of_introduces hbase hwords data
  have hpath : Descends (words ++ data).toList := descends_append hwords.descends data
  have hurl := url_eq_of_join hpath hjoin
  exact ⟨_, hurl, origin_of_url (Served.rooted hbase) hpath hurl,
    names_iff_literal hbase hwords data hjoin,
    fun h => (names_of_literal hbase hwords data hjoin h).2⟩

/-- What is got from a resource is got from the one that is meant exactly if that is read
literally. -/
theorem resource_get_iff : ∃ u, c.url (words ++ data) = .ok u ∧
    (c.request .get u none).url.origin = c.base.origin ∧
    (Resource c.base words data none (c.request .get u none).url ↔ Literal data.toList) := by
  obtain ⟨u, hurl, horigin, hnames, hquery⟩ := url_of_introduces hbase hwords data
  obtain ⟨hpath, hsame⟩ := c.request_target .get u none
  refine ⟨u, hurl, (c.request_origin _ _ _).trans horigin, ?_⟩
  unfold Resource
  rw [names_congr hpath, hsame, hnames]
  exact ⟨And.left, fun h => ⟨h, hquery h⟩⟩

theorem resource_delete_iff (value : String) : ∃ u, c.url (words ++ data) = .ok u ∧
    (c.request .delete (u.withParameter "force" value) none).url.origin = c.base.origin ∧
    (Resource c.base words data (some ("force=" ++ value))
      (c.request .delete (u.withParameter "force" value) none).url ↔ Literal data.toList) := by
  obtain ⟨u, hurl, horigin, hnames, hquery⟩ := url_of_introduces hbase hwords data
  obtain ⟨hpath, hsame⟩ := c.request_target .delete (u.withParameter "force" value) none
  have hparameter : (u.withParameter "force" value).pathText = u.pathText := rfl
  refine ⟨u, hurl, (c.request_origin _ _ _).trans horigin, ?_⟩
  unfold Resource
  rw [names_congr (hpath.trans hparameter), hsame, hnames]
  exact ⟨And.left, fun h => ⟨h, withParameter_of_query (hquery h) "force" value⟩⟩

end Http.Client

/-! ## Ids -/

section

open Url Wire

/-- The run sends this request and no other. It is for the server of the client, and it is for what
is meant exactly if that is read literally behind the words. -/
structure Http.Client.AsksFor (c : Client σ) (words data : String) (method : Method)
    (query : Option String) (q : Request) (x : Run (Net σ) Fault α) : Prop where
  sends : c.SendsOnly q x
  method : q.method = method
  origin : q.url.origin = c.base.origin
  resource_iff : Resource c.base words data query q.url ↔ Literal data.toList

variable (c : Cluster σ) {dirs : List String} (hbase : Directory c.http.base dirs)
include hbase

theorem Remote.removeApp_asksFor (id : String) (force : Bool) : ∃ q, ∀ context,
    c.http.AsksFor "v2/apps/" (pathId id) .delete (some ("force=" ++ toString force)) q
      (Remote.removeApp ⟨c.http, context⟩ id force) := by
  obtain ⟨u, hurl, horigin, hresource⟩ :=
    Client.resource_delete_iff hbase introduces_apps (pathId id) (toString force)
  have hsends : c.http.SendsOnly _
      (c.http.delete ("v2/apps/" ++ pathId id) force : Run _ _ Removal) :=
    Client.sendsOnly_ask hurl (·.withParameter "force" (toString force)) .delete none
      Client.follows_readValue
  exact ⟨_, fun _ => ⟨(hsends.mapFault _).bind_of_decides fun _ => Run.decides_pure _,
    c.http.request_method _ _ _, horigin, hresource⟩⟩

theorem Remote.stopDeployment_asksFor (id : String) : ∃ q, ∀ context,
    c.http.AsksFor "v2/deployments/" id .delete (some "force=true") q
      (Remote.stopDeployment ⟨c.http, context⟩ id) := by
  obtain ⟨u, hurl, horigin, hresource⟩ :=
    Client.resource_delete_iff hbase introduces_deployments id "true"
  exact ⟨_, fun _ => ⟨Client.sendsOnly_ask hurl (·.withParameter "force" "true") .delete none
    Client.follows_requireSuccess, c.http.request_method _ _ _, horigin, hresource⟩⟩

theorem Cluster.endpointExists_asksFor (name : String) : ∃ q,
    c.http.AsksFor "service/" (name ++ "/") .get none q (c.endpointExists name) := by
  obtain ⟨u, hurl, horigin, hresource⟩ :=
    Client.resource_get_iff hbase introduces_service (name ++ "/")
  have hsends : c.http.SendsOnly _ (c.http.probe ("service/" ++ (name ++ "/"))) :=
    Client.sendsOnly_ask hurl id .get none fun _ => .pure _
  rw [← String.append_assoc] at hsends
  refine ⟨_, hsends.bind_of_decides fun status => ?_, c.http.request_method _ _ _, horigin,
    hresource⟩
  cases Cluster.endpointStatus name status with
  | ok found => exact Run.decides_pure found
  | error fault => exact Run.decides_fail fault

/-- An app, a deployment or a service is asked for by one request on the server of the client, whose
path and query are for its id, as it was given, exactly if that is read literally. Two apps of which
both have such an id are never asked for by one request. -/
theorem Cluster.asksFor_iff_literal :
    ∃ (removal : String → Bool → Request) (stop probe : String → Request),
    (∀ id force context, c.http.AsksFor "v2/apps/" (pathId id) .delete
      (some ("force=" ++ toString force)) (removal id force)
        (Remote.removeApp ⟨c.http, context⟩ id force)) ∧
    (∀ id context, c.http.AsksFor "v2/deployments/" id .delete (some "force=true") (stop id)
      (Remote.stopDeployment ⟨c.http, context⟩ id)) ∧
    (∀ name, c.http.AsksFor "service/" (name ++ "/") .get none (probe name)
      (c.endpointExists name)) ∧
    ∀ id id' force force', Literal (pathId id).toList → Literal (pathId id').toList →
      removal id force = removal id' force' → pathId id = pathId id' := by
  choose removal hremoval using Remote.removeApp_asksFor c hbase
  choose stop hstop using Remote.stopDeployment_asksFor c hbase
  choose probe hprobe using Cluster.endpointExists_asksFor c hbase
  refine ⟨removal, stop, probe, hremoval, hstop, hprobe, fun id id' force force' h h' heq => ?_⟩
  have hnames := ((hremoval id force .root).resource_iff.mpr h).1
  have hnames' := ((hremoval id' force' .root).resource_iff.mpr h').1
  rw [heq] at hnames
  exact hnames.unique hnames'

end

open Url Wire

/-- A server that says nothing of use. -/
def muteServer : Server Unit := fun _ _ u => (⟨0, .response 404 [] .complete⟩, u)

/-- A cluster whose client is below an orchestrator. -/
def muteCluster : Cluster Unit where
  http :=
    { server := muteServer
      base := ⟨"http", some ⟨"", none, .domain "c", none⟩, .segments ["marathon", ""],
        none, none⟩
      token := none
      limit := .ofSecs 1 }
  nestedServiceName := "m"
  pollInterval := .ofSecs 1
  deploymentWaitTimeout := .ofSecs 1
  serviceEndpointTimeout := .ofSecs 1

/-- Blanks inside an id and a percent sign alone are read literally. -/
theorem Cluster.asksFor_iff_literal_blank :
    let r : Remote Unit := ⟨muteCluster.http, .root⟩
    Directory muteCluster.http.base ["marathon"] ∧
      ∃ q, (r.removeApp "//a b/5%/c" true .exact 0 ⟨(), []⟩).state.sent = [⟨0, q⟩] ∧
        Resource muteCluster.http.base "v2/apps/" "a b/5%/c" (some "force=true") q.url := by
  intro r
  have hbase : Directory muteCluster.http.base ["marathon"] := ⟨.inl rfl, rfl, rfl⟩
  obtain ⟨removal, -, -, hremoval, -⟩ := Cluster.asksFor_iff_literal muteCluster hbase
  have hasks := hremoval "//a b/5%/c" true .root
  have hsent := hasks.sends .exact 0 ⟨(), []⟩
  have hlength : (r.removeApp "//a b/5%/c" true .exact 0 ⟨(), []⟩).state.sent.length = 1 := by
    decide +kernel
  refine ⟨hbase, _, ?_, hasks.resource_iff.mpr (by decide +kernel)⟩
  change (r.removeApp "//a b/5%/c" true .exact 0 ⟨(), []⟩).state.sent = _ at hsent
  rw [hsent] at hlength ⊢
  split at hlength
  · simp [*]
  · cases hlength

/-- What follows a question mark is no part of the path, and dots lead to another app. -/
theorem Cluster.removeApp_strays :
    let r : Remote Unit := ⟨muteCluster.http, .root⟩
    let sent (id : String) := (r.removeApp id true .exact 0 ⟨(), []⟩).state.sent
    (∃ q, sent "/a?b" = [⟨0, q⟩] ∧ Names muteCluster.http.base "v2/apps/" "a" q.url ∧
      ¬ Resource muteCluster.http.base "v2/apps/" (pathId "/a?b") (some "force=true") q.url) ∧
    pathId "/b/../a" ≠ pathId "/a" ∧ sent "/b/../a" = sent "/a" := by
  intro r sent
  refine ⟨⟨⟨.delete, ⟨"http", some ⟨"", none, .domain "c", none⟩,
    .segments ["marathon", "v2", "apps", "a"], some "b&force=true", none⟩, none, none⟩,
    by decide +kernel, ⟨"a", by decide +kernel, by decide +kernel⟩, ?_⟩, by decide +kernel,
    by decide +kernel⟩
  rintro ⟨-, hquery⟩
  exact absurd hquery (by decide +kernel)

end Rollout
