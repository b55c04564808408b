import Rollout.Proofs.Cluster.Deadlines
import Rollout.Proofs.Cluster.Progress
import Rollout.Proofs.Http.Redirects
/-!
# The origin of requests

Every path that is asked for descends from the base of its client, and the base of an orchestrator
descends from that of its cluster. The base of accepted settings is one from which a path can
descend, so what is asked for can always be named, and it is on the server of the cluster.
-/

namespace Rollout

open Http Time Wire

variable {σ : Type} {α : Type}

namespace Http.Client

variable {c : Client σ}

theorem request_origin (c : Client σ) (method : Method) (u : Url) (body : Option String) :
    (c.request method u body).url.origin = u.origin := by
  unfold request
  split
  · exact u.origin_withoutCredentials
  · rfl

theorem url_eq_of_join {path : String} (h : Url.Descends path.toList) {u : Url}
    (hjoin : c.base.join path = .ok u) : c.url path = .ok u := by
  have htrim : Text.trimStart '/' path = path := by
    unfold Text.trimStart
    rw [h.dropWhile_eq, String.ofList_toList]
    intro d hd
    simpa using Url.ne_of_isPlain hd (d := '/') rfl
  unfold Client.url
  rw [htrim, hjoin]

theorem url_of_descends (hbase : c.base.Rooted) {path : String}
    (h : Url.Descends path.toList) : ∃ u, c.url path = .ok u ∧ c.base.Below u := by
  obtain ⟨u, hjoin, hbelow⟩ := Url.join_of_descends hbase h
  exact ⟨u, url_eq_of_join h hjoin, hbelow⟩

theorem origin_of_url (hbase : c.base.Rooted) {path : String} (h : Url.Descends path.toList)
    {u : Url} (hurl : c.url path = .ok u) : u.origin = c.base.origin := by
  obtain ⟨u', hurl', hbelow⟩ := url_of_descends hbase h
  obtain rfl : u' = u := Except.ok.inj (hurl'.symm.trans hurl)
  exact hbelow.origin

theorem keeps_staying (hbase : c.base.Rooted) : c.Keeps (staying c.base.origin) := by
  intro path u v method body hpath hurl horigin
  have hrequest : (c.request method v body).url.origin = c.base.origin := by
    calc (c.request method v body).url.origin = v.origin := c.request_origin method v body
      _ = u.origin := horigin
      _ = c.base.origin := origin_of_url hbase hpath hurl
  rw [← hrequest]
  exact c.transmit_staying _

end Http.Client

theorem Context.descends_basePath (context : Context) :
    Url.Descends context.basePath.toList := by
  cases context with
  | root => exact by decide
  | nested name => exact Url.descends_append (Url.descends_append (by decide) name) "/"

theorem Settings.parse_of_clusterBase {s : Settings} {base : Url} (h : s.clusterBase = .ok base) :
    Url.parse (Text.trimEnd '/' (Text.trim s.clusterUrl) ++ "/") = .ok base := by
  unfold clusterBase at h
  simp only at h
  split at h
  · cases h
  · split at h
    · cases h
      assumption
    · cases h

theorem Settings.base_of_validate {s : Settings} (hvalid : s.validate = .ok ()) :
    ∃ base, s.clusterBase = .ok base ∧ (base.scheme = "http" ∨ base.scheme = "https") := by
  unfold validate at hvalid
  cases hbase : s.clusterBase with
  | error fault =>
      rw [hbase] at hvalid
      cases hvalid
  | ok base =>
      refine ⟨base, rfl, ?_⟩
      rw [hbase] at hvalid
      by_contra hneither
      rw [not_or] at hneither
      change (if _ then _ else _) = _ at hvalid
      rw [if_pos hneither] at hvalid
      cases hvalid

theorem Settings.rooted_of_validate {s : Settings} (hvalid : s.validate = .ok ()) {base : Url}
    (hbase : s.clusterBase = .ok base) : base.Rooted := by
  obtain ⟨base', hbase', hscheme⟩ := base_of_validate hvalid
  obtain rfl : base' = base := Except.ok.inj (hbase'.symm.trans hbase)
  have hknown : Url.isSpecial base'.scheme = true := by
    rcases hscheme with h | h <;> rw [h] <;> rfl
  have hfile : base'.scheme ≠ "file" := by
    rcases hscheme with h | h <;> rw [h] <;> decide
  exact Url.rooted_of_parse (parse_of_clusterBase hbase) hknown hfile

namespace Cluster

variable {c : Cluster σ}

theorem remote_of_rooted (hbase : c.http.base.Rooted) (context : Context) :
    ∃ base, c.remote context = .ok ⟨c.http.rebased base, context⟩ ∧
      c.http.base.Below base := by
  obtain ⟨base, hurl, hbelow⟩ := Client.url_of_descends hbase context.descends_basePath
  exact ⟨base, remote_of_url hurl, hbelow⟩

/-- The orchestrators of a cluster are on its server. -/
theorem keeps_staying (hbase : c.http.base.Rooted) : c.Keeps (staying c.http.base.origin) where
  own := Client.keeps_staying hbase
  rebased context base hurl := by
    obtain ⟨base', hurl', hbelow⟩ := Client.url_of_descends hbase context.descends_basePath
    obtain rfl : base' = base := Except.ok.inj (hurl'.symm.trans hurl)
    have hkeeps : (c.http.rebased base').Keeps (staying base'.origin) :=
      Client.keeps_staying (hbelow.rooted hbase)
    rwa [hbelow.origin] at hkeeps

theorem keeps_relaying {wire : σ → List Passage} (h : Relays c.http.server wire) :
    c.Keeps (relaying wire) :=
  .of_transmit fun base q => Client.transmit_relaying (c := c.http.rebased base) h q

theorem rooted_of_ofSettings {server : Server σ} {s : Settings}
    (h : ofSettings server s = .ok c) :
    s.clusterBase = .ok c.http.base ∧ c.http.base.Rooted := by
  obtain ⟨hvalid, base, hbase, rfl⟩ := of_ofSettings h
  exact ⟨hbase, Settings.rooted_of_validate hvalid hbase⟩

theorem root_of_ofSettings {server : Server σ} {s : Settings} (h : ofSettings server s = .ok c) :
    ∃ root, c.root = .ok root ∧ root.http.server = server ∧
      root.http.limit = s.requestTimeout := by
  obtain ⟨-, hrooted⟩ := rooted_of_ofSettings h
  obtain ⟨base, hroot, -⟩ := remote_of_rooted hrooted .root
  exact ⟨_, hroot, http_of_ofSettings h⟩

end Cluster

end Rollout
