import Rollout.Proofs.Scenario.Plans
/-!
# Tokens make no difference

A token is put into the authorization of requests and nowhere else. A server that does not look at
authorizations can therefore not make it show: with two tokens the same is asked for and the same
comes of it, and what is sent differs in the authorization alone.
-/

namespace Rollout

open Http Time Wire

variable {σ : Type} {α : Type}

namespace Settings

/-- The same settings with a token. -/
def withToken (s : Settings) (token : String) : Settings := { s with authToken := some token }

theorem clusterUrl_withToken (s : Settings) (token : String) :
    (s.withToken token).clusterUrl = s.clusterUrl := rfl

theorem clusterBase_withToken (s : Settings) (token : String) :
    (s.withToken token).clusterBase = s.clusterBase := by
  unfold clusterBase
  rw [clusterUrl_withToken]

theorem validate_withToken (s : Settings) (token : String) :
    (s.withToken token).validate = s.validate := by
  unfold validate
  rw [clusterBase_withToken, clusterUrl_withToken]
  congr

end Settings

/-- The answers of a server do not depend on authorizations, nor on what may have become of its
state through them. -/
def Http.Blind (server : Server σ) (R : σ → σ → Prop) : Prop :=
  ∀ now (q : Request) authorization authorization' s s', R s s' →
    let step := server now { q with authorization := authorization } s
    let step' := server now { q with authorization := authorization' } s'
    step.1 = step'.1 ∧ R step.2 step'.2

/-- The authorization that a token gives. -/
def Http.authorizationOf (token : String) : String := "token=" ++ token

/-- What is sent with a token. -/
def Http.Sent.signed (token : String) (q : Sent) : Sent :=
  { q with request := { q.request with authorization := some (authorizationOf token) } }

/-- What two runs with a token each have come to: after what was sent before, both have sent the
same but for the token. -/
structure Http.Alike (R : σ → σ → Prop) (token token' : String) (before before' : List Sent)
    (net net' : Net σ) : Prop where
  server : R net.server net'.server
  sent : ∃ plain : List Sent, net.sent = before ++ plain.map (Sent.signed token) ∧
    net'.sent = before' ++ plain.map (Sent.signed token')

theorem Http.Alike.start {R : σ → σ → Prop} {net net' : Net σ} (h : R net.server net'.server)
    (token token' : String) : Alike R token token' net.sent net'.sent net net' :=
  ⟨h, [], (List.append_nil _).symm, (List.append_nil _).symm⟩

namespace Http.Client

theorem credentials?_congr {u v : Url} (h : v.authority = u.authority) :
    credentials? v = credentials? u := by
  unfold credentials?
  rw [h]

theorem request_of_token {c : Client σ} {u : Url} {token : String}
    (hplain : credentials? u = none) (htoken : c.token = some token) (method : Method)
    (body : Option String) :
    c.request method u body = ⟨method, u, some (authorizationOf token), body⟩ := by
  unfold request
  rw [hplain, htoken]
  rfl

variable {R : σ → σ → Prop} {c : Client σ} (hblind : Blind c.server R)
  {token token' : String}
  {before before' : List Sent}
include hblind

theorem transmit_alike (other : Client σ) (hserver : other.server = c.server)
    (hlimit : other.limit = c.limit) (method : Method) (u : Url) (body : Option String) :
    Run.Agree (Alike R token token' before before')
      (c.transmit ⟨method, u, some (authorizationOf token), body⟩)
      (other.transmit ⟨method, u, some (authorizationOf token'), body⟩) := by
  rintro clock now net net' ⟨hstate, plain, hsent, hsent'⟩
  have hanswered := hblind now ⟨method, u, none, body⟩ (some (authorizationOf token))
    (some (authorizationOf token')) net.server net'.server hstate
  unfold transmit
  rw [hserver, hlimit]
  rcases hx : c.server now ⟨method, u, some (authorizationOf token), body⟩ net.server
    with ⟨reply, next⟩
  rcases hy : c.server now ⟨method, u, some (authorizationOf token'), body⟩ net'.server
    with ⟨reply', next'⟩
  simp only [hx, hy] at hanswered ⊢
  obtain ⟨rfl, hnext⟩ := hanswered
  have hafter : Alike R token token' before before'
      ⟨next, net.sent ++ [⟨now, ⟨method, u, some (authorizationOf token), body⟩⟩]⟩
      ⟨next', net'.sent ++ [⟨now,
        ⟨method, u, some (authorizationOf token'), body⟩⟩]⟩ := by
    refine ⟨hnext, plain ++ [⟨now, ⟨method, u, none, body⟩⟩], ?_, ?_⟩
    · rw [hsent, List.map_append, List.append_assoc]
      rfl
    · rw [hsent', List.map_append, List.append_assoc]
      rfl
  split
  · exact ⟨rfl, rfl, hstate, plain, hsent, hsent'⟩
  · split
    · exact ⟨rfl, rfl, hafter⟩
    · cases reply.answer <;> exact ⟨rfl, rfl, hafter⟩

theorem agree_of_token (hbase : c.base.Rooted) (hplain : credentials? c.base = none)
    (htoken : c.token = some token) :
    c.Agree (Alike R token token' before before') { c with token := some token' } where
  base := rfl
  transmit := by
    intro path u v method body hpath hurl hauthority
    obtain ⟨u', hurl', hbelow⟩ := url_of_descends hbase hpath
    obtain rfl : u' = u := Except.ok.inj (hurl'.symm.trans hurl)
    have hv : credentials? v = none := by
      calc credentials? v = credentials? u' := credentials?_congr hauthority
        _ = credentials? c.base := credentials?_congr hbelow.authority
        _ = none := hplain
    rw [request_of_token hv htoken,
      request_of_token (c := { c with token := some token' }) hv rfl]
    exact transmit_alike hblind _ rfl rfl method v body

end Http.Client

namespace Cluster

/-- A cluster that is signed in to with another token agrees with it, its orchestrators included. -/
theorem agree_of_token {R : σ → σ → Prop} {c : Cluster σ} (hblind : Blind c.http.server R)
    (hbase : c.http.base.Rooted) (hplain : credentials? c.http.base = none) {token : String}
    (htoken : c.http.token = some token) (token' : String) (before before' : List Sent) :
    c.Agree (Alike R token token' before before') { c.http with token := some token' } where
  own := Client.agree_of_token hblind hbase hplain htoken
  rebased context base hurl := by
    obtain ⟨base', hurl', hbelow⟩ := Client.url_of_descends hbase context.descends_basePath
    obtain rfl : base' = base := Except.ok.inj (hurl'.symm.trans hurl)
    have hplain' : credentials? base' = none :=
      (Client.credentials?_congr hbelow.authority).trans hplain
    exact Client.agree_of_token (c := c.http.rebased base') hblind (hbelow.rooted hbase) hplain'
      htoken

end Cluster

/-- Two runs of one plan whose settings differ in their tokens come to the same at the same time and
keep the same snapshots. Both send the same requests, each of them authorized by the token that the
run has. -/
theorem Plan.run_signed {server : Server σ} {R : σ → σ → Prop} (hblind : Blind server R)
    {s : Settings} {token token' : String} {c c' : Cluster σ}
    (hc : Cluster.ofSettings server (s.withToken token) = .ok c)
    (hc' : Cluster.ofSettings server (s.withToken token') = .ok c')
    (hplain : ∀ base, s.clusterBase = .ok base → credentials? base = none) (t : Timings)
    (plan : Plan α) (clock : Clock) (now : Nat) (ledgers : Nat → Ledger) (net net' : Net σ)
    (hnet : R net.server net'.server) :
    let step := plan.run c t clock now (ledgers, net)
    let step' := plan.run c' t clock now (ledgers, net')
    step.outcome = step'.outcome ∧ step.elapsed = step'.elapsed ∧
      step.state.1 = step'.state.1 ∧ R step.state.2.server step'.state.2.server ∧
      ∃ plain : List Sent, step.state.2.sent = net.sent ++ plain.map (Sent.signed token) ∧
        step'.state.2.sent = net'.sent ++ plain.map (Sent.signed token') := by
  have hrooted := (Cluster.rooted_of_ofSettings hc).2
  obtain ⟨-, base, hbase, rfl⟩ := Cluster.of_ofSettings hc
  obtain ⟨-, base', hbase', rfl⟩ := Cluster.of_ofSettings hc'
  rw [s.clusterBase_withToken] at hbase hbase'
  obtain rfl : base = base' := Except.ok.inj (hbase.symm.trans hbase')
  have hagree := Cluster.agree_of_token (c := Cluster.configured server base (s.withToken token))
    hblind hrooted (hplain base hbase) rfl token' net.sent net'.sent
  obtain ⟨houtcome, helapsed, hledgers, hserver, hsent⟩ := plan.run_agree hagree t clock now
    (ledgers, net) (ledgers, net') ⟨rfl, .start hnet token token'⟩
  exact ⟨houtcome, helapsed, hledgers, hserver, hsent⟩

/-- A server that writes down the authorizations it is shown, and knows nothing else. -/
def listeningServer : Server (List (Option String)) := fun _ r heard =>
  (⟨1, .response 404 (Text.toBytes "gone") .complete⟩, heard ++ [r.authorization])

/-- Looks at the nested orchestrator, and gives an account of what it has seen. -/
def inspection : Plan String :=
  .watch 0 (.nested "m") (.observe ⟨"d", "/a", .deploy⟩) fun
    | .ok _ => .finish "seen"
    | .error fault => .ask (.runAll []) fun
      | .ok reports => .finish (Report.listText reports)
      | .error later => .finish (fault.message ++ ", then " ++ later.message)

/-- What the server has heard differs, but it tells nobody. -/
theorem Plan.run_signed_inspection :
    let settings := Settings.forCluster "https://c/api"
    let base : Url :=
      ⟨"https", some ⟨"", none, .domain "c", none⟩, .segments ["api", ""], none, none⟩
    let step (token : String) :=
      inspection.run (Cluster.configured listeningServer base (settings.withToken token)) .usual
        .exact 0 (fun _ => .empty, ⟨[], []⟩)
    (step "alpha").outcome = .done "Not found: gone, then Not found: gone" ∧
      (step "beta").outcome = .done "Not found: gone, then Not found: gone" ∧
      (step "beta").state.2.server = [some "token=beta", some "token=beta"] ∧
      ∃ plain : List Sent, plain.length = 2 ∧
        (step "alpha").state.2.sent = plain.map (Sent.signed "alpha") ∧
        (step "beta").state.2.sent = plain.map (Sent.signed "beta") := by
  intro settings base step
  have hvalid : settings.validate = .ok () := Json.eq_ok_of_toOption (by decide +kernel)
  have hbase : settings.clusterBase = .ok base := Json.eq_ok_of_toOption (by decide +kernel)
  have hconfigured (token : String) (htoken : checkToken (some token) = .ok ()) :
      Cluster.ofSettings listeningServer (settings.withToken token) =
        .ok (Cluster.configured listeningServer base (settings.withToken token)) :=
    Cluster.ofSettings_eq ((settings.validate_withToken token).trans hvalid)
      ((settings.clusterBase_withToken token).trans hbase) htoken listeningServer
  have hplain (found : Url) (hfound : settings.clusterBase = .ok found) :
      credentials? found = none := by
    obtain rfl : base = found := Except.ok.inj (hbase.symm.trans hfound)
    decide +kernel
  have hblind : Blind listeningServer fun _ _ => True := fun _ _ _ _ _ _ _ => ⟨rfl, trivial⟩
  obtain ⟨houtcome, -, -, -, plain, hsent, hsent'⟩ := Plan.run_signed hblind
    (hconfigured "alpha" (by decide +kernel)) (hconfigured "beta" (by decide +kernel)) hplain .usual
    inspection .exact 0 (fun _ => .empty) ⟨[], []⟩ ⟨[], []⟩ trivial
  have halpha : (step "alpha").outcome = .done "Not found: gone, then Not found: gone" := by
    decide +kernel
  have hlength : (step "alpha").state.2.sent.length = 2 := by decide +kernel
  refine ⟨halpha, houtcome.symm.trans halpha, by decide +kernel, plain, ?_, hsent, hsent'⟩
  have hplain : (step "alpha").state.2.sent = plain.map (Sent.signed "alpha") := hsent
  rw [hplain, List.length_map] at hlength
  exact hlength

end Rollout
