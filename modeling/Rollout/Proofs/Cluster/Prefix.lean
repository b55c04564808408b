import Rollout.Proofs.Orchestrator.Resources
import Rollout.Proofs.Url.Written
/-!
# The path of a cluster

The URL of a cluster gets a slash at its end before it is read. In a URL with a query or a fragment
the slash ends up there, and the path may end without one. What the path has behind its last slash
is then no part of any request to the orchestrator of the cluster; what comes before is part of all
of them.
-/

namespace Rollout

open Http Url

variable {σ : Type} {α : Type}

/-! ## Fixed paths -/

/-- A path that is joined to a base as it is. -/
structure Url.Fixed (path : String) : Prop where
  descends : Descends path.toList
  literal : Literal path.toList
  encoded : encodeChars pathSet path.toList = path.toList

theorem Url.fixed_root : Fixed Context.root.basePath := ⟨by decide, by decide, by decide⟩

theorem Url.fixed_info : Fixed "v2/info" := ⟨by decide, by decide, by decide⟩

theorem Url.fixed_apps : Fixed "v2/apps" := ⟨by decide, by decide, by decide⟩

theorem Url.fixed_deployments : Fixed "v2/deployments" := ⟨by decide, by decide, by decide⟩

theorem Url.join_of_fixed {base : Url} {dirs : List String} {last : String}
    (hbase : Served base (dirs ++ [last])) {path : String} (h : Fixed path) :
    ∃ u, base.join path = .ok u ∧
      Served u (dirs ++ (splitAt '/' path.toList).map segmentText) ∧
      u.query = none ∧ u.pathText = segmentsText dirs ++ "/" ++ path := by
  have hjoin := join_of_literal hbase h.descends h.literal
  rwa [h.encoded, String.ofList_toList] at hjoin

/-- All that a run sends is a request for this path on the server of the client. -/
def Http.Client.AsksAt (c : Client σ) (method : Method) (path : String)
    (x : Run (Net σ) Fault α) : Prop :=
  ∃ q, c.SendsOnly q x ∧ q.method = method ∧ q.url.origin = c.base.origin ∧
    q.url.pathText = path ∧ q.url.query = none

namespace Http.Client

variable {c : Client σ} {method : Method} {path : String} {x : Run (Net σ) Fault α}

theorem AsksAt.mapFault (h : c.AsksAt method path x) (f : Fault → Fault) :
    c.AsksAt method path (x.mapFault f) := by
  obtain ⟨q, hsends, hq⟩ := h
  exact ⟨q, hsends.mapFault f, hq⟩

theorem AsksAt.bind_of_decides (h : c.AsksAt method path x) {β : Type}
    {f : α → Run (Net σ) Fault β} (hf : ∀ a, Run.Decides (f a)) :
    c.AsksAt method path (x >>= f) := by
  obtain ⟨q, hsends, hq⟩ := h
  exact ⟨q, hsends.bind_of_decides hf, hq⟩

theorem asksAt_ask {dirs : List String} (hbase : Directory c.base dirs) (h : Fixed path)
    (method : Method) (body : Option String) {read : Response → Run (Net σ) Fault α}
    (hread : ∀ r, Run.Follows still (read r)) : c.AsksAt method (c.base.pathText ++ path)
      (Run.ofExcept (c.url path) >>= fun u => c.send method u body >>= read) := by
  obtain ⟨u, hjoin, -, hquery, hpath⟩ := join_of_fixed hbase h
  obtain ⟨hsame, hsameQuery⟩ := c.request_target method u body
  have hurl := url_eq_of_join h.descends hjoin
  have horigin := origin_of_url hbase.rooted h.descends hurl
  refine ⟨_, sendsOnly_ask hurl id method body hread, c.request_method method u body,
    (c.request_origin method u body).trans horigin, ?_, hsameQuery.trans hquery⟩
  rw [hbase.pathText_eq, ← hpath]
  exact hsame

end Http.Client

/-! ## The root orchestrator -/

/-- What is asked of an orchestrator as a whole is asked for below this path. -/
structure Remote.AsksBelow (r : Remote σ) (path : String) : Prop where
  info : r.http.AsksAt .get (path ++ "v2/info") r.info
  listApps : r.http.AsksAt .get (path ++ "v2/apps") r.listApps
  addApp : ∀ app, r.http.AsksAt .post (path ++ "v2/apps") (r.addApp app)
  listDeployments : r.http.AsksAt .get (path ++ "v2/deployments") r.listDeployments
  getDeployment : ∀ id, r.http.AsksAt .get (path ++ "v2/deployments") (r.getDeployment id)

theorem Remote.asksBelow_of_directory (r : Remote σ) {dirs : List String}
    (hbase : Directory r.http.base dirs) : r.AsksBelow r.http.base.pathText where
  info := Client.asksAt_ask hbase fixed_info .get none Client.follows_readValue
  listApps := (Client.asksAt_ask hbase fixed_apps .get none
    Client.follows_readValue).bind_of_decides fun _ => Run.decides_pure _
  addApp app := by
    have hpost : r.http.AsksAt .post _ (r.http.post "v2/apps" app : Run _ _ Wire.AppCreated) :=
      Client.asksAt_ask hbase fixed_apps .post (some (Json.encode app)) Client.follows_readValue
    refine (hpost.mapFault Fault.ofSubmission).bind_of_decides fun created => ?_
    cases created.deployments with
    | nil => exact Run.decides_fail _
    | cons deployment rest => exact Run.decides_pure _
  listDeployments := Client.asksAt_ask hbase fixed_deployments .get none Client.follows_readValue
  getDeployment id := (Client.asksAt_ask hbase fixed_deployments .get none
    Client.follows_readValue).bind_of_decides fun _ => Run.decides_pure _

/-- The root orchestrator is asked behind the last slash of the path of the cluster. -/
theorem Cluster.root_asksBelow {c : Cluster σ} {dirs : List String} {last : String}
    (hbase : Served c.http.base (dirs ++ [last])) :
    ∃ root, c.root = .ok root ∧ root.http.base.origin = c.http.base.origin ∧
      root.AsksBelow (segmentsText dirs ++ "/" ++ "marathon/") := by
  obtain ⟨base, hjoin, hserved, -, hpath⟩ := join_of_fixed hbase fixed_root
  have hurl := Client.url_eq_of_join fixed_root.descends hjoin
  have hdirectory : Directory base (dirs ++ ["marathon"]) := by
    have hparts : (splitAt '/' Context.root.basePath.toList).map segmentText =
        ["marathon", ""] := by
      decide
    unfold Directory
    rwa [hparts, List.append_cons] at hserved
  refine ⟨⟨c.http.rebased base, .root⟩, ?_,
    Client.origin_of_url hbase.rooted fixed_root.descends hurl, ?_⟩
  · unfold root remote
    rw [hurl]
    rfl
  · have hbelow := Remote.asksBelow_of_directory ⟨c.http.rebased base, .root⟩ hdirectory
    change Remote.AsksBelow _ base.pathText at hbelow
    rwa [hpath] at hbelow

/-! ## The path of the settings -/

namespace Settings

/-- What the URL of the cluster has behind the last slash of its path. -/
def dropped (s : Settings) : String :=
  lastSegment (Text.trimEnd '/' (Text.trim s.clusterUrl) ++ "/")

theorem getLast?_append_eq_slash_iff {kept last : String}
    (hkept : kept.toList.getLast? = some '/') (hlast : '/' ∉ last.toList) :
    (kept ++ last).toList.getLast? = some '/' ↔ last = "" := by
  rw [String.toList_append, List.getLast?_append]
  constructor
  · intro hslash
    cases hend : last.toList.getLast? with
    | none => exact String.toList_injective (List.getLast?_eq_none_iff.mp hend)
    | some ch =>
        rw [hend] at hslash
        cases hslash
        exact absurd (List.mem_of_getLast? hend) hlast
  · rintro rfl
    exact hkept

theorem served_of_validate {s : Settings} (hvalid : s.validate = .ok ()) :
    ∃ base dirs, s.clusterBase = .ok base ∧ Served base (dirs ++ [s.dropped]) := by
  obtain ⟨base, hbase, hscheme⟩ := base_of_validate hvalid
  obtain ⟨dirs, hserved⟩ := served_of_parse (parse_of_clusterBase hbase) hscheme
  exact ⟨base, dirs, hbase, hserved⟩

/-- Without a query and a fragment nothing comes behind the last slash. -/
theorem dropped_eq_empty {s : Settings}
    (h : ∀ ch ∈ s.clusterUrl.toList, ch ≠ '?' ∧ ch ≠ '#') :
    s.dropped = "" := by
  refine lastSegment_of_unmarked fun ch hch => h ch ?_
  unfold Text.trimEnd Text.trim Text.trimBlank at hch
  simp only [String.toList_ofList] at hch
  exact (List.dropWhile_sublist _).subset <|
    (dropEndWhile_sublist _ _).subset ((dropEndWhile_sublist _ _).subset hch)

/-- The path of an accepted cluster has a part that ends with a slash, below which the orchestrator
of the cluster is asked, on the same server, and another part that is dropped. The path ends with a
slash exactly if nothing is dropped, as it is with every URL that has no query and no fragment. -/
theorem root_asked_behind_last_slash {s : Settings} (hvalid : s.validate = .ok ()) :
    ∃ base kept, s.clusterBase = .ok base ∧ base.pathText = kept ++ s.dropped ∧
      kept.toList.getLast? = some '/' ∧ '/' ∉ s.dropped.toList ∧
      (base.pathText.toList.getLast? = some '/' ↔ s.dropped = "") ∧
      ((∀ ch ∈ s.clusterUrl.toList, ch ≠ '?' ∧ ch ≠ '#') → s.dropped = "") ∧
      ∀ {σ : Type} (server : Server σ) (c : Cluster σ), Cluster.ofSettings server s = .ok c →
        ∃ root, c.root = .ok root ∧ root.http.base.origin = base.origin ∧
          root.AsksBelow (kept ++ "marathon/") := by
  obtain ⟨base, dirs, hbase, hserved⟩ := served_of_validate hvalid
  have hslash : '/' ∉ s.dropped.toList := slash_not_mem_lastSegment _
  have hpath : base.pathText = segmentsText dirs ++ "/" ++ s.dropped := by
    rw [hserved.pathText_eq, segmentsText_append, String.append_assoc]
    apply String.toList_injective
    simp [toList_segmentsText]
  have hclosed : (segmentsText dirs ++ "/").toList.getLast? = some '/' := by
    rw [String.toList_append]
    exact List.getLast?_concat ..
  refine ⟨base, segmentsText dirs ++ "/", hbase, hpath, hclosed, hslash,
    hpath ▸ getLast?_append_eq_slash_iff hclosed hslash, dropped_eq_empty,
      fun server c hc => ?_⟩
  obtain ⟨hbase', -⟩ := Cluster.rooted_of_ofSettings hc
  rw [hbase] at hbase'
  cases hbase'
  exact Cluster.root_asksBelow hserved

/-- Settings for a path on some server. -/
def below (path : String) : Settings := forCluster ("http://c" ++ path)

/-- The URL that such settings are read as. -/
def belowUrl (path : List String) (query : Option String) : Url :=
  ⟨"http", some ⟨"", none, .domain "c", none⟩, .segments path, query, none⟩

/-- Behind a question mark the slash is of no use: the last segment is dropped. -/
theorem root_asked_behind_last_slash_query :
    let s := below "/a/b?x"
    s.validate = .ok () ∧ s.dropped = "b" ∧
      ∃ c root, Cluster.ofSettings muteServer s = .ok c ∧
      c.http.base.pathText = "/a/b" ∧ c.root = .ok root ∧ root.AsksBelow "/a/marathon/" := by
  intro s
  have hvalid : s.validate = .ok () := Json.eq_ok_of_toOption (by decide +kernel)
  have hbase : s.clusterBase = .ok (belowUrl ["a", "b"] (some "x/")) :=
    Json.eq_ok_of_toOption (by decide +kernel)
  have hdropped : s.dropped = "b" := by decide +kernel
  obtain ⟨base, kept, hbase', hpath, -, -, -, -, hroot⟩ := root_asked_behind_last_slash hvalid
  rw [hbase] at hbase'
  cases hbase'
  have hkept : kept = "/a/" := by
    rw [hdropped] at hpath
    have htext := congrArg String.toList hpath
    rw [String.toList_append] at htext
    exact String.toList_injective (List.append_cancel_right htext).symm
  have hc := Cluster.ofSettings_eq hvalid hbase rfl muteServer
  obtain ⟨root, hroot, -, hbelow⟩ := hroot muteServer _ hc
  have hbelow : root.AsksBelow ("/a/" ++ "marathon/") := hkept ▸ hbelow
  exact ⟨hvalid, hdropped, _, root, hc, by decide +kernel, hroot, hbelow⟩

/-- Of a URL with a query neither does the path end with a slash, nor is all of it kept. -/
theorem query_hides_slash :
    let s := below "/api?x=1"
    s.validate = .ok () ∧ ∃ c root q, Cluster.ofSettings muteServer s = .ok c ∧
      c.root = .ok root ∧ c.http.base.pathText = "/api" ∧
      (root.listApps .exact 0 ⟨(), []⟩).state.sent = [⟨0, q⟩] ∧
      q.url.pathText = "/marathon/v2/apps" ∧
      q.url.pathText ≠ c.http.base.pathText ++ "marathon/" ++ "v2/apps" := by
  intro s
  have hvalid : s.validate = .ok () := Json.eq_ok_of_toOption (by decide +kernel)
  have hbase : s.clusterBase = .ok (belowUrl ["api"] (some "x=1/")) :=
    Json.eq_ok_of_toOption (by decide +kernel)
  have hc := Cluster.ofSettings_eq hvalid hbase rfl muteServer
  have hurl : (Cluster.configured muteServer (belowUrl ["api"] (some "x=1/")) s).http.url
      Context.root.basePath = .ok (belowUrl ["marathon", ""] none) :=
    Json.eq_ok_of_toOption (by decide +kernel)
  refine ⟨hvalid, _, ⟨⟨muteServer, belowUrl ["marathon", ""] none, none, s.requestTimeout⟩,
    .root⟩,
    ⟨.get, belowUrl ["marathon", "v2", "apps"] none, none, none⟩, hc,
    Cluster.remote_of_url hurl, by decide +kernel, by decide +kernel, by decide +kernel,
    by decide +kernel⟩

end Settings

end Rollout
