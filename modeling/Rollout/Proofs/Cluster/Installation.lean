import Rollout.Proofs.Cluster.Prefix
import Rollout.Proofs.Cluster.Verdicts
import Rollout.Proofs.Http.Instants
import Rollout.Proofs.Wire.RoundTrip
/-!
# The installation of the nested orchestrator

The frameworks are asked for once. The package is installed if none of them is an active one of the
name, and then once, before the endpoint is probed for the first time. What goes wrong on the way is
the last thing that happens.
-/

namespace Rollout

open Http Url Time Wire

variable {σ : Type}

/-! ## Requests that can be made as well -/

theorem Http.isSendable_of_pathText_le {u v : Url} (hscheme : u.scheme = v.scheme)
    (hauthority : u.authority = v.authority) (hquery : u.query = v.query)
    (hfragment : u.fragment = v.fragment)
    (hpath : u.pathText.utf8ByteSize ≤ v.pathText.utf8ByteSize) (h : isSendable v = true) :
    isSendable u = true := by
  have htext : u.text.utf8ByteSize ≤ v.text.utf8ByteSize := by
    unfold Url.text Url.target Url.queryText
    rw [hscheme, hauthority, hquery, hfragment]
    simp only [String.utf8ByteSize_append]
    omega
  unfold isSendable at h ⊢
  rw [hscheme, hauthority]
  simp only [Bool.and_eq_true, decide_eq_true_eq] at h ⊢
  exact ⟨⟨h.1.1, Nat.lt_of_le_of_lt htext h.1.2⟩, h.2⟩

theorem Url.below_of_fixed {base : Url} {dirs : List String} {last : String}
    (hbase : Served base (dirs ++ [last])) {path : String} (h : Fixed path) :
    ∃ u, base.join path = .ok u ∧ base.Below u ∧ u.query = none ∧ u.fragment = none ∧
      u.pathText = segmentsText dirs ++ "/" ++ path := by
  obtain ⟨u, hjoin, -, hquery, hpath⟩ := join_of_fixed hbase h
  have hassembled := join_eq_of_descends hbase.ne_file hbase.path h.descends
  obtain rfl := Except.ok.inj (hjoin.symm.trans hassembled)
  refine ⟨_, hjoin, ⟨rfl, rfl, _, rfl⟩, hquery, ?_, hpath⟩
  have htrimmed : trimmed path = path.toList := by
    unfold trimmed
    simp only
    rw [h.descends.dropWhile_eq fun c hc => by simpa using lt_toNat_of_isPlain hc]
    exact dropEndWhile_isOuter_eq_self_iff.mpr h.literal.ended
  change (Parts.of (trimmed path)).fragmentText = none
  rw [htrimmed, parts_of_unmarked fun c hc =>
    ⟨(h.literal.unmarked c hc).1, (h.literal.unmarked c hc).2.1⟩]
  rfl

namespace Http.Client

theorem request_url_congr (c : Client σ) {u v : Url} (hscheme : u.scheme = v.scheme)
    (hauthority : u.authority = v.authority) (hfragment : u.fragment = v.fragment)
    (method method' : Method) (body body' : Option String) :
    let w := (c.request method u body).url
    let w' := (c.request method' v body').url
    w.scheme = w'.scheme ∧ w.authority = w'.authority ∧ w.fragment = w'.fragment := by
  have hcredentials : credentials? u = credentials? v := by
    unfold credentials?
    rw [hauthority]
  unfold request
  rw [hcredentials]
  cases credentials? v with
  | none => exact ⟨hscheme, hauthority, hfragment⟩
  | some _ =>
      refine ⟨hscheme, ?_, hfragment⟩
      unfold Url.withoutCredentials
      rw [hauthority]

/-- Where one fixed path can be asked for, a shorter one can be, too, by any method. -/
theorem makes_of_sends {c : Client σ} {dirs : List String} {last : String}
    (hbase : Served c.base (dirs ++ [last])) {path longer : String} (hpath : Fixed path)
    (hlonger : Fixed longer) (hlength : path.utf8ByteSize ≤ longer.utf8ByteSize) {q : Request}
    (h : c.Sends longer q) (method : Method) (body : Option String) :
    ∃ q', c.Makes method id body path q' := by
  obtain ⟨⟨v, hv, rfl⟩, hsendable, hlimit⟩ := h
  obtain ⟨v', hjoin', hbelow', hquery', hfragment', hpath'⟩ := below_of_fixed hbase hlonger
  obtain rfl : v = v' := Except.ok.inj (hv.symm.trans (url_eq_of_join hlonger.descends hjoin'))
  obtain ⟨u, hjoin, hbelow, hquery, hfragment, hpathText⟩ := below_of_fixed hbase hpath
  refine ⟨_, ⟨u, url_eq_of_join hpath.descends hjoin, rfl⟩, ?_, hlimit⟩
  have hfragments : u.fragment = v.fragment := hfragment.trans hfragment'.symm
  obtain ⟨hscheme, hauthority, hrest⟩ :=
    c.request_url_congr (hbelow.scheme.trans hbelow'.scheme.symm)
      (hbelow.authority.trans hbelow'.authority.symm) hfragments method .get body none
  obtain ⟨htarget, hasked⟩ := c.request_target method u body
  obtain ⟨htarget', hasked'⟩ := c.request_target .get v none
  refine isSendable_of_pathText_le hscheme hauthority ?_ hrest ?_ hsendable
  · rw [id, hasked, hasked', hquery, hquery']
  · rw [id, htarget, htarget', hpathText, hpath']
    simp only [String.utf8ByteSize_append]
    omega

end Http.Client

theorem Url.fixed_frameworks : Fixed "mesos/master/frameworks" :=
  ⟨by decide, by decide, by decide⟩

theorem Url.fixed_install : Fixed "package/install" := ⟨by decide, by decide, by decide⟩

theorem Cluster.decode_nestedPackage (name : String) :
    Json.decode (Json.encode (nestedPackage name)) = .ok (nestedPackage name) := by
  refine Wire.decode_encode ((PackageRequest.fits_iff _).mpr ?_) ?_
  · refine .object (List.pairwise_singleton _ _) fun m hm => ?_
    rw [List.mem_singleton.mp hm]
    refine .object (List.pairwise_singleton _ _) fun m hm => ?_
    rw [List.mem_singleton.mp hm]
    exact .string _
  · have hnone : doubles (nestedPackage name) = [] := rfl
    rw [hnone]
    exact fun x hx => absurd hx List.not_mem_nil

namespace Cluster

/-! ## What precedes the wait -/

/-- An active framework of a name is among some. -/
def Registered (name : String) (frameworks : List Framework) : Prop :=
  ∃ f ∈ frameworks, f.name = name ∧ f.active = true

theorem isActive_iff {name : String} {frameworks : List Framework} :
    isActive name frameworks = true ↔ Registered name frameworks := by
  unfold isActive Registered
  simp only [List.any_eq_true, Bool.and_eq_true, beq_iff_eq]

section

variable (c : Cluster σ) (limit : Nat)

/-- The package of the nested orchestrator is to be installed. -/
def AsksInstall (x : Exchange) : Prop :=
  c.http.Posts "package/install" (nestedPackage c.nestedServiceName) x.request

/-- The nested orchestrator is registered, or its installation is accepted. -/
inductive Provides : List Exchange → List Exchange → Prop where
  | registered {x : Exchange} {frameworks : List Framework}
      (listed : c.ListsFrameworks limit x frameworks)
      (active : Registered c.nestedServiceName frameworks) : Provides [x] []
  | installed {x y : Exchange} {frameworks : List Framework} {installed : PackageInstalled}
      (listed : c.ListsFrameworks limit x frameworks)
      (inactive : ¬ Registered c.nestedServiceName frameworks) (asked : c.AsksInstall y)
      (accepted : y.reply.Carries limit installed) : Provides [x] [y]

/-- Why the nested orchestrator is neither registered nor installed. -/
inductive Withholds : List Exchange → List Exchange → Fault → Prop where
  | unasked {fault : Fault} (h : c.http.Hindered "mesos/master/frameworks" fault) :
      Withholds [] [] fault
  | unlisted {x : Exchange} {fault : Fault}
      (asked : c.http.Sends "mesos/master/frameworks" x.request)
      (h : x.reply.Fails FrameworkListing x.request.url.text limit fault) : Withholds [x] [] fault
  | uninstalled {x y : Exchange} {frameworks : List Framework} {fault : Fault}
      (listed : c.ListsFrameworks limit x frameworks)
      (inactive : ¬ Registered c.nestedServiceName frameworks) (asked : c.AsksInstall y)
      (h : y.reply.Fails PackageInstalled y.request.url.text limit fault) : Withholds [x] [y] fault

/-- What is asked for before the wait: the frameworks once, if that is possible, and the package at
most once, just if no active framework of the name is listed. -/
structure Prepares (first installs : List Exchange) : Prop where
  frameworks : (∃ x, first = [x] ∧ c.http.Sends "mesos/master/frameworks" x.request) ∨
    first = [] ∧ ∃ fault, c.http.Hindered "mesos/master/frameworks" fault
  package : installs.length ≤ 1 ∧ ∀ x ∈ installs, c.AsksInstall x
  needed : installs ≠ [] ↔
    ∃ x frameworks, first = [x] ∧ c.ListsFrameworks limit x frameworks ∧
    ¬ Registered c.nestedServiceName frameworks

variable {c limit} {first installs : List Exchange} {x : Exchange}

theorem ListsFrameworks.unique {frameworks others : List Framework}
    (h : c.ListsFrameworks limit x frameworks) (h' : c.ListsFrameworks limit x others) :
    frameworks = others := by
  obtain ⟨-, listing, hcarries, rfl⟩ := h
  obtain ⟨-, listing', hcarries', rfl⟩ := h'
  rw [hcarries.unique hcarries']

theorem ListsFrameworks.not_fails {frameworks : List Framework}
    (h : c.ListsFrameworks limit x frameworks) {url : String} {fault : Fault} :
    ¬ x.reply.Fails FrameworkListing url limit fault := by
  obtain ⟨-, listing, hcarries, -⟩ := h
  exact hcarries.not_fails

theorem Provides.prepares (h : c.Provides limit first installs) :
    c.Prepares limit first installs := by
  cases h with
  | @registered x frameworks listed active =>
      refine ⟨.inl ⟨x, rfl, listed.1⟩,
        ⟨Nat.zero_le 1, fun _ hy => absurd hy List.not_mem_nil⟩,
        fun hne => absurd rfl hne, ?_⟩
      rintro ⟨x', frameworks', hx, listed', inactive⟩
      cases hx
      rw [listed.unique listed'] at active
      exact absurd active inactive
  | @installed x y frameworks _ listed inactive asked _ =>
      refine ⟨.inl ⟨x, rfl, listed.1⟩,
        ⟨Nat.le_refl 1, List.forall_mem_singleton.mpr asked⟩, ?_⟩
      exact ⟨fun _ => ⟨x, frameworks, rfl, listed, inactive⟩,
        fun _ => List.cons_ne_nil y []⟩

theorem Withholds.prepares {fault : Fault} (h : c.Withholds limit first installs fault) :
    c.Prepares limit first installs := by
  cases h with
  | unasked h =>
      refine ⟨.inr ⟨rfl, fault, h⟩,
        ⟨Nat.zero_le 1, fun _ hy => absurd hy List.not_mem_nil⟩,
        fun hne => absurd rfl hne, ?_⟩
      rintro ⟨_, _, hx, -⟩
      cases hx
  | @unlisted x _ asked h =>
      refine ⟨.inl ⟨x, rfl, asked⟩,
        ⟨Nat.zero_le 1, fun _ hy => absurd hy List.not_mem_nil⟩,
        fun hne => absurd rfl hne, ?_⟩
      rintro ⟨_, _, hx, listed, -⟩
      cases hx
      exact absurd h listed.not_fails
  | @uninstalled x y frameworks _ listed inactive asked _ =>
      refine ⟨.inl ⟨x, rfl, listed.1⟩,
        ⟨Nat.le_refl 1, List.forall_mem_singleton.mpr asked⟩, ?_⟩
      exact ⟨fun _ => ⟨x, frameworks, rfl, listed, inactive⟩,
        fun _ => List.cons_ne_nil y []⟩

theorem Provides.not_withholds (h : c.Provides limit first installs) {fault : Fault} :
    ¬ c.Withholds limit first installs fault := by
  intro hwithholds
  cases h with
  | registered listed _ =>
      cases hwithholds with
      | unlisted _ h => exact listed.not_fails h
  | installed _ _ _ accepted =>
      cases hwithholds with
      | uninstalled _ _ _ h => exact accepted.not_fails h

theorem Withholds.unique {fault other : Fault} (h : c.Withholds limit first installs fault)
    (h' : c.Withholds limit first installs other) : fault = other := by
  cases h with
  | unasked h => cases h' with | unasked h' => exact h.unique h'
  | unlisted _ h => cases h' with | unlisted _ h' => exact h.unique h'
  | uninstalled _ _ _ h => cases h' with | uninstalled _ _ _ h' => exact h.unique h'

theorem Withholds.ne_timeout {fault : Fault} (h : c.Withholds limit first installs fault)
    (text : String) : fault ≠ .timeout text := by
  cases h with
  | unasked h => exact h.unsent.ne_timeout text
  | unlisted _ h => exact h.ne_timeout text
  | uninstalled _ _ _ h => exact h.ne_timeout text

end

section

variable (c : Cluster σ) (clock : Clock)

/-- How the frameworks are read for whether one of a name is active. -/
def availableReading (limit : Nat) (name : String) : Reading Bool :=
  (Reading.through (fun x (o : Outcome Fault FrameworkListing) =>
    c.http.Sends "mesos/master/frameworks" x.request ∧
      x.reply.Read x.request.url.text limit o) fun listing => .ok listing.frameworks).through
    fun frameworks => .ok (isActive name frameworks)

theorem replies_serviceAvailable (name : String) : Replies c.http.server clock
    (c.availableReading (clock.lasting c.http.limit.nanos) name)
    (c.http.Hindered "mesos/master/frameworks") (c.serviceAvailable name) :=
  ((c.http.replies_get clock _).through _).through _

variable {c} {limit : Nat} {name : String} {x : Exchange}

theorem availableReading_done_iff {active : Bool} :
    c.availableReading limit name x (.done active) ↔
      ∃ frameworks, c.ListsFrameworks limit x frameworks ∧
        isActive name frameworks = active := by
  rw [availableReading, Reading.through_done_iff]
  simp only [Reading.through_done_iff, Except.ok.injEq, Reply.read_done_iff]
  constructor
  · rintro ⟨frameworks, ⟨listing, ⟨hsent, hcarries⟩, hframeworks⟩, hactive⟩
    exact ⟨frameworks, ⟨hsent, listing, hcarries, hframeworks⟩, hactive⟩
  · rintro ⟨frameworks, ⟨hsent, listing, hcarries, hframeworks⟩, hactive⟩
    exact ⟨frameworks, ⟨listing, ⟨hsent, hcarries⟩, hframeworks⟩, hactive⟩

theorem availableReading_failed {fault : Fault}
    (h : c.availableReading limit name x (.failed fault)) :
    c.http.Sends "mesos/master/frameworks" x.request ∧
      x.reply.Fails FrameworkListing x.request.url.text limit fault := by
  rw [availableReading, Reading.through_failed_iff, Reading.through_failed_iff] at h
  simp only [reduceCtorEq, and_false, exists_false, or_false] at h
  obtain ⟨hsent, hread⟩ := h
  cases hread with
  | failed h => exact ⟨hsent, h⟩

theorem availableReading_returns {o : Outcome Fault Bool}
    (h : c.availableReading limit name x o) : o.returns = true := by
  apply Reading.returns_of_through _ h
  apply Reading.returns_of_through
  rintro o' ⟨-, hread⟩
  cases hread <;> rfl

end

theorem installPackage_answered (c : Cluster σ) {clock : Clock}
    (hclock : ∀ n, clock.lasting n ≤ n) {q : Request}
    (hposts : c.http.Posts "package/install" (nestedPackage c.nestedServiceName) q) (now : Nat)
    (net : Net σ) :
    let limit := clock.lasting c.http.limit.nanos
    let step := (c.installPackage (nestedPackage c.nestedServiceName) >>= fun _ => pure ())
      clock now net
    ∃ y, Exchanges c.http.server net [y] step.state ∧ c.AsksInstall y ∧
      (step.outcome = .done () ∧
      (∃ installed : PackageInstalled, y.reply.Carries limit installed) ∨
        ∃ fault, step.outcome = .failed fault ∧
          y.reply.Fails PackageInstalled y.request.url.text limit fault) := by
  intro limit step
  have hposted := (c.http.calls_post hclock (α := PackageInstalled) "package/install"
    (nestedPackage c.nestedServiceName)).replies.through (fun _ => .ok ()) now net
  change Replied _ _ _ now net step at hposted
  clear_value step
  cases hposted with
  | unsent silent _ =>
      have hlate : Reply.Read q.url.text limit ⟨limit, .silence⟩
          (.failed (.transfer (.unanswered q.url.text)) : Outcome Fault PackageInstalled) :=
        .failed (.late (Nat.le_refl limit))
      exact absurd ⟨_, ⟨hposts, hlate⟩, rfl⟩ (silent ⟨0, q, ⟨limit, .silence⟩⟩ _)
  | @answered q' _ _ read =>
      obtain ⟨o, ⟨hasks, hread⟩, rfl⟩ := read
      refine ⟨_, .single c.http.server net now q', hasks, ?_⟩
      cases hread with
      | @done installed h => exact .inl ⟨rfl, installed, h⟩
      | @failed fault h => exact .inr ⟨fault, rfl, h⟩

theorem provideNested_prepares (c : Cluster σ) {clock : Clock}
    (hclock : ∀ n, clock.lasting n ≤ n) {dirs : List String} {last : String}
    (hbase : Served c.http.base (dirs ++ [last])) (now : Nat) (net : Net σ) :
    let limit := clock.lasting c.http.limit.nanos
    let step := c.provideNested clock now net
    ∃ first installs, Exchanges c.http.server net (first ++ installs) step.state ∧
      (step.outcome = .done () ∧ c.Provides limit first installs ∨
        ∃ fault, step.outcome = .failed fault ∧ c.Withholds limit first installs fault) := by
  intro limit step
  have hasked := c.replies_serviceAvailable clock c.nestedServiceName now net
  have hstep : step = _ := Run.bind_apply (c.serviceAvailable c.nestedServiceName) _ clock now net
  rw [hstep]
  rcases havailable : c.serviceAvailable c.nestedServiceName clock now net
    with ⟨outcome, mid, n⟩
  rw [havailable] at hasked
  cases hasked with
  | unsent _ h => exact ⟨[], [], .start, .inr ⟨_, rfl, .unasked h⟩⟩
  | @answered q _ _ read =>
      have hfirst := Exchanges.single c.http.server net now q
      cases outcome with
      | failed fault =>
          obtain ⟨hsent, hfails⟩ := availableReading_failed read
          exact ⟨[_], [], hfirst, .inr ⟨fault, rfl, .unlisted hsent hfails⟩⟩
      | panicked text => cases availableReading_returns read
      | done active =>
          obtain ⟨frameworks, hlisted, hactive⟩ := availableReading_done_iff.mp read
          cases active with
          | true =>
              exact ⟨[_], [], hfirst,
                .inl ⟨rfl, .registered hlisted (isActive_iff.mp hactive)⟩⟩
          | false =>
              have hinactive : ¬ Registered c.nestedServiceName frameworks := by
                rw [← isActive_iff, hactive]
                exact Bool.false_ne_true
              -- Where the frameworks can be asked for, the package can be asked for, too.
              obtain ⟨q', hposts⟩ := Client.makes_of_sends hbase fixed_install fixed_frameworks
                (by decide) hlisted.1 .post (some (Json.encode (nestedPackage c.nestedServiceName)))
              obtain ⟨y, hy, hasks, hend⟩ := c.installPackage_answered hclock hposts (now + n)
                ⟨(c.http.server now q net.server).2, net.sent ++ [⟨now, q⟩]⟩
              refine ⟨[_], [y], hfirst.append hy, ?_⟩
              rcases hend with ⟨hdone, installed, haccepted⟩ | ⟨fault, hfailed, hfails⟩
              · exact .inl ⟨hdone, .installed hlisted hinactive hasks haccepted⟩
              · exact .inr ⟨fault, hfailed, .uninstalled hlisted hinactive hasks hfails⟩

theorem punctual_provideNested (c : Cluster σ) (clock : Clock) :
    Punctual c.http.server clock (clock.lasting c.http.limit.nanos) c.provideNested := by
  refine .bind (.bind (.bind (c.http.punctual_get clock _) fun _ => .pure _) fun _ => .pure _) ?_
  intro available
  cases available with
  | true => exact .pure _
  | false => exact .bind (c.http.punctual_readValue clock .post id _ _) fun _ => .pure _

/-! ## The wait -/

section

variable (c : Cluster σ) (limit : Nat)

/-- The fault of an endpoint that does not come up. -/
def late : Fault :=
  .timeout (c.nestedServiceName ++ " endpoint did not come up within "
    ++ c.serviceEndpointTimeout.text)

/-- How the nested orchestrator comes to be there or not, by what is exchanged for the frameworks,
the installation and the endpoint. -/
structure Ensures (first installs probes : List Exchange) (o : Outcome Fault Unit) : Prop where
  prepares : c.Prepares limit first installs
  asks : ∀ x ∈ probes, c.http.Sends ("service/" ++ c.nestedServiceName ++ "/") x.request
  earlier : ∀ x ∈ probes.dropLast, c.Down limit c.nestedServiceName x
  done_iff : o = .done () ↔ c.Provides limit first installs ∧
    Turns (c.Down limit c.nestedServiceName) (c.Up limit c.nestedServiceName) probes
  late_iff : o = .failed c.late ↔ c.Provides limit first installs ∧ probes ≠ [] ∧
    ∀ x ∈ probes, c.Down limit c.nestedServiceName x
  failed_iff : ∀ fault, fault ≠ c.late → (o = .failed fault ↔
    c.Withholds limit first installs fault ∧ probes = [] ∨
      c.Provides limit first installs ∧
        (Turns (c.Down limit c.nestedServiceName) (c.Unclear limit c.nestedServiceName · fault)
            probes ∨
          probes = [] ∧ c.http.Hindered ("service/" ++ c.nestedServiceName ++ "/") fault))
  returns : o.returns = true

variable {c limit} {first installs probes : List Exchange}

theorem Unclear.ne_timeout {name : String} {x : Exchange} {fault : Fault}
    (h : c.Unclear limit name x fault) (text : String) : fault ≠ .timeout text := by
  cases h with
  | lost _ h => exact (h.fails ErrorBody).ne_timeout text
  | status => exact nofun

theorem Withholds.ensures {fault : Fault} (h : c.Withholds limit first installs fault) :
    c.Ensures limit first installs [] (.failed fault) where
  prepares := h.prepares
  asks _ hx := absurd hx List.not_mem_nil
  earlier _ hx := absurd hx List.not_mem_nil
  done_iff := ⟨nofun, fun hprovides => absurd h hprovides.1.not_withholds⟩
  late_iff := by
    constructor
    · exact fun heq => absurd (Outcome.failed.inj heq) (h.ne_timeout _)
    · exact fun hprovides => absurd h hprovides.1.not_withholds
  failed_iff other _ := by
    constructor
    · intro heq
      cases heq
      exact .inl ⟨h, rfl⟩
    · rintro (⟨h', -⟩ | ⟨hprovides, -⟩)
      · rw [h.unique h']
      · exact absurd h hprovides.not_withholds
  returns := rfl

theorem Provides.ensures (h : c.Provides limit first installs) {o : Outcome Fault Unit}
    (hasks : ∀ x ∈ probes, c.http.Sends ("service/" ++ c.nestedServiceName ++ "/") x.request)
    (hdecided : Decided (c.Down limit c.nestedServiceName) (c.Up limit c.nestedServiceName)
      (c.Unclear limit c.nestedServiceName)
      (c.http.Hindered ("service/" ++ c.nestedServiceName ++ "/")) (.done ()) (.failed c.late)
      probes o) : c.Ensures limit first installs probes o where
  prepares := h.prepares
  asks := hasks
  earlier := hdecided.earlier
  done_iff := hdecided.met_iff.trans (and_iff_right h).symm
  late_iff := hdecided.unmet_iff.trans (and_iff_right h).symm
  failed_iff fault hfault := by
    rw [hdecided.failed_iff fault fun heq => hfault (Outcome.failed.inj heq).symm]
    constructor
    · exact fun hend => .inr ⟨h, hend⟩
    · rintro (⟨hwithholds, -⟩ | ⟨-, hend⟩)
      · exact absurd hwithholds h.not_withholds
      · exact hend
  returns := hdecided.returns

end

theorem requireNested_eq (c : Cluster σ) : c.requireNested = fun up =>
    .ofExcept (if up then .ok () else .error c.late) := by
  funext up
  cases up <;> rfl

theorem ensureNested_ensures (c : Cluster σ) {clock : Clock}
    (hclock : ∀ n, clock.lasting n ≤ n)
    (hinterval : 0 < c.pollInterval.nanos) {dirs : List String} {last : String}
    (hbase : Served c.http.base (dirs ++ [last])) {now : Nat} {net : Net σ}
    (hdeadline : now + (c.provideNested clock now net).elapsed + c.serviceEndpointTimeout.nanos <
      instantLimit) :
    let limit := clock.lasting c.http.limit.nanos
    let step := c.ensureNested clock now net
    ∃ first installs probes, Exchanges c.http.server net
      (first ++ installs ++ probes) step.state ∧
      (∀ x ∈ probes, x.time ≤
        ended clock limit now (first ++ installs) + c.serviceEndpointTimeout.nanos) ∧
      c.Ensures limit first installs probes step.outcome := by
  rw [ensureNested_eq, requireNested_eq, Run.bind_apply]
  intro limit
  obtain ⟨first, installs, hfirst, hprovision⟩ := c.provideNested_prepares hclock hbase now net
  obtain ⟨xs, hxs, hover⟩ := c.punctual_provideNested clock now net
  obtain ⟨rfl, -⟩ := hxs.unique hfirst rfl
  rcases hprovided : c.provideNested clock now net with ⟨outcome, mid, n⟩
  rw [hprovided] at hfirst hprovision hover hdeadline
  rcases hprovision with ⟨houtcome, hprovides⟩ | ⟨fault, houtcome, hwithholds⟩
  · cases houtcome
    simp only [Run.bind_ofExcept_apply] at hdeadline ⊢
    have hstart : now + n = ended clock limit now (first ++ installs) := hover trivial
    obtain ⟨probes, hprobes, hasks, htimes, hdecided⟩ :=
      c.waitForEndpoint_decided clock hinterval hdeadline mid c.nestedServiceName
    have hwait := hdecided.through (fun up => if up then .ok () else .error c.late) rfl rfl
      (fun x hfails => hfails.ne_timeout _ rfl) fun hhindered => hhindered.unsent.ne_timeout _ rfl
    refine ⟨first, installs, probes, hfirst.append hprobes, ?_, hprovides.ensures hasks hwait⟩
    rw [← hstart]
    exact htimes hclock
  · cases houtcome
    refine ⟨first, installs, [], ?_, fun x hx => absurd hx List.not_mem_nil, hwithholds.ensures⟩
    rwa [List.append_nil]

/-- The nested orchestrator is installed at most once, and only if it is not registered. Its
endpoint is probed for so long after the last answer before that. -/
theorem nested_installed_once {s : Settings} {server : Server σ} {c : Cluster σ}
    (h : ofSettings server s = .ok c) {clock : Clock} (hclock : ∀ n, clock.lasting n ≤ n)
    {now : Nat} {net : Net σ}
    (hdeadline : now + (c.provideNested clock now net).elapsed + s.serviceEndpointTimeout.nanos <
      instantLimit) :
    let limit := clock.lasting s.requestTimeout.nanos
    let step := c.ensureNested clock now net
    ∃ first installs probes, Exchanges server net (first ++ installs ++ probes) step.state ∧
      (∀ x ∈ installs, ∃ body, x.request.body = some body ∧ Json.decode body = .ok
        (⟨"marathon", none,
          .object [("service", .object [("name", .string s.nestedServiceName)])]⟩ :
          PackageRequest)) ∧
      (∀ x ∈ probes, x.time ≤
        ended clock limit now (first ++ installs) + s.serviceEndpointTimeout.nanos) ∧
      c.Ensures limit first installs probes step.outcome := by
  obtain ⟨hvalid, base, hbase, rfl⟩ := of_ofSettings h
  obtain ⟨base', dirs, hbase', hserved⟩ := Settings.served_of_validate hvalid
  obtain rfl : base = base' := Except.ok.inj (hbase.symm.trans hbase')
  obtain ⟨first, installs, probes, hxs, htimes, hensures⟩ :=
    (configured server base s).ensureNested_ensures hclock (Settings.pos_of_validate hvalid).1
      hserved hdeadline
  refine ⟨first, installs, probes, hxs, fun x hx => ?_, htimes, hensures⟩
  obtain ⟨⟨u, -, hq⟩, -, -⟩ := hensures.prepares.package.2 x hx
  refine ⟨_, ?_, decode_nestedPackage s.nestedServiceName⟩
  rw [hq]
  unfold Client.request
  split <;> rfl

/-- A server on which a framework of the name has been active once. A new one is installed and comes
up at the second probe. -/
def dormantServer : Server Nat := fun _ _ n =>
  let reply (status : Status) (text : String) : Reply × Nat :=
    (⟨1, .response status (Text.toBytes text) .complete⟩, n + 1)
  match n with
  | 0 => reply 200
    "\x7b\"frameworks\":[\x7b\"id\":\"f\",\"name\":\"marathon-user\",\"active\":false\x7d]\x7d"
  | 1 => reply 200 "\x7b\"packageName\":\"marathon\",\"packageVersion\":\"1\"\x7d"
  | 2 => reply 503 ""
  | _ => reply 200 ""

def dormantCluster : Cluster Nat :=
  configured dormantServer (endlessUrl [""]) (.forCluster "http://c")

theorem ofSettings_dormant :
    ofSettings dormantServer (.forCluster "http://c") = .ok dormantCluster :=
  ofSettings_eq (Json.eq_ok_of_toOption (by decide +kernel))
    (Json.eq_ok_of_toOption (by decide +kernel)) rfl dormantServer

/-- A framework that is not active any more is no reason not to install the package. -/
theorem nested_installed_once_dormant :
    let s := Settings.forCluster "http://c"
    let limit := Clock.exact.lasting s.requestTimeout.nanos
    let net : Net Nat := ⟨0, []⟩
    let step := dormantCluster.ensureNested .exact 0 net
    (∀ n, Clock.exact.lasting n ≤ n) ∧
      0 + (dormantCluster.provideNested .exact 0 net).elapsed + s.serviceEndpointTimeout.nanos <
        instantLimit ∧
      step.outcome = .done () ∧
      ∃ first installs probes,
        Exchanges dormantServer net (first ++ installs ++ probes) step.state ∧
        dormantCluster.Provides limit first installs ∧
        Turns (dormantCluster.Down limit "marathon-user") (dormantCluster.Up limit "marathon-user")
          probes := by
  intro s limit net step
  have hclock (n : Nat) : Clock.exact.lasting n ≤ n := Nat.le_refl n
  have hdeadline : 0 + (dormantCluster.provideNested .exact 0 net).elapsed +
      s.serviceEndpointTimeout.nanos < instantLimit := by decide +kernel
  have hdone : step.outcome = .done () := by decide +kernel
  obtain ⟨first, installs, probes, hxs, -, -, hensures⟩ :=
    nested_installed_once ofSettings_dormant hclock hdeadline
  obtain ⟨hprovides, hup⟩ := hensures.done_iff.mp hdone
  exact ⟨hclock, hdeadline, hdone, first, installs, probes, hxs, hprovides, hup⟩

end Cluster

end Rollout
