import Rollout.FrameworkApp
import Rollout.Proofs.Cluster.Origin
import Rollout.Proofs.Orchestrator.Calls
import Rollout.Proofs.Text.Utf8
import Rollout.Proofs.Wire.ErrorBodies
/-!
# What submissions come to

A submission sends one request, and the status and the text of the answer tell what it comes to. A
success is worth what its text decodes to, a missing app and the other client errors are causes of
their own, and everything else is a status that was not expected; all of these report the message of
the text.
-/

namespace Rollout

open Http Time Wire

variable {σ : Type} {α : Type}

/-! ## Rejections -/

/-- The message of a text that reports an error, or else the text. -/
def reported (text : String) : String :=
  match (Json.decode text : Except Json.Fault ErrorBody) with
  | .ok e => e.message
  | .error _ => text

theorem reported_of_decode {text : String} {e : ErrorBody} (h : Json.decode text = .ok e) :
    reported text = e.message := by
  rw [reported, h]

theorem reported_of_not_decode {text : String} (h : ∀ e : ErrorBody, Json.decode text ≠ .ok e) :
    reported text = text := by
  unfold reported
  cases hdecode : (Json.decode text : Except Json.Fault ErrorBody) with
  | ok e => exact absurd hdecode (h e)
  | error fault => rfl

theorem reported_encode (e : ErrorBody) (h : ∀ v ∈ e.details, Tellable v) :
    reported (Json.encode e) = e.message := by
  obtain ⟨e', hdecode, hmessage⟩ := e.message_decode_encode h
  rw [reported_of_decode hdecode, hmessage]

/-- What a submission fails with if its answer is not a success. -/
def rejection (status : Status) (text : String) : Fault := (statusFault status text).ofSubmission

/-- A client error, of which a missing app is one too. -/
def isClientError (status : Status) : Bool := 400 ≤ status.toNat && status.toNat < 500

theorem isSuccess_of_isClientError {status : Status} (h : isClientError status = true) :
    isSuccess status = false := by
  unfold isClientError at h
  unfold isSuccess
  simp only [Bool.and_eq_true, decide_eq_true_eq] at h
  simp only [Bool.and_eq_false_iff, decide_eq_false_iff_not]
  omega

theorem statusFault_eq (status : Status) (text : String) : statusFault status text =
    if status = 404 then .notFound (reported text)
    else .unexpectedStatus status (reported text) := rfl

theorem ofSubmission_unexpectedStatus (status : Status) (text : String) :
    (Fault.unexpectedStatus status text).ofSubmission =
      if isClientError status = true then .submission status text
      else .unexpectedStatus status text := by
  simp [Fault.ofSubmission, isClientError]

theorem rejection_eq (status : Status) (text : String) : rejection status text =
    if status = 404 then .notFound (reported text)
    else if isClientError status = true then .submission status (reported text)
    else .unexpectedStatus status (reported text) := by
  unfold rejection
  rw [statusFault_eq]
  by_cases hmissing : status = 404
  · rw [if_pos hmissing, if_pos hmissing]
    rfl
  · rw [if_neg hmissing, if_neg hmissing, ofSubmission_unexpectedStatus]

section

variable {status : Status} {text : String}

theorem rejection_eq_notFound_iff {m : String} :
    rejection status text = .notFound m ↔ status = 404 ∧ m = reported text := by
  rw [rejection_eq]
  split_ifs with hmissing <;> simp [hmissing, eq_comm]

theorem rejection_eq_submission_iff {s : Status} {m : String} :
    rejection status text = .submission s m ↔
      s = status ∧ isClientError status = true ∧ status ≠ 404 ∧ m = reported text := by
  rw [rejection_eq]
  by_cases hmissing : status = 404
  · simp [hmissing]
  · by_cases hclient : isClientError status = true <;> simp [hmissing, hclient, eq_comm]

theorem rejection_eq_unexpectedStatus_iff {s : Status} {m : String} :
    rejection status text = .unexpectedStatus s m ↔
      s = status ∧ isClientError status = false ∧ m = reported text := by
  rw [rejection_eq]
  by_cases hmissing : status = 404
  · have hclient : isClientError 404 = true := rfl
    simp [hmissing, hclient]
  · by_cases hclient : isClientError status = true <;> simp [hmissing, hclient, eq_comm]

theorem rejection_ne_internal (m : String) : rejection status text ≠ .internal m := by
  rw [rejection_eq]
  split_ifs <;> nofun

theorem rejection_ne_transfer (t : TransferFault) : rejection status text ≠ .transfer t := by
  rw [rejection_eq]
  split_ifs <;> nofun

end

/-! ## Answers that are texts -/

theorem answerText_toBytes (text : String) :
    answerText (Text.toBytes text) .complete = reported text := by
  cases hdecode : (Json.decode text : Except Json.Fault ErrorBody) <;>
    simp only [answerText, reported, Text.lossy_toBytes, hdecode]

theorem Json.decodeBytes_toBytes [Json.Wire α] (text : String) :
    (Json.decodeBytes (Text.toBytes text) : Except Json.Fault α) = Json.decode text := by
  unfold Json.decodeBytes Json.decode Json.Document.ofBytes Json.Document.ofString
  rw [Text.symbols_toBytes]

/-- The reply comes in time, with this status and with the whole of this text. -/
def Http.Reply.Says (limit : Nat) (reply : Reply) (status : Status) (text : String) : Prop :=
  reply.delay < limit ∧ reply.answer = .response status (Text.toBytes text) .complete

/-- What an answer comes to where a value of a type is expected. -/
def answered (α : Type) [Json.Wire α] (status : Status) (text : String) : Outcome Fault α :=
  if isSuccess status = true then
    match (Json.decode text : Except Json.Fault α) with
    | .ok a => .done a
    | .error _ => .failed (.transfer .undecodable)
  else .failed (statusFault status text)

section

variable [Json.Wire α] {status : Status} {text : String}

theorem answered_eq_done_iff {a : α} : answered α status text = .done a ↔
    isSuccess status = true ∧ Json.decode text = .ok a := by
  unfold answered
  by_cases hsuccess : isSuccess status = true
  · cases (Json.decode text : Except Json.Fault α) <;> simp [hsuccess]
  · simp [hsuccess]

theorem answered_eq_failed_iff {fault : Fault} : answered α status text = .failed fault ↔
    (isSuccess status = true ∧ fault = .transfer .undecodable ∧
        ∃ e, (Json.decode text : Except Json.Fault α) = .error e) ∨
      (isSuccess status = false ∧ fault = statusFault status text) := by
  unfold answered
  by_cases hsuccess : isSuccess status = true
  · cases (Json.decode text : Except Json.Fault α) <;> simp [hsuccess, eq_comm]
  · simp [hsuccess, eq_comm]

theorem Http.Reply.Says.read {limit : Nat} {reply : Reply} (h : reply.Says limit status text)
    (url : String) : reply.Read url limit (answered α status text) := by
  obtain ⟨delay, answer⟩ := reply
  obtain ⟨hdelay, hanswer⟩ := h
  cases hanswer
  unfold answered
  by_cases hsuccess : isSuccess status = true
  · rw [if_pos hsuccess]
    have hbytes := Json.decodeBytes_toBytes (α := α) text
    cases hdecode : (Json.decode text : Except Json.Fault α) with
    | ok a => exact .done ⟨hdelay, status, _, rfl, hsuccess, hbytes.trans hdecode⟩
    | error fault => exact .failed (.undecodable hdelay hsuccess (hbytes.trans hdecode))
  · rw [if_neg hsuccess, statusFault_eq, ← answerText_toBytes]
    by_cases hmissing : status = 404
    · subst hmissing
      exact .failed (.notFound hdelay)
    · rw [if_neg hmissing]
      exact .failed (.status hdelay (Bool.eq_false_iff.mpr hsuccess) hmissing)

theorem Http.Client.Makes.step_of_says {c : Client σ} {clock : Clock} {method : Method}
    {edit : Url → Url} {body : Option String} {path : String} {q : Request}
    (h : c.Makes method edit body path q) {now : Nat} {net : Net σ}
    (hreply : (c.server now q net.server).1.Says (clock.lasting c.limit.nanos) status text) :
    let step : Step (Net σ) Fault α := (Run.ofExcept (c.url path) >>= fun u =>
      c.send method (edit u) body >>= readValue) clock now net
    step.state = ⟨(c.server now q net.server).2, net.sent ++ [⟨now, q⟩]⟩ ∧
      step.outcome = answered α status text := by
  rw [h.step_eq]
  obtain ⟨hstate, hread⟩ := c.transmit_bind_readValue clock now net α h.inTime q
  exact ⟨hstate, hread.unique (hreply.read _)⟩

end

/-! ## Outcomes -/

/-- What a submission comes to by the status and the text of its answer, where a success may accept
it with an id or decline it with a message. -/
structure Submitted (α : Type) [Json.Wire α] (accepts declines : α → String → Prop)
    (status : Status) (text : String) (o : Outcome Fault String) : Prop where
  done : ∀ id, o = .done id ↔
    isSuccess status = true ∧ ∃ a : α, Json.decode text = .ok a ∧ accepts a id
  internal : ∀ m, o = .failed (.internal m) ↔
    isSuccess status = true ∧ ∃ a : α, Json.decode text = .ok a ∧ declines a m
  transfer : ∀ t, o = .failed (.transfer t) ↔ isSuccess status = true ∧ t = .undecodable ∧
    ∃ e, (Json.decode text : Except Json.Fault α) = .error e
  notFound : ∀ m, o = .failed (.notFound m) ↔ status = 404 ∧ m = reported text
  submission : ∀ s m, o = .failed (.submission s m) ↔
    s = status ∧ isClientError status = true ∧ status ≠ 404 ∧ m = reported text
  unexpectedStatus : ∀ s m, o = .failed (.unexpectedStatus s m) ↔
    s = status ∧ isSuccess status = false ∧ isClientError status = false ∧ m = reported text

section

variable [Json.Wire α] {decide : α → Except Fault String} {status : Status} {text : String}

/-- A submission fails by a decision on its value, for want of one, or by a rejection. -/
theorem answered_through_eq_failed_iff {fault : Fault} :
    ((answered α status text).mapFault Fault.ofSubmission).through decide = .failed fault ↔
      (isSuccess status = true ∧ ∃ a : α, Json.decode text = .ok a ∧
        decide a = .error fault) ∨
      (isSuccess status = true ∧ fault = .transfer .undecodable ∧
        ∃ e, (Json.decode text : Except Json.Fault α) = .error e) ∨
      (isSuccess status = false ∧ fault = rejection status text) := by
  rw [Outcome.through_eq_failed_iff, Outcome.mapFault_eq_failed_iff]
  simp only [Outcome.mapFault_eq_done_iff, answered_eq_done_iff, answered_eq_failed_iff]
  constructor
  · rintro (⟨_, ⟨hsuccess, rfl, hdecode⟩ | ⟨hfailed, rfl⟩, rfl⟩ |
      ⟨a, ⟨hsuccess, ha⟩, hdecide⟩)
    · exact .inr (.inl ⟨hsuccess, rfl, hdecode⟩)
    · exact .inr (.inr ⟨hfailed, rfl⟩)
    · exact .inl ⟨hsuccess, a, ha, hdecide⟩
  · rintro (⟨hsuccess, a, ha, hdecide⟩ | ⟨hsuccess, rfl, hdecode⟩ | ⟨hfailed, rfl⟩)
    · exact .inr ⟨a, ⟨hsuccess, ha⟩, hdecide⟩
    · exact .inl ⟨_, .inl ⟨hsuccess, rfl, hdecode⟩, rfl⟩
    · exact .inl ⟨_, .inr ⟨hfailed, rfl⟩, rfl⟩

theorem submitted_of_decide {accepts declines : α → String → Prop}
    (hok : ∀ a id, decide a = .ok id ↔ accepts a id)
    (herror : ∀ a fault, decide a = .error fault ↔
      ∃ m, fault = .internal m ∧ declines a m) :
    Submitted α accepts declines status text
      (((answered α status text).mapFault Fault.ofSubmission).through decide) := by
  -- Only a rejection has the remaining causes.
  have hrejected {fault : Fault} (hinternal : ∀ m, fault ≠ .internal m)
      (htransfer : ∀ t, fault ≠ .transfer t) :
      ((answered α status text).mapFault Fault.ofSubmission).through decide = .failed fault ↔
        isSuccess status = false ∧ rejection status text = fault := by
    simp [answered_through_eq_failed_iff, herror, hinternal, htransfer, eq_comm (a := fault)]
  refine ⟨fun id => ?_, fun m => ?_, fun t => ?_, fun m => ?_, fun s m => ?_, fun s m => ?_⟩
  · simp only [Outcome.through_eq_done_iff, Outcome.mapFault_eq_done_iff,
      answered_eq_done_iff, hok,
      and_assoc, exists_and_left]
  · simp [answered_through_eq_failed_iff, herror, (rejection_ne_internal m).symm]
  · simp [answered_through_eq_failed_iff, herror, (rejection_ne_transfer t).symm]
  · rw [hrejected (by simp) (by simp), rejection_eq_notFound_iff, and_iff_right_iff_imp]
    rintro ⟨rfl, -⟩
    rfl
  · rw [hrejected (by simp) (by simp), rejection_eq_submission_iff, and_iff_right_iff_imp]
    rintro ⟨-, hclient, -⟩
    exact isSuccess_of_isClientError hclient
  · rw [hrejected (by simp) (by simp), rejection_eq_unexpectedStatus_iff, and_left_comm]

end

/-! ## Causes -/

/-- Client errors other than a missing app are rejections, and nothing else is. -/
def Fault.Classified : Fault → Prop
  | submission status _ => isClientError status = true ∧ status ≠ 404
  | unexpectedStatus status _ => isClientError status = false
  | _ => True

theorem Http.Reply.Fails.classified [Json.Wire α] {url : String} {limit : Nat} {reply : Reply}
    {fault : Fault} (h : reply.Fails α url limit fault) : fault.ofSubmission.Classified := by
  cases h with
  | @status _ status _ _ _ _ hfound =>
      rw [ofSubmission_unexpectedStatus]
      by_cases hclient : isClientError status = true
      · rw [if_pos hclient]
        exact ⟨hclient, hfound⟩
      · rw [if_neg hclient]
        exact Bool.eq_false_iff.mpr hclient
  | _ => trivial

theorem Http.Client.classified_of_ask [Json.Wire α] (c : Client σ) {clock : Clock} {now : Nat}
    {net : Net σ} {method : Method} {edit : Url → Url} {body : Option String} {path : String}
    {fault : Fault}
    (h : ((Run.ofExcept (c.url path) >>= fun u => c.send method (edit u) body >>= readValue :
      Run (Net σ) Fault α) clock now net).outcome = .failed fault) :
    fault.ofSubmission.Classified := by
  have hasked := c.asked clock now net method edit body path (readValue (α := α))
  generalize (Run.ofExcept (c.url path) >>= fun u =>
    c.send method (edit u) body >>= readValue (α := α)) clock now net = step at h hasked
  cases hasked with
  | unnamed hurl =>
      cases h
      obtain ⟨_, rfl⟩ := eq_url_of_url_eq_error hurl
      trivial
  | unsendable =>
      cases h
      trivial
  | noTime =>
      cases h
      trivial
  | sent _ _ hlimit =>
      obtain ⟨-, hread⟩ := c.transmit_bind_readValue clock now net α hlimit _
      rw [h] at hread
      cases hread with
      | failed hfails => exact hfails.classified

theorem classified_of_through {x : Run (Net σ) Fault α} {decide : α → Except Fault String}
    {clock : Clock} {now : Nat} {net : Net σ}
    (hx : ∀ fault, (x clock now net).outcome = .failed fault → fault.ofSubmission.Classified)
    (hdecide : ∀ a fault, decide a = .error fault → fault.Classified) {fault : Fault}
    (h : ((x.mapFault Fault.ofSubmission >>= fun a => .ofExcept (decide a)) clock now net).outcome =
      .failed fault) : fault.Classified := by
  rw [Run.bind_ofExcept_apply, Run.mapFault_apply, Outcome.through_eq_failed_iff,
    Outcome.mapFault_eq_failed_iff] at h
  rcases h with ⟨fault', hfault, rfl⟩ | ⟨a, -, ha⟩
  · exact hx fault' hfault
  · exact hdecide a fault ha

namespace Remote

variable (r : Remote σ) (clock : Clock) (now : Nat) (net : Net σ)

theorem removeApp_eq (id : String) (force : Bool) :
    r.removeApp id force =
      (r.http.delete ("v2/apps/" ++ pathId id) force).mapFault Fault.ofSubmission >>=
        fun removal : Removal => .ofExcept (.ok removal.deploymentId) := rfl

theorem firstStarted_eq_error_iff {app : App} {created : AppCreated} {fault : Fault} :
    firstStarted app created = .error fault ↔ ∃ m, fault = .internal m ∧
      created.deployments = [] ∧ m = "No deployment started for app " ++ app.id := by
  unfold firstStarted
  cases created.deployments <;> simp [eq_comm]

/-- If a text answers the request, the run sends this request alone and comes to what the answer
tells. -/
def Tells (q : Request) (α : Type) [Json.Wire α] (accepts declines : α → String → Prop)
    (x : Run (Net σ) Fault String) : Prop :=
  ∀ status text,
    (r.http.server now q net.server).1.Says (clock.lasting r.http.limit.nanos) status text →
      (x clock now net).state =
          ⟨(r.http.server now q net.server).2, net.sent ++ [⟨now, q⟩]⟩ ∧
        Submitted α accepts declines status text (x clock now net).outcome

variable {r clock now net}

theorem tells_of_makes [Json.Wire α] {method : Method} {edit : Url → Url} {body : Option String}
    {path : String} {q : Request} (h : r.http.Makes method edit body path q)
    {decide : α → Except Fault String} {accepts declines : α → String → Prop}
    (hok : ∀ a id, decide a = .ok id ↔ accepts a id)
    (herror : ∀ a fault, decide a = .error fault ↔
      ∃ m, fault = .internal m ∧ declines a m) :
    r.Tells clock now net q α accepts declines
      ((Run.ofExcept (r.http.url path) >>= fun u =>
        r.http.send method (edit u) body >>= Client.readValue).mapFault Fault.ofSubmission >>=
          fun a => .ofExcept (decide a)) := by
  intro status text hreply
  obtain ⟨hstate, houtcome⟩ := h.step_of_says (α := α) hreply
  rw [Run.bind_ofExcept_apply, Run.mapFault_apply, houtcome]
  dsimp only
  exact ⟨hstate, submitted_of_decide hok herror⟩

theorem tells_addApp {app : App} {q : Request} (h : r.http.Posts "v2/apps" app q) :
    r.Tells clock now net q AppCreated
      (fun created id => ∃ d rest, created.deployments = d :: rest ∧ d.id = id)
      (fun created m => created.deployments = [] ∧ m = "No deployment started for app " ++ app.id)
      (r.addApp app) := by
  rw [addApp_eq]
  exact tells_of_makes h (fun _ _ => firstStarted_eq_ok_iff) fun _ _ => firstStarted_eq_error_iff

theorem tells_removeApp {id : String} {force : Bool} {q : Request}
    (h : r.http.Makes .delete (·.withParameter "force" (toString force)) none
      ("v2/apps/" ++ pathId id) q) :
    r.Tells clock now net q Removal (fun removal deployment => removal.deploymentId = deployment)
      (fun _ _ => False) (r.removeApp id force) := by
  rw [removeApp_eq]
  exact tells_of_makes h (fun _ _ => by simp) fun _ _ => by simp

theorem classified_of_addApp {app : App} {fault : Fault}
    (h : (r.addApp app clock now net).outcome = .failed fault) : fault.Classified := by
  rw [addApp_eq] at h
  refine classified_of_through (fun _ => r.http.classified_of_ask) ?_ h
  intro created fault hfault
  obtain ⟨m, rfl, -⟩ := firstStarted_eq_error_iff.mp hfault
  trivial

theorem classified_of_removeApp {id : String} {force : Bool} {fault : Fault}
    (h : (r.removeApp id force clock now net).outcome = .failed fault) : fault.Classified := by
  rw [removeApp_eq] at h
  refine classified_of_through (fun _ hfault => ?_) (fun _ _ hfault => by cases hfault) h
  exact r.http.classified_of_ask hfault

end Remote

/-- The outcome of a submission, whatever is submitted. Its request is named by the path of the app,
and it is the only one; status and text of an answer tell what the submission comes to, and with
which message. Whatever happens, a client error is told as one. -/
theorem Remote.submission_outcomes (r : Remote σ) (clock : Clock) (now : Nat) (net : Net σ) :
    (r.http.base.Rooted → r.http.limit.isZero = false →
      (∀ app : App, ∃ u, r.http.url "v2/apps" = .ok u ∧
        let q := r.http.request .post u (some (Json.encode app))
        isSendable q.url = true → r.Tells clock now net q AppCreated
          (fun created id => ∃ d rest, created.deployments = d :: rest ∧ d.id = id)
          (fun created m => created.deployments = [] ∧
            m = "No deployment started for app " ++ app.id)
          (r.addApp app)) ∧
      ∀ id force, ∃ u, r.http.url ("v2/apps/" ++ pathId id) = .ok u ∧
        let q := r.http.request .delete (u.withParameter "force" (toString force)) none
        isSendable q.url = true → r.Tells clock now net q Removal
          (fun removal deployment => removal.deploymentId = deployment) (fun _ _ => False)
          (r.removeApp id force)) ∧
    ((∀ text (e : ErrorBody), Json.decode text = .ok e → reported text = e.message) ∧
      (∀ e : ErrorBody, (∀ v ∈ e.details, Tellable v) →
        reported (Json.encode e) = e.message) ∧
      ∀ text, (∀ e : ErrorBody, Json.decode text ≠ .ok e) → reported text = text) ∧
    (∀ app fault, (r.addApp app clock now net).outcome = .failed fault → fault.Classified) ∧
    ∀ id force fault,
      (r.removeApp id force clock now net).outcome = .failed fault → fault.Classified := by
  refine ⟨fun hbase hlimit => ⟨fun app => ?_, fun id force => ?_⟩,
    ⟨fun _ _ => reported_of_decode, reported_encode, fun _ => reported_of_not_decode⟩,
    fun _ _ => classified_of_addApp, fun _ _ _ => classified_of_removeApp⟩
  · have hdescends : Url.Descends "v2/apps".toList := by decide
    obtain ⟨u, hurl, -⟩ := Client.url_of_descends hbase hdescends
    exact ⟨u, hurl, fun hsendable => tells_addApp ⟨⟨u, hurl, rfl⟩, hsendable, hlimit⟩⟩
  · have hdescends : Url.Descends ("v2/apps/" ++ pathId id).toList :=
      Url.descends_append (by decide) (pathId id)
    obtain ⟨u, hurl, -⟩ := Client.url_of_descends hbase hdescends
    exact ⟨u, hurl, fun hsendable =>
      tells_removeApp ⟨⟨u, hurl, rfl⟩, hsendable, hlimit⟩⟩

/-! ## A server that takes no submission -/

/-- What is wrong with an app. -/
def invalidBody : ErrorBody where
  message := "Object is not valid"
  details := some (.array [.object [("errors", .array [.string "must be positive"]),
    ("path", .string "/cpus")]])

theorem tellable_invalidBody : ∀ v ∈ invalidBody.details, Tellable v := by
  rintro v hv
  cases hv
  refine ⟨.array ?_, fun x hx => by cases hx⟩
  rw [List.forall_mem_singleton]
  refine .object (List.pairwise_pair.mpr (by decide)) ?_
  rw [List.forall_mem_cons, List.forall_mem_singleton]
  refine ⟨.array ?_, .string _⟩
  rw [List.forall_mem_singleton]
  exact .string _

/-- Every app that is posted is invalid, and there is no app to remove. -/
def declining : Server Unit := fun _ q u =>
  let reply (status : Status) (text : String) : Reply × Unit :=
    (⟨0, .response status (Text.toBytes text) .complete⟩, u)
  if q.method = .post then reply 422 (Json.encode invalidBody) else reply 404 "no route"

theorem says_declining {q : Request} (h : q.method = .post) (now : Nat) (u : Unit) {limit : Nat}
    (hlimit : 0 < limit) : (declining now q u).1.Says limit 422 (Json.encode invalidBody) := by
  unfold declining
  simp only [h, if_true]
  exact ⟨hlimit, rfl⟩

theorem says_declining_of_ne {q : Request} (h : q.method ≠ .post) (now : Nat) (u : Unit)
    {limit : Nat} (hlimit : 0 < limit) : (declining now q u).1.Says limit 404 "no route" := by
  unfold declining
  simp only [h, if_false]
  exact ⟨hlimit, rfl⟩

def decliningRemote : Remote Unit :=
  ⟨⟨declining, Cluster.endlessUrl ["marathon", ""], none, Cluster.endless.requestTimeout⟩,
    .root⟩

theorem Remote.submission_outcomes_declining :
    let net : Net Unit := ⟨(), []⟩
    let added := decliningRemote.addApp FrameworkApp.app .exact 0 net
    let removed := decliningRemote.removeApp FrameworkApp.appId true .exact 0 net
    decliningRemote.http.base.Rooted ∧ decliningRemote.http.limit.isZero = false ∧
      added.outcome = .failed (.submission 422 "Object is not valid") ∧
      added.state.sent.map (·.request.url.text) = ["http://c/marathon/v2/apps"] ∧
      removed.outcome = .failed (.notFound "no route") ∧
      removed.state.sent.map (·.request.url.text) =
        ["http://c/marathon/v2/apps/python-http?force=true"] := by
  intro net added removed
  obtain ⟨hsubmissions, ⟨-, hencode, hplain⟩, -⟩ :=
    decliningRemote.submission_outcomes .exact 0 net
  have hrooted : decliningRemote.http.base.Rooted := ⟨by decide, _, rfl⟩
  obtain ⟨hadd, hremove⟩ := hsubmissions hrooted rfl
  obtain ⟨u, hu, hadded⟩ := hadd FrameworkApp.app
  obtain ⟨v, hv, hremoved⟩ := hremove FrameworkApp.appId true
  have hjoin : decliningRemote.http.url "v2/apps" =
      .ok (Cluster.endlessUrl ["marathon", "v2", "apps"]) :=
    Json.eq_ok_of_toOption (by decide +kernel)
  have hjoin' : decliningRemote.http.url ("v2/apps/" ++ pathId FrameworkApp.appId) =
      .ok (Cluster.endlessUrl ["marathon", "v2", "apps", "python-http"]) :=
    Json.eq_ok_of_toOption (by decide +kernel)
  obtain rfl : _ = u := Except.ok.inj (hjoin.symm.trans hu)
  obtain rfl : _ = v := Except.ok.inj (hjoin'.symm.trans hv)
  have hlimit : 0 < Clock.exact.lasting decliningRemote.http.limit.nanos := by decide +kernel
  obtain ⟨hstate, hadded⟩ := hadded (by decide +kernel) _ _
    (says_declining (Client.method_request _ _ _ _) 0 () hlimit)
  obtain ⟨hstate', hremoved⟩ := hremoved (by decide +kernel) _ _
    (says_declining_of_ne (by rw [Client.method_request]; decide) 0 () hlimit)
  have hreported : reported "no route" = "no route" := by
    refine hplain _ fun e he => ?_
    have hnone : (Json.decode "no route" : Except Json.Fault ErrorBody).toOption.isNone := by
      decide +kernel
    rw [he] at hnone
    cases hnone
  refine ⟨hrooted, rfl, ?_, ?_, ?_, ?_⟩
  · exact (hadded.submission 422 _).mpr
      ⟨rfl, rfl, by decide, (hencode _ tellable_invalidBody).symm⟩
  · rw [hstate]
    decide +kernel
  · exact (hremoved.notFound _).mpr ⟨rfl, hreported.symm⟩
  · rw [hstate']
    decide +kernel

end Rollout
