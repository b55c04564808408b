import Rollout.Http.Client
import Rollout.Proofs.Run.Progress
/-!
# Exchanges

The replies of a server are told from the requests it got: a transcript leads from one state of a
network to another. What a client makes of a reply is laid down for every kind of reply, and a
client that asks for a value either gets what a success carries or fails with the fault of the
reply, unless no request can be made at all.
-/

namespace Rollout.Http

open Time

variable {σ : Type} {α : Type}

/-- A request, the instant at which it was sent, and the reply to it. -/
structure Exchange where
  time : Nat
  request : Request
  reply : Reply

/-- The exchanges with a server that lead from one state of a network to another. -/
inductive Exchanges (server : Server σ) (net : Net σ) : List Exchange → Net σ → Prop where
  | start : Exchanges server net [] net
  | next {xs : List Exchange} {mid : Net σ} (earlier : Exchanges server net xs mid) (now : Nat)
      (q : Request) : Exchanges server net (xs ++ [⟨now, q, (server now q mid.server).1⟩])
        ⟨(server now q mid.server).2, mid.sent ++ [⟨now, q⟩]⟩

theorem Exchanges.single (server : Server σ) (net : Net σ) (now : Nat) (q : Request) :
    Exchanges server net [⟨now, q, (server now q net.server).1⟩]
      ⟨(server now q net.server).2, net.sent ++ [⟨now, q⟩]⟩ :=
  Exchanges.start.next now q

theorem Exchanges.append {server : Server σ} {net mid later : Net σ} {xs ys : List Exchange}
    (h : Exchanges server net xs mid) (h' : Exchanges server mid ys later) :
    Exchanges server net (xs ++ ys) later := by
  induction h' with
  | start => rwa [List.append_nil]
  | next earlier now q ih =>
      rw [← List.append_assoc]
      exact .next ih now q

theorem Exchanges.sent {server : Server σ} {net later : Net σ} {xs : List Exchange}
    (h : Exchanges server net xs later) :
    later.sent = net.sent ++ xs.map fun x => ⟨x.time, x.request⟩ := by
  induction h with
  | start => exact (List.append_nil _).symm
  | next earlier now q ih => simp [ih]

/-- What was sent tells two transcripts of a network apart: the server answers the same requests in
the same way. -/
theorem Exchanges.unique {server : Server σ} {net later later' : Net σ} {xs ys : List Exchange}
    (h : Exchanges server net xs later) (h' : Exchanges server net ys later')
    (hsent : later.sent = later'.sent) : xs = ys ∧ later = later' := by
  induction h generalizing ys later' with
  | start =>
      cases h' with
      | start => exact ⟨rfl, rfl⟩
      | next earlier' =>
          have hlength := congrArg List.length hsent
          simp only [earlier'.sent, List.length_append, List.length_singleton] at hlength
          omega
  | next earlier now q ih =>
      cases h' with
      | start =>
          have hlength := congrArg List.length hsent
          simp only [earlier.sent, List.length_append, List.length_singleton] at hlength
          omega
      | next earlier' now' q' =>
          -- What was sent last is the same, and the server is in the same state when it gets it.
          obtain ⟨hbefore, hlast⟩ := List.append_inj' hsent rfl
          cases hlast
          obtain ⟨rfl, rfl⟩ := ih earlier' hbefore
          exact ⟨rfl, rfl⟩

/-- That a transcript leads on goes through everything runs are put together with. -/
def exchanging (server : Server σ) : Progress (Net σ) where
  Holds _ net _ later := ∃ xs, Exchanges server net xs later
  wait _ := ⟨[], .start⟩
  trans := by
    rintro _ _ _ _ _ _ ⟨xs, hxs⟩ ⟨ys, hys⟩
    exact ⟨xs ++ ys, hxs.append hys⟩

/-! ## What a reply says -/

/-- The reply is a success, and its whole body comes in time and decodes. -/
def Reply.Carries [Json.Wire α] (limit : Nat) (reply : Reply) (a : α) : Prop :=
  reply.delay < limit ∧ ∃ status body, reply.answer = .response status body .complete ∧
    isSuccess status = true ∧ Json.decodeBytes body = .ok a

/-- The message in the body of an answer that is not a success, or else the body. -/
def answerText (body : List UInt8) (ending : BodyEnd) : String :=
  let text := match ending with
    | .complete => Text.lossy body
    | .truncated | .stalled => ""
  match (Json.decode text : Except Json.Fault Wire.ErrorBody) with
  | .ok e => e.message
  | .error _ => text

/-- The fault of a reply that carries no value of a type. -/
inductive Reply.Fails (α : Type) [Json.Wire α] (url : String) (limit : Nat) :
    Reply → Fault → Prop where
  | late {delay : Nat} {answer : Answer} (h : limit ≤ delay) :
      Fails α url limit ⟨delay, answer⟩ (.transfer (.unanswered url))
  | refused {delay : Nat} (h : delay < limit) :
      Fails α url limit ⟨delay, .refused⟩ (.transfer (.refused url))
  | dropped {delay : Nat} (h : delay < limit) :
      Fails α url limit ⟨delay, .dropped⟩ (.transfer (.dropped url))
  | silence {delay : Nat} (h : delay < limit) :
      Fails α url limit ⟨delay, .silence⟩ (.transfer (.unanswered url))
  | notFound {delay : Nat} {body : List UInt8} {ending : BodyEnd} (h : delay < limit) :
      Fails α url limit ⟨delay, .response 404 body ending⟩ (.notFound (answerText body ending))
  | status {delay : Nat} {status : Status} {body : List UInt8} {ending : BodyEnd}
      (h : delay < limit) (hstatus : isSuccess status = false) (hfound : status ≠ 404) :
      Fails α url limit ⟨delay, .response status body ending⟩
        (.unexpectedStatus status (answerText body ending))
  | undecodable {delay : Nat} {status : Status} {body : List UInt8} {fault : Json.Fault}
      (h : delay < limit) (hstatus : isSuccess status = true)
      (hbody : (Json.decodeBytes body : Except Json.Fault α) = .error fault) :
      Fails α url limit ⟨delay, .response status body .complete⟩ (.transfer .undecodable)
  | truncated {delay : Nat} {status : Status} {body : List UInt8} (h : delay < limit)
      (hstatus : isSuccess status = true) :
      Fails α url limit ⟨delay, .response status body .truncated⟩ (.transfer .undecodable)
  | stalled {delay : Nat} {status : Status} {body : List UInt8} (h : delay < limit)
      (hstatus : isSuccess status = true) :
      Fails α url limit ⟨delay, .response status body .stalled⟩ (.transfer .unfinished)

namespace Reply

/-- How a reply is read: as the value it carries, or as its fault. -/
inductive Read [Json.Wire α] (url : String) (limit : Nat) (reply : Reply) :
    Outcome Fault α → Prop where
  | done {a : α} (h : reply.Carries limit a) : Read url limit reply (.done a)
  | failed {fault : Fault} (h : Fails α url limit reply fault) :
      Read url limit reply (.failed fault)

variable [Json.Wire α] {url : String} {limit : Nat} {reply : Reply}

theorem Carries.not_fails {a : α} (h : reply.Carries limit a) {fault : Fault} :
    ¬ Fails α url limit reply fault := by
  obtain ⟨hdelay, status, body, hanswer, hstatus, hbody⟩ := h
  intro hfails
  cases hfails with
  | late hlate => exact absurd hdelay (Nat.not_lt_of_le hlate)
  | refused => cases hanswer
  | dropped => cases hanswer
  | silence => cases hanswer
  | notFound => cases hanswer; cases hstatus
  | status _ hfailed => cases hanswer; rw [hstatus] at hfailed; cases hfailed
  | undecodable _ _ hfailed => cases hanswer; rw [hbody] at hfailed; cases hfailed
  | truncated => cases hanswer
  | stalled => cases hanswer

theorem Fails.not_assertion {fault : Fault} (h : Fails α url limit reply fault) :
    fault.isAssertion = false := by
  cases h <;> rfl

theorem Fails.unique {fault other : Fault} (h : Fails α url limit reply fault)
    (h' : Fails α url limit reply other) : fault = other := by
  have hmissing : isSuccess 404 = false := rfl
  cases h <;> cases h' <;> first
    | rfl
    | omega
    | simp_all

end Reply

/-- The status in the head of a reply that comes in time. -/
def Reply.Heads (limit : Nat) (reply : Reply) (status : Status) : Prop :=
  reply.delay < limit ∧ ∃ body ending, reply.answer = .response status body ending

/-- The reply has no head that comes in time, and its fault is this one whatever is asked for. -/
structure Reply.Lost (url : String) (limit : Nat) (reply : Reply) (fault : Fault) : Prop where
  headless : ∀ status, ¬ reply.Heads limit status
  fails : ∀ (γ : Type) [Json.Wire γ], reply.Fails γ url limit fault

namespace Client

variable (c : Client σ) (clock : Clock) (now : Nat) (net : Net σ)

/-- The request for what a path names. -/
def Asks (path : String) (q : Request) : Prop :=
  ∃ u, c.url path = .ok u ∧ q = c.request .get u none

/-- The request for what a path names, if it can be made in the time there is. -/
structure Sends (path : String) (q : Request) : Prop where
  asked : c.Asks path q
  sendable : isSendable q.url = true
  inTime : c.limit.isZero = false

/-- Why no request is made for what a path names. -/
inductive Unsent (path : String) : Fault → Prop where
  | url {fault : Fault} (h : c.url path = .error fault) : Unsent path fault
  | unsendable {q : Request} (h : c.Asks path q) (hurl : isSendable q.url = false) :
      Unsent path (.transfer (.unsendable q.url.text))
  | noTime {q : Request} (h : c.Asks path q) (hlimit : c.limit.isZero = true) :
      Unsent path (.transfer (.unanswered q.url.text))

/-- What becomes of asking for a value: the reply is read, or no request is made. -/
inductive Gets [Json.Wire α] (path : String) (limit : Nat) (net : Net σ) :
    Net σ → Outcome Fault α → Prop where
  | answered {q : Request} {outcome : Outcome Fault α} (now : Nat) (sent : c.Sends path q)
      (read : (c.server now q net.server).1.Read q.url.text limit outcome) :
      Gets path limit net ⟨(c.server now q net.server).2, net.sent ++ [⟨now, q⟩]⟩ outcome
  | unsent {fault : Fault} (h : c.Unsent path fault) : Gets path limit net net (.failed fault)

theorem Sends.not_unsent {c : Client σ} {path : String} {q : Request} (h : c.Sends path q)
    {fault : Fault} : ¬ c.Unsent path fault := by
  obtain ⟨⟨u, hurl, rfl⟩, hsendable, hlimit⟩ := h
  intro hunsent
  cases hunsent with
  | url h =>
      rw [hurl] at h
      cases h
  | unsendable h hbad =>
      obtain ⟨u', hurl', rfl⟩ := h
      rw [hurl] at hurl'
      cases hurl'
      rw [hsendable] at hbad
      cases hbad
  | noTime h hzero =>
      rw [hlimit] at hzero
      cases hzero

theorem eq_url_of_url_eq_error {c : Client σ} {path : String} {fault : Fault}
    (h : c.url path = .error fault) : ∃ reason, fault = .url reason := by
  unfold Client.url at h
  split at h
  · cases h
  · cases h
    exact ⟨_, rfl⟩

theorem Unsent.not_assertion {c : Client σ} {path : String} {fault : Fault}
    (h : c.Unsent path fault) : fault.isAssertion = false := by
  cases h with
  | url h =>
      obtain ⟨_, rfl⟩ := eq_url_of_url_eq_error h
      rfl
  | unsendable => rfl
  | noTime => rfl

theorem requireSuccess_fails {r : Response} (h : isSuccess r.status = false) :
    let step : Step (Net σ) Fault Unit := requireSuccess r clock now net
    step.state = net ∧ step.outcome = .failed (if r.status = 404 then
      .notFound (answerText r.body r.ending)
      else .unexpectedStatus r.status (answerText r.body r.ending)) := by
  unfold requireSuccess
  rw [h]
  simp only [Bool.false_eq_true, if_false]
  rw [Run.bind_apply]
  unfold readText answerText
  cases r.ending with
  | complete => exact ⟨rfl, rfl⟩
  | truncated => exact ⟨rfl, rfl⟩
  | stalled => exact ⟨rfl, rfl⟩

theorem readValue_read [Json.Wire α] (r : Response) (url : String) {limit : Nat} {reply : Reply}
    (hdelay : reply.delay < limit) (hanswer : reply.answer = .response r.status r.body r.ending) :
    let step : Step (Net σ) Fault α := readValue r clock now net
    step.state = net ∧ reply.Read url limit step.outcome := by
  obtain ⟨delay, answer⟩ := reply
  cases hanswer
  cases hstatus : isSuccess r.status with
  | true =>
      have hsuccess : (requireSuccess r : Run (Net σ) Fault Unit) = pure () := if_pos hstatus
      unfold readValue
      rw [hsuccess, pure_bind]
      cases r.ending with
      | complete =>
          simp only
          cases hbody : (Json.decodeBytes r.body : Except Json.Fault α) with
          | ok a => exact ⟨rfl, .done ⟨hdelay, r.status, r.body, rfl, hstatus, hbody⟩⟩
          | error fault => exact ⟨rfl, .failed (.undecodable hdelay hstatus hbody)⟩
      | truncated => exact ⟨rfl, .failed (.truncated hdelay hstatus)⟩
      | stalled => exact ⟨rfl, .failed (.stalled hdelay hstatus)⟩
  | false =>
      obtain ⟨hstate, houtcome⟩ := requireSuccess_fails clock now net hstatus
      unfold readValue
      rw [Run.bind_apply]
      rcases hstep : (requireSuccess r : Run (Net σ) Fault Unit) clock now net
        with ⟨outcome, t, n⟩
      rw [hstep] at hstate houtcome
      cases hstate
      cases houtcome
      refine ⟨rfl, .failed ?_⟩
      by_cases hfound : r.status = 404
      · rw [hfound]
        exact .notFound hdelay
      · rw [if_neg hfound]
        exact .status hdelay hstatus hfound

/-- A request that is sent has failed, or the head of its answer is there after the delay of the
reply and leaves the rest of the time. -/
theorem transmit_timed (hlimit : c.limit.isZero = false) (q : Request) :
    let limit := clock.lasting c.limit.nanos
    let reply := (c.server now q net.server).1
    let step := c.transmit q clock now net
    step.state = ⟨(c.server now q net.server).2, net.sent ++ [⟨now, q⟩]⟩ ∧
      ((∃ fault, step.outcome = .failed fault ∧ step.elapsed ≤ limit ∧
          reply.Lost q.url.text limit fault) ∨
        ∃ r : Response, step.outcome = .done r ∧ reply.delay < limit ∧
          reply.answer = .response r.status r.body r.ending ∧ step.elapsed = reply.delay ∧
          reply.delay + r.left = limit) := by
  unfold transmit
  rw [hlimit]
  rcases c.server now q net.server with ⟨⟨delay, answer⟩, u⟩
  simp only [Bool.false_eq_true, if_false]
  by_cases hlate : clock.lasting c.limit.nanos ≤ delay
  · simp only [hlate, if_true]
    exact ⟨trivial, .inl ⟨_, rfl, Nat.le_refl _,
      fun status h => absurd h.1 (Nat.not_lt_of_le hlate), fun γ _ => .late hlate⟩⟩
  · have hdelay : delay < clock.lasting c.limit.nanos := Nat.lt_of_not_le hlate
    have hle : delay ≤ clock.lasting c.limit.nanos := Nat.le_of_lt hdelay
    simp only [hlate, if_false]
    cases answer with
    | refused => exact ⟨rfl, .inl ⟨_, rfl, hle, nofun, fun γ _ => .refused hdelay⟩⟩
    | dropped => exact ⟨rfl, .inl ⟨_, rfl, hle, nofun, fun γ _ => .dropped hdelay⟩⟩
    | silence => exact ⟨rfl,
      .inl ⟨_, rfl, Nat.le_refl _, nofun, fun γ _ => .silence hdelay⟩⟩
    | response status body ending =>
        refine ⟨rfl, .inr ⟨⟨status, body, ending, _⟩, rfl, hdelay, rfl, rfl, ?_⟩⟩
        exact Nat.add_sub_cancel' hle

theorem transmit_of_isZero (hlimit : c.limit.isZero = true) (q : Request) :
    c.transmit q clock now net = ⟨.failed (.transfer (.unanswered q.url.text)), net, 0⟩ := by
  unfold transmit
  rw [hlimit]
  rfl

theorem transmit_state (q : Request) :
    (c.transmit q clock now net).state = net ∨ (c.transmit q clock now net).state =
      ⟨(c.server now q net.server).2, net.sent ++ [⟨now, q⟩]⟩ := by
  cases hlimit : c.limit.isZero with
  | true => exact .inl (by rw [c.transmit_of_isZero clock now net hlimit])
  | false => exact .inr (c.transmit_timed clock now net hlimit q).1

theorem transmit_exchanging (q : Request) :
    Run.Follows (exchanging c.server) (c.transmit q) := by
  intro clock now net
  rcases c.transmit_state clock now net q with hnet | hnext
  · rw [hnet]
    exact ⟨[], .start⟩
  · rw [hnext]
    exact ⟨_, .next .start now q⟩

theorem transmit_bind_readValue (α : Type) [Json.Wire α] (hlimit : c.limit.isZero = false)
    (q : Request) :
    let step : Step (Net σ) Fault α := (c.transmit q >>= readValue) clock now net
    step.state = ⟨(c.server now q net.server).2, net.sent ++ [⟨now, q⟩]⟩ ∧
      (c.server now q net.server).1.Read q.url.text (clock.lasting c.limit.nanos) step.outcome := by
  obtain ⟨hstate, hend⟩ := c.transmit_timed clock now net hlimit q
  rw [Run.bind_apply]
  rcases hstep : c.transmit q clock now net with ⟨outcome, t, n⟩
  rw [hstep] at hstate hend
  cases hstate
  rcases hend with ⟨fault, houtcome, -, hlost⟩ | ⟨r, houtcome, hdelay, hanswer, -⟩
  · cases houtcome
    exact ⟨rfl, .failed (hlost.fails α)⟩
  · cases houtcome
    exact readValue_read clock (now + n) _ r q.url.text hdelay hanswer

/-- What becomes of sending a request for what a path names: something stands in its way, or it is
transmitted and its answer heeded. -/
inductive Asked (method : Method) (edit : Url → Url) (body : Option String) (path : String)
    (read : Response → Run (Net σ) Fault α) : Step (Net σ) Fault α → Prop where
  | unnamed {fault : Fault} (hurl : c.url path = .error fault) :
      Asked method edit body path read ⟨.failed fault, net, 0⟩
  | unsendable {u : Url} (hurl : c.url path = .ok u)
      (hsendable : isSendable (c.request method (edit u) body).url = false) :
      Asked method edit body path read
        ⟨.failed (.transfer (.unsendable (c.request method (edit u) body).url.text)), net, 0⟩
  | noTime {u : Url} (hurl : c.url path = .ok u)
      (hsendable : isSendable (c.request method (edit u) body).url = true)
      (hlimit : c.limit.isZero = true) : Asked method edit body path read
        ⟨.failed (.transfer (.unanswered (c.request method (edit u) body).url.text)), net, 0⟩
  | sent {u : Url} (hurl : c.url path = .ok u)
      (hsendable : isSendable (c.request method (edit u) body).url = true)
      (hlimit : c.limit.isZero = false) : Asked method edit body path read
        ((c.transmit (c.request method (edit u) body) >>= read) clock now net)

theorem asked (method : Method) (edit : Url → Url) (body : Option String) (path : String)
    (read : Response → Run (Net σ) Fault α) : c.Asked clock now net method edit body path read
      ((Run.ofExcept (c.url path) >>= fun u => c.send method (edit u) body >>= read)
        clock now net) := by
  cases hurl : c.url path with
  | error fault => exact .unnamed hurl
  | ok u =>
      rw [Run.ofExcept_ok_bind]
      unfold send
      simp only
      cases hsendable : isSendable (c.request method (edit u) body).url with
      | false => exact .unsendable hurl hsendable
      | true =>
          simp only [if_true]
          cases hlimit : c.limit.isZero with
          | true =>
              rw [Run.bind_apply, c.transmit_of_isZero clock now net hlimit]
              exact .noTime hurl hsendable hlimit
          | false => exact .sent hurl hsendable hlimit

/-- What becomes of asking for a value depends on the reply alone. -/
theorem get_gets [Json.Wire α] (path : String) :
    let step : Step (Net σ) Fault α := c.get path clock now net
    c.Gets path (clock.lasting c.limit.nanos) net step.state step.outcome := by
  intro step
  have hasked : c.Asked clock now net .get id none path readValue step :=
    c.asked clock now net .get id none path readValue
  clear_value step
  cases hasked with
  | unnamed hurl => exact .unsent (.url hurl)
  | unsendable hurl hsendable => exact .unsent (.unsendable ⟨_, hurl, rfl⟩ hsendable)
  | noTime hurl _ hlimit => exact .unsent (.noTime ⟨_, hurl, rfl⟩ hlimit)
  | @sent u hurl hsendable hlimit =>
      obtain ⟨hstate, hread⟩ :=
        c.transmit_bind_readValue clock now net α hlimit (c.request .get u none)
      have hgets := Gets.answered now ⟨⟨u, hurl, rfl⟩, hsendable, hlimit⟩ hread
      rwa [← hstate] at hgets

end Client

end Rollout.Http
