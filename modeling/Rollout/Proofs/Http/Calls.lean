import Rollout.Proofs.Http.Exchanges
import Rollout.Proofs.Run.Outcome
/-!
# Calls

A call makes one request, if it can make any, and what it comes to is read off the exchange. It
takes no longer than the time for a request, and a value is there as soon as its reply.
-/

namespace Rollout

open Time

variable {σ : Type} {α β : Type}

namespace Http

/-- Which exchanges are those of a call, and what the call comes to by them. -/
abbrev Reading (α : Type) := Exchange → Outcome Fault α → Prop

/-- No exchange is read in two ways. -/
def Reading.Definite (reading : Reading α) : Prop :=
  ∀ x o o', reading x o → reading x o' → o = o'

/-- The requests of the exchanges that are those of a call. -/
def Reading.Asks (reading : Reading α) (q : Request) : Prop :=
  ∃ now reply o, reading ⟨now, q, reply⟩ o

/-- What becomes of a call that is made at some instant. -/
inductive Called (server : Server σ) (limit : Nat) (reading : Reading α) (now : Nat)
    (net : Net σ) : Step (Net σ) Fault α → Prop where
  | answered {q : Request} {outcome : Outcome Fault α} {n : Nat}
      (read : reading ⟨now, q, (server now q net.server).1⟩ outcome) (quick : n ≤ limit)
      (prompt : ∀ a, outcome = .done a → n = (server now q net.server).1.delay) :
      Called server limit reading now net
        ⟨outcome, ⟨(server now q net.server).2, net.sent ++ [⟨now, q⟩]⟩, n⟩
  | unsent {fault : Fault} (silent : ∀ x o, ¬ reading x o) (own : fault.isNotFound = false) :
      Called server limit reading now net ⟨.failed fault, net, 0⟩

theorem Reading.Definite.becomes {reading : Reading α} (h : reading.Definite)
    (g : Outcome Fault α → Outcome Fault β) :
    Reading.Definite fun x o => ∃ o', reading x o' ∧ o = g o' := by
  rintro x _ _ ⟨o, ho, rfl⟩ ⟨o', ho', rfl⟩
  rw [h x o o' ho ho']

theorem Reading.asks_becomes_iff {reading : Reading α} (g : Outcome Fault α → Outcome Fault β)
    {q : Request} : Reading.Asks (fun x o => ∃ o', reading x o' ∧ o = g o') q ↔
      reading.Asks q := by
  constructor
  · rintro ⟨now, reply, _, o, ho, -⟩
    exact ⟨now, reply, o, ho⟩
  · rintro ⟨now, reply, o, ho⟩
    exact ⟨now, reply, _, o, ho, rfl⟩

/-- An exchange is read, and then there is a decision on the value. -/
def Reading.through (reading : Reading α) (decide : α → Except Fault β) : Reading β :=
  fun e o => ∃ o', reading e o' ∧ o = o'.through decide

namespace Reading

variable {reading : Reading α} {decide : α → Except Fault β} {e : Exchange}

theorem through_done_iff {b : β} : reading.through decide e (.done b) ↔
    ∃ a, reading e (.done a) ∧ decide a = .ok b := by
  constructor
  · rintro ⟨o, ho, hb⟩
    obtain ⟨a, rfl, ha⟩ := Outcome.through_eq_done_iff.mp hb.symm
    exact ⟨a, ho, ha⟩
  · rintro ⟨a, ha, hb⟩
    exact ⟨.done a, ha, (Outcome.through_eq_done_iff.mpr ⟨a, rfl, hb⟩).symm⟩

theorem through_failed_iff {fault : Fault} : reading.through decide e (.failed fault) ↔
    reading e (.failed fault) ∨ ∃ a, reading e (.done a) ∧ decide a = .error fault := by
  constructor
  · rintro ⟨o, ho, hfailed⟩
    rcases Outcome.through_eq_failed_iff.mp hfailed.symm with rfl | ⟨a, rfl, ha⟩
    · exact .inl ho
    · exact .inr ⟨a, ho, ha⟩
  · rintro (hfailed | ⟨a, ha, herror⟩)
    · exact ⟨.failed fault, hfailed, rfl⟩
    · exact ⟨.done a, ha, (Outcome.through_eq_failed_iff.mpr (.inr ⟨a, rfl, herror⟩)).symm⟩

theorem returns_of_through (hreading : ∀ o, reading e o → o.returns = true)
    {o : Outcome Fault β} (h : reading.through decide e o) : o.returns = true := by
  obtain ⟨o', ho', rfl⟩ := h
  rw [Outcome.returns_through]
  exact hreading o' ho'

end Reading

/-- The run is a call, whenever and in whatever state of the network it is made. -/
def Calls (server : Server σ) (clock : Clock) (limit : Nat) (reading : Reading α)
    (x : Run (Net σ) Fault α) : Prop :=
  ∀ now net, Called server limit reading now net (x clock now net)

namespace Called

variable {server : Server σ} {limit : Nat} {reading : Reading α} {now : Nat} {net : Net σ}
  {step : Step (Net σ) Fault α} (h : Called server limit reading now net step)
include h

theorem exchanged : ∃ xs, Exchanges server net xs step.state ∧ xs.length ≤ 1 := by
  cases h with
  | @answered q _ _ _ _ _ => exact ⟨_, .single server net now q, Nat.le_refl 1⟩
  | unsent => exact ⟨[], .start, Nat.zero_le 1⟩

theorem elapsed_le : step.elapsed ≤ limit := by
  cases h with
  | answered _ quick _ => exact quick
  | unsent => exact Nat.zero_le _

end Called

namespace Calls

variable {server : Server σ} {clock : Clock} {limit : Nat} {reading : Reading α}
  {x : Run (Net σ) Fault α} (h : Calls server clock limit reading x)
include h

/-- What is made of the outcome of a call is a call again, if a value is only made of a value and
what no request was made for does not count as not found. -/
theorem becomes {y : Run (Net σ) Fault β} (g : Outcome Fault α → Outcome Fault β)
    (hy : ∀ now net, y clock now net =
      ⟨g (x clock now net).outcome, (x clock now net).state, (x clock now net).elapsed⟩)
    (hdone : ∀ o b, g o = .done b → ∃ a, o = .done a)
    (hfailed : ∀ fault, fault.isNotFound = false →
      ∃ other, g (.failed fault) = .failed other ∧ other.isNotFound = false) :
    Calls server clock limit (fun e o => ∃ o', reading e o' ∧ o = g o') y := by
  intro now net
  have hcalled := h now net
  rw [hy]
  rcases hstep : x clock now net with ⟨outcome, later, n⟩
  rw [hstep] at hcalled
  cases hcalled with
  | answered read quick prompt =>
      refine .answered ⟨_, read, rfl⟩ quick fun b hb => ?_
      obtain ⟨a, ha⟩ := hdone _ b hb
      exact prompt a ha
  | @unsent fault silent own =>
      obtain ⟨other, hother, hown⟩ := hfailed fault own
      rw [hother]
      refine .unsent ?_ hown
      rintro e o ⟨o', hread, -⟩
      exact silent e o' hread

theorem through (decide : α → Except Fault β) :
    Calls server clock limit (reading.through decide) (x >>= fun a => .ofExcept (decide a)) := by
  refine h.becomes (·.through decide) (fun now net => ?_) ?_ fun fault own => ⟨fault, rfl, own⟩
  · exact Run.bind_ofExcept_apply x decide clock now net
  · intro o b hb
    cases o with
    | done a => exact ⟨a, rfl⟩
    | failed fault => cases hb
    | panicked text => cases hb

theorem mapFault {f : Fault → Fault} (hf : ∀ fault, (f fault).isNotFound = fault.isNotFound) :
    Calls server clock limit (fun e o => ∃ o', reading e o' ∧ o = o'.mapFault f)
      (x.mapFault f) := by
  refine h.becomes (·.mapFault f) (fun now net => ?_) ?_ fun fault own => ?_
  · exact Run.mapFault_apply f x clock now net
  · intro o b hb
    cases o with
    | done a => exact ⟨a, rfl⟩
    | failed fault => cases hb
    | panicked text => cases hb
  · exact ⟨f fault, rfl, (hf fault).trans own⟩

theorem congr {reading' : Reading α} (hreading : ∀ x o, reading x o ↔ reading' x o) :
    Calls server clock limit reading' x := by
  intro now net
  have hcalled := h now net
  rcases hstep : x clock now net with ⟨outcome, later, n⟩
  rw [hstep] at hcalled
  cases hcalled with
  | answered read quick prompt => exact .answered ((hreading _ _).mp read) quick prompt
  | unsent silent own => exact .unsent (fun e o hread => silent e o ((hreading e o).mpr hread)) own

end Calls

/-- The run is a call that makes one kind of requests, and that comes to a value exactly if its
exchange shows that value. -/
def Yields (server : Server σ) (clock : Clock) (limit : Nat) (asks : Request → Prop)
    (shows : Exchange → α → Prop) (x : Run (Net σ) Fault α) : Prop :=
  ∃ reading : Reading α, Calls server clock limit reading x ∧ reading.Definite ∧
    (∀ q, reading.Asks q ↔ asks q) ∧ ∀ e a, reading e (.done a) ↔ shows e a

namespace Yields

variable {server : Server σ} {clock : Clock} {limit : Nat} {asks : Request → Prop}
  {shows : Exchange → α → Prop} {x : Run (Net σ) Fault α}
  (h : Yields server clock limit asks shows x)
include h

theorem through (decide : α → Except Fault β) :
    Yields server clock limit asks (fun e b => ∃ a, shows e a ∧ decide a = .ok b)
      (x >>= fun a => .ofExcept (decide a)) := by
  obtain ⟨reading, hcalls, hdefinite, hasks, hiff⟩ := h
  refine ⟨_, hcalls.through decide, hdefinite.becomes _, fun q => ?_, fun e b => ?_⟩
  · exact (Reading.asks_becomes_iff _).trans (hasks q)
  · rw [Reading.through_done_iff]
    simp only [hiff]

theorem congr {shows' : Exchange → α → Prop} (hshows : ∀ e a, shows e a ↔ shows' e a) :
    Yields server clock limit asks shows' x := by
  obtain ⟨reading, hcalls, hdefinite, hasks, hiff⟩ := h
  exact ⟨reading, hcalls, hdefinite, hasks, fun e a => (hiff e a).trans (hshows e a)⟩

theorem map (f : α → β) :
    Yields server clock limit asks (fun e b => ∃ a, shows e a ∧ f a = b)
    (x >>= fun a => pure (f a)) := by
  refine (h.through fun a => .ok (f a)).congr fun e b => ?_
  simp only [Except.ok.injEq]

theorem mapFault {f : Fault → Fault} (hf : ∀ fault, (f fault).isNotFound = fault.isNotFound) :
    Yields server clock limit asks shows (x.mapFault f) := by
  obtain ⟨reading, hcalls, hdefinite, hasks, hiff⟩ := h
  refine ⟨_, hcalls.mapFault hf, hdefinite.becomes _, fun q => ?_, fun e a => ?_⟩
  · exact (Reading.asks_becomes_iff _).trans (hasks q)
  · rw [← hiff]
    constructor
    · rintro ⟨o, ho, ha⟩
      rwa [Outcome.mapFault_eq_done_iff.mp ha.symm] at ho
    · exact fun ha => ⟨.done a, ha, rfl⟩

end Yields

/-- The run is a call that comes to a value exactly if its exchange shows that value, and that says
that something is not there exactly if its exchange misses it. -/
def Finds (server : Server σ) (clock : Clock) (limit : Nat) (shows : Exchange → α → Prop)
    (misses : Exchange → Prop) (x : Run (Net σ) Fault α) : Prop :=
  ∃ reading : Reading α, Calls server clock limit reading x ∧ reading.Definite ∧
    (∀ e a, reading e (.done a) ↔ shows e a) ∧
    ∀ e, (∃ text, reading e (.failed (.notFound text))) ↔ misses e

namespace Finds

variable {server : Server σ} {clock : Clock} {limit : Nat} {shows : Exchange → α → Prop}
  {misses : Exchange → Prop} {x : Run (Net σ) Fault α}
  (h : Finds server clock limit shows misses x)
include h

theorem map (f : α → β) :
    Finds server clock limit (fun e b => ∃ a, shows e a ∧ f a = b) misses
    (x >>= fun a => pure (f a)) := by
  obtain ⟨reading, hcalls, hdefinite, hshows, hmisses⟩ := h
  refine ⟨_, hcalls.through fun a => .ok (f a), hdefinite.becomes _, fun e b => ?_, fun e => ?_⟩
  · rw [Reading.through_done_iff]
    simp only [hshows, Except.ok.injEq]
  · rw [← hmisses]
    simp only [Reading.through_failed_iff, reduceCtorEq, and_false, exists_false, or_false]

theorem mapFault {f : Fault → Fault} (hf : ∀ fault, (f fault).isNotFound = fault.isNotFound)
    (hf' : ∀ fault text, f fault = .notFound text ↔ fault = .notFound text) :
    Finds server clock limit shows misses (x.mapFault f) := by
  obtain ⟨reading, hcalls, hdefinite, hshows, hmisses⟩ := h
  refine ⟨_, hcalls.mapFault hf, hdefinite.becomes _, fun e a => ?_, fun e => ?_⟩
  · rw [← hshows]
    constructor
    · rintro ⟨o, ho, ha⟩
      rwa [Outcome.mapFault_eq_done_iff.mp ha.symm] at ho
    · exact fun ha => ⟨.done a, ha, rfl⟩
  · rw [← hmisses]
    constructor
    · rintro ⟨text, o, ho, hfailed⟩
      obtain ⟨fault, rfl, hfault⟩ := Outcome.mapFault_eq_failed_iff.mp hfailed.symm
      rw [(hf' fault text).mp hfault] at ho
      exact ⟨text, ho⟩
    · rintro ⟨text, ho⟩
      exact ⟨text, _, ho, congrArg Outcome.failed ((hf' _ _).mpr rfl).symm⟩

end Finds

/-! ## Making a call -/

/-- How a run goes on from the head of an answer: it comes to what the reply says, and a value is
there at once. -/
structure Heeds (clock : Clock) (limit : Nat)
    (reads : String → Reply → Outcome Fault α → Prop)
    (read : Response → Run (Net σ) Fault α) : Prop where
  head : ∀ (r : Response) (url : String) (reply : Reply) (now : Nat) (net : Net σ),
    reply.delay < limit → reply.answer = .response r.status r.body r.ending →
      let step := read r clock now net
      step.state = net ∧ step.elapsed ≤ r.left ∧
        (∀ a, step.outcome = .done a → step.elapsed = 0) ∧
        reads url reply step.outcome
  lost : ∀ (url : String) (reply : Reply) (fault : Fault), reply.Lost url limit fault →
    reads url reply (.failed fault)

theorem Reply.Lost.of_late (url : String) (limit : Nat) (answer : Answer) :
    Reply.Lost url limit ⟨limit, answer⟩ (.transfer (.unanswered url)) where
  headless _ h := absurd h.1 (Nat.lt_irrefl limit)
  fails _ := .late (Nat.le_refl limit)

/-- Every request is read, because no reply to it may come in time. -/
theorem Heeds.asks_iff {clock : Clock} {limit : Nat}
    {reads : String → Reply → Outcome Fault α → Prop}
    {read : Response → Run (Net σ) Fault α}
    (h : Heeds clock limit reads read) {asks : Request → Prop} {q : Request} :
    Reading.Asks (fun x o => asks x.request ∧ reads x.request.url.text x.reply o) q ↔
      asks q := by
  constructor
  · rintro ⟨_, _, _, hasks, -⟩
    exact hasks
  · exact fun hasks => ⟨0, ⟨limit, .silence⟩, _, hasks, h.lost _ _ _ (.of_late _ _ _)⟩

theorem Reply.read_done_iff [Json.Wire α] {url : String} {limit : Nat} {reply : Reply} {a : α} :
    reply.Read url limit (.done a) ↔ reply.Carries limit a :=
  ⟨fun h => by cases h; assumption, .done⟩

theorem Reply.Carries.unique [Json.Wire α] {limit : Nat} {reply : Reply} {a b : α}
    (h : reply.Carries limit a) (h' : reply.Carries limit b) : a = b := by
  obtain ⟨-, _, body, hanswer, -, hbody⟩ := h
  obtain ⟨-, _, body', hanswer', -, hbody'⟩ := h'
  rw [hanswer] at hanswer'
  cases hanswer'
  rw [hbody] at hbody'
  cases hbody'
  rfl

theorem Reply.Heads.unique {limit : Nat} {reply : Reply} {status other : Status}
    (h : reply.Heads limit status) (h' : reply.Heads limit other) : status = other := by
  obtain ⟨-, _, _, hanswer⟩ := h
  obtain ⟨-, _, _, hanswer'⟩ := h'
  rw [hanswer] at hanswer'
  cases hanswer'
  rfl

theorem Reply.Read.unique [Json.Wire α] {url : String} {limit : Nat} {reply : Reply}
    {o o' : Outcome Fault α} (h : reply.Read url limit o) (h' : reply.Read url limit o') :
    o = o' := by
  cases h with
  | done h =>
      cases h' with
      | done h' => rw [h.unique h']
      | failed h' => exact absurd h' h.not_fails
  | failed h =>
      cases h' with
      | done h' => exact absurd h h'.not_fails
      | failed h' => rw [h.unique h']

theorem Reading.Definite.read [Json.Wire α] (asks : Request → Prop) (limit : Nat) :
    Reading.Definite fun x (o : Outcome Fault α) =>
      asks x.request ∧ x.reply.Read x.request.url.text limit o := by
  rintro x o o' ⟨-, h⟩ ⟨-, h'⟩
  exact h.unique h'

/-- How a reply is read of which only the status counts, whatever it is. -/
inductive Reply.Probed (url : String) (limit : Nat) (reply : Reply) :
    Outcome Fault Status → Prop where
  | head {status : Status} (h : reply.Heads limit status) : Probed url limit reply (.done status)
  | lost {fault : Fault} (h : reply.Lost url limit fault) : Probed url limit reply (.failed fault)

theorem Reading.Definite.probed (asks : Request → Prop) (limit : Nat) :
    Reading.Definite fun x o =>
      asks x.request ∧ x.reply.Probed x.request.url.text limit o := by
  rintro x o o' ⟨-, h⟩ ⟨-, h'⟩
  cases h with
  | head h =>
      cases h' with
      | head h' => rw [h.unique h']
      | lost h' => exact absurd h (h'.headless _)
  | lost h =>
      cases h' with
      | head h' => exact absurd h' (h.headless _)
      | lost h' => rw [(h.fails Wire.ErrorBody).unique (h'.fails Wire.ErrorBody)]

namespace Client

variable (c : Client σ) {clock : Clock}

/-- The request of a method for what a path names, if it can be made in the time there is. -/
structure Makes (method : Method) (edit : Url → Url) (body : Option String) (path : String)
    (q : Request) : Prop where
  made : ∃ u, c.url path = .ok u ∧ q = c.request method (edit u) body
  sendable : isSendable q.url = true
  inTime : c.limit.isZero = false

/-- The request that posts a value. -/
abbrev Posts [Json.Wire β] (path : String) (value : β) (q : Request) : Prop :=
  c.Makes .post id (some (Json.encode value)) path q

theorem method_request (method : Method) (u : Url) (body : Option String) :
    (c.request method u body).method = method := by
  unfold Client.request
  split <;> rfl

theorem makes_of_join (method : Method) (edit : Url → Url) (body : Option String) {path : String}
    {u : Url} (hjoin : c.base.join (Text.trimStart '/' path) = .ok u)
    (hplain : credentials? (edit u) = none) (hsendable : isSendable (edit u) = true)
    (hlimit : c.limit.isZero = false) :
    c.Makes method edit body path (c.request method (edit u) body) where
  made := by
    refine ⟨u, ?_, rfl⟩
    unfold Client.url
    rw [hjoin]
  sendable := by
    unfold Client.request
    rwa [hplain]
  inTime := hlimit

theorem Makes.step_eq {c : Client σ} {method : Method} {edit : Url → Url} {body : Option String}
    {path : String} {q : Request} (h : c.Makes method edit body path q)
    (read : Response → Run (Net σ) Fault α) (clock : Clock) (now : Nat) (net : Net σ) :
    (Run.ofExcept (c.url path) >>= fun u => c.send method (edit u) body >>= read) clock now net =
      (c.transmit q >>= read) clock now net := by
  obtain ⟨⟨u, hurl, rfl⟩, hsendable, -⟩ := h
  rw [hurl, Run.ofExcept_ok_bind]
  unfold send
  simp only [hsendable, if_true]

theorem makes_get_iff {path : String} {q : Request} :
    c.Makes .get id none path q ↔ c.Sends path q :=
  ⟨fun h => ⟨h.made, h.sendable, h.inTime⟩, fun h => ⟨h.asked, h.sendable, h.inTime⟩⟩

section

variable {reads : String → Reply → Outcome Fault α → Prop}
  {read : Response → Run (Net σ) Fault α}
  (hread : Heeds clock (clock.lasting c.limit.nanos) reads read)
include hread

/-- A request that is sent is one exchange, and the answer to it is heeded in time. -/
theorem transmit_called (hlimit : c.limit.isZero = false) {reading : Reading α} {q : Request}
    (hreading : ∀ now reply o, reads q.url.text reply o → reading ⟨now, q, reply⟩ o)
    (now : Nat) (net : Net σ) :
    Called c.server (clock.lasting c.limit.nanos) reading now net
      ((c.transmit q >>= read) clock now net) := by
  obtain ⟨hstate, hend⟩ := c.transmit_timed clock now net hlimit q
  rw [Run.bind_apply]
  rcases hstep : c.transmit q clock now net with ⟨outcome, later, n⟩
  rw [hstep] at hstate hend
  cases hstate
  rcases hend with ⟨fault, houtcome, hquick, hlost⟩ |
    ⟨r, houtcome, hdelay, hanswer, helapsed, hleft⟩
  · cases houtcome
    exact .answered (hreading _ _ _ (hread.lost _ _ _ hlost)) hquick nofun
  · cases houtcome
    obtain ⟨hstate, hquick, hprompt, hreads⟩ :=
      hread.head r q.url.text _ (now + n) _ hdelay hanswer
    simp only at helapsed ⊢
    rw [hstate]
    refine .answered (hreading _ _ _ hreads) ?_ fun a ha => ?_
    · omega
    · have hzero := hprompt a ha
      omega

theorem calls_of_heeds (method : Method) (edit : Url → Url) (body : Option String)
    (path : String) :
    Calls c.server clock (clock.lasting c.limit.nanos)
      (fun x o => c.Makes method edit body path x.request ∧ reads x.request.url.text x.reply o)
      (Run.ofExcept (c.url path) >>= fun u => c.send method (edit u) body >>= read) := by
  intro now net
  have hasked := c.asked clock now net method edit body path read
  generalize (Run.ofExcept (c.url path) >>= fun u =>
    c.send method (edit u) body >>= read) clock now net = step at hasked ⊢
  cases hasked with
  | unnamed hurl =>
      refine .unsent ?_ ?_
      · rintro x o ⟨⟨⟨u, hok, -⟩, -, -⟩, -⟩
        rw [hurl] at hok
        cases hok
      · obtain ⟨_, rfl⟩ := eq_url_of_url_eq_error hurl
        rfl
  | unsendable hurl hsendable =>
      -- The path names one request, and that is not the request of any exchange.
      refine .unsent ?_ rfl
      rintro x o ⟨⟨⟨u, hok, hq⟩, hsent, -⟩, -⟩
      rw [hurl] at hok
      cases hok
      rw [hq, hsendable] at hsent
      cases hsent
  | noTime hurl _ hlimit =>
      refine .unsent ?_ rfl
      rintro x o ⟨hx, -⟩
      have htime := hx.inTime
      rw [hlimit] at htime
      cases htime
  | @sent u hurl hsendable hlimit =>
      refine c.transmit_called hread hlimit (fun _ _ _ h => ⟨?_, h⟩) now net
      exact ⟨⟨u, hurl, rfl⟩, hsendable, hlimit⟩

end

section

variable (hclock : ∀ n, clock.lasting n ≤ n) {limit : Nat}
include hclock

theorem readValue_elapsed [Json.Wire α] (r : Response) (now : Nat) (net : Net σ) :
    let step : Step (Net σ) Fault α := readValue r clock now net
    step.elapsed ≤ r.left ∧ ∀ a, step.outcome = .done a → step.elapsed = 0 := by
  have hleft := hclock r.left
  unfold readValue requireSuccess
  cases isSuccess r.status with
  | true =>
      simp only [if_true, pure_bind]
      cases r.ending with
      | complete =>
          simp only
          cases (Json.decodeBytes r.body : Except Json.Fault α) with
          | ok a => exact ⟨Nat.zero_le _, fun _ _ => rfl⟩
          | error fault => exact ⟨Nat.zero_le _, nofun⟩
      | truncated => exact ⟨Nat.zero_le _, nofun⟩
      | stalled => exact ⟨hleft, nofun⟩
  | false =>
      simp only [Bool.false_eq_true, if_false]
      unfold readText
      cases r.ending with
      | complete => exact ⟨Nat.zero_le _, nofun⟩
      | truncated => exact ⟨Nat.zero_le _, nofun⟩
      | stalled => exact ⟨hleft, nofun⟩

theorem heeds_readValue [Json.Wire α] : Heeds clock limit
    (fun url reply (o : Outcome Fault α) => reply.Read url limit o)
    (readValue : Response → Run (Net σ) Fault α) where
  head r url reply now net hdelay hanswer := by
    obtain ⟨hstate, hread⟩ := readValue_read (α := α) clock now net r url hdelay hanswer
    obtain ⟨hquick, hprompt⟩ := readValue_elapsed (α := α) hclock r now net
    exact ⟨hstate, hquick, hprompt, hread⟩
  lost _ _ _ h := .failed (h.fails _)

theorem calls_get [Json.Wire α] (path : String) :
    Calls c.server clock (clock.lasting c.limit.nanos)
      (fun x (o : Outcome Fault α) => c.Sends path x.request ∧
        x.reply.Read x.request.url.text (clock.lasting c.limit.nanos) o)
      (c.get path : Run (Net σ) Fault α) := by
  refine (c.calls_of_heeds (heeds_readValue hclock) .get id none path).congr fun x o => ?_
  rw [makes_get_iff]

theorem yields_get [Json.Wire α] (path : String) :
    Yields c.server clock (clock.lasting c.limit.nanos) (c.Sends path)
      (fun x a => c.Sends path x.request ∧ x.reply.Carries (clock.lasting c.limit.nanos) a)
      (c.get path : Run (Net σ) Fault α) :=
  ⟨_, c.calls_get hclock path, .read _ _, fun _ => (heeds_readValue (σ := σ) hclock).asks_iff,
    fun _ _ => and_congr_right fun _ => Reply.read_done_iff⟩

theorem calls_post [Json.Wire α] [Json.Wire β] (path : String) (value : β) :
    Calls c.server clock (clock.lasting c.limit.nanos)
      (fun x (o : Outcome Fault α) => c.Posts path value x.request ∧
        x.reply.Read x.request.url.text (clock.lasting c.limit.nanos) o)
      (c.post path value : Run (Net σ) Fault α) :=
  c.calls_of_heeds (heeds_readValue hclock) .post id _ path

theorem yields_post [Json.Wire α] [Json.Wire β] (path : String) (value : β) :
    Yields c.server clock (clock.lasting c.limit.nanos) (c.Posts path value)
      (fun x a => c.Posts path value x.request ∧
        x.reply.Carries (clock.lasting c.limit.nanos) a)
      (c.post path value : Run (Net σ) Fault α) :=
  ⟨_, c.calls_post hclock path value, .read _ _,
    fun _ => (heeds_readValue (σ := σ) hclock).asks_iff,
    fun _ _ => and_congr_right fun _ => Reply.read_done_iff⟩

end

omit c in
theorem heeds_status (clock : Clock) {limit : Nat} : Heeds clock limit
    (fun url reply o => reply.Probed url limit o)
    (fun r => (pure r.status : Run (Net σ) Fault Status)) where
  head _ _ _ _ _ hdelay hanswer :=
    ⟨rfl, Nat.zero_le _, fun _ _ => rfl, .head ⟨hdelay, _, _, hanswer⟩⟩
  lost _ _ _ h := .lost h

theorem calls_probe (path : String) :
    Calls c.server clock (clock.lasting c.limit.nanos)
      (fun x o => c.Sends path x.request ∧
        x.reply.Probed x.request.url.text (clock.lasting c.limit.nanos) o)
      (c.probe path) := by
  refine (c.calls_of_heeds (heeds_status clock) .get id none path).congr fun x o => ?_
  rw [makes_get_iff]

theorem yields_probe (clock : Clock) (path : String) :
    Yields c.server clock (clock.lasting c.limit.nanos) (c.Sends path)
      (fun x status => c.Sends path x.request ∧
        x.reply.Heads (clock.lasting c.limit.nanos) status) (c.probe path) := by
  refine ⟨_, c.calls_probe path, .probed _ _,
    fun _ => (heeds_status (σ := σ) clock).asks_iff,
    fun x status => and_congr_right fun _ => ?_⟩
  exact ⟨fun h => by cases h; assumption, .head⟩

end Client

end Http

end Rollout
