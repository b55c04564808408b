import Rollout.Proofs.Http.Calls
import Rollout.Proofs.Run.Invariant
/-!
# Polls

A wait that asks a server goes by the answers alone. The first answer that says more than "not yet"
decides it, whatever comes to pass in between, and no request follows that answer. If there is none,
the wait was in vain.
-/

namespace Rollout.Http

open Time

variable {σ : Type} {α β : Type}

/-! ## One request -/

/-- What becomes of a run that makes one request: its exchange is read, or something stands in the
way of the request. -/
inductive Replied (server : Server σ) (reading : Reading α) (obstacle : Fault → Prop)
    (now : Nat) (net : Net σ) : Step (Net σ) Fault α → Prop where
  | answered {q : Request} {outcome : Outcome Fault α} {n : Nat}
      (read : reading ⟨now, q, (server now q net.server).1⟩ outcome) :
      Replied server reading obstacle now net
        ⟨outcome, ⟨(server now q net.server).2, net.sent ++ [⟨now, q⟩]⟩, n⟩
  | unsent {fault : Fault} {n : Nat} (silent : ∀ x o, ¬ reading x o) (h : obstacle fault) :
      Replied server reading obstacle now net ⟨.failed fault, net, n⟩

/-- The run makes one request, whenever and in whatever state of the network. -/
def Replies (server : Server σ) (clock : Clock) (reading : Reading α) (obstacle : Fault → Prop)
    (x : Run (Net σ) Fault α) : Prop :=
  ∀ now net, Replied server reading obstacle now net (x clock now net)

theorem Calls.replies {server : Server σ} {clock : Clock} {limit : Nat} {reading : Reading α}
    {x : Run (Net σ) Fault α} (h : Calls server clock limit reading x) :
    Replies server clock reading (fun _ => True) x := by
  intro now net
  have hcalled := h now net
  rcases hstep : x clock now net with ⟨outcome, later, n⟩
  rw [hstep] at hcalled
  cases hcalled with
  | answered read _ _ => exact .answered read
  | unsent silent _ => exact .unsent silent trivial

theorem Replies.through {server : Server σ} {clock : Clock} {reading : Reading α}
    {obstacle : Fault → Prop} {x : Run (Net σ) Fault α}
    (h : Replies server clock reading obstacle x) (decide : α → Except Fault β) :
    Replies server clock (reading.through decide) obstacle
      (x >>= fun a => .ofExcept (decide a)) := by
  intro now net
  have hreplied := h now net
  rw [Run.bind_ofExcept_apply]
  rcases hstep : x clock now net with ⟨outcome, later, n⟩
  rw [hstep] at hreplied
  cases hreplied with
  | answered read => exact .answered ⟨_, read, rfl⟩
  | unsent silent h =>
      refine .unsent ?_ h
      rintro e o ⟨o', hread, -⟩
      exact silent e o' hread

namespace Client

/-- What stands first in the way of a request for what a path names. -/
inductive Hindered (c : Client σ) (path : String) : Fault → Prop where
  | url {fault : Fault} (h : c.url path = .error fault) : Hindered c path fault
  | unsendable {q : Request} (h : c.Asks path q) (hurl : isSendable q.url = false) :
      Hindered c path (.transfer (.unsendable q.url.text))
  | noTime {q : Request} (h : c.Asks path q) (hurl : isSendable q.url = true)
      (hlimit : c.limit.isZero = true) : Hindered c path (.transfer (.unanswered q.url.text))

theorem Hindered.unsent {c : Client σ} {path : String} {fault : Fault}
    (h : c.Hindered path fault) :
    c.Unsent path fault := by
  cases h with
  | url h => exact .url h
  | unsendable h hurl => exact .unsendable h hurl
  | noTime h _ hlimit => exact .noTime h hlimit

theorem Asks.unique {c : Client σ} {path : String} {q q' : Request} (h : c.Asks path q)
    (h' : c.Asks path q') : q = q' := by
  obtain ⟨u, hurl, rfl⟩ := h
  obtain ⟨u', hurl', rfl⟩ := h'
  rw [hurl] at hurl'
  cases hurl'
  rfl

theorem Hindered.unique {c : Client σ} {path : String} {fault other : Fault}
    (h : c.Hindered path fault) (h' : c.Hindered path other) : fault = other := by
  cases h with
  | url h =>
      cases h' with
      | url h' =>
          rw [h] at h'
          exact Except.error.inj h'
      | unsendable h' | noTime h' =>
          obtain ⟨u, hurl, -⟩ := h'
          rw [h] at hurl
          cases hurl
  | unsendable h hurl =>
      cases h' with
      | url h' =>
          obtain ⟨u, hok, -⟩ := h
          rw [h'] at hok
          cases hok
      | unsendable h' => rw [h.unique h']
      | noTime h' hurl' =>
          rw [h.unique h', hurl'] at hurl
          cases hurl
  | noTime h hurl =>
      cases h' with
      | url h' =>
          obtain ⟨u, hok, -⟩ := h
          rw [h'] at hok
          cases hok
      | unsendable h' hurl' =>
          rw [h.unique h', hurl'] at hurl
          cases hurl
      | noTime h' => rw [h.unique h']

variable (c : Client σ) (clock : Clock) (path : String)

theorem replies_of_reads (reads : String → Reply → Outcome Fault α → Prop)
    (read : Response → Run (Net σ) Fault α)
    (hhead : ∀ (r : Response) (url : String) (reply : Reply) (now : Nat) (net : Net σ),
      reply.delay < clock.lasting c.limit.nanos →
      reply.answer = .response r.status r.body r.ending →
        (read r clock now net).state = net ∧ reads url reply (read r clock now net).outcome)
    (hlost : ∀ (url : String) (reply : Reply) (fault : Fault),
      reply.Lost url (clock.lasting c.limit.nanos) fault → reads url reply (.failed fault)) :
    Replies c.server clock
      (fun x o => c.Sends path x.request ∧ reads x.request.url.text x.reply o) (c.Hindered path)
      (Run.ofExcept (c.url path) >>= fun u => c.send .get u none >>= read) := by
  intro now net
  have hsilent (fault : Fault) (h : c.Hindered path fault) (x : Exchange)
      (o : Outcome Fault α) : ¬ (c.Sends path x.request ∧ reads x.request.url.text x.reply o) :=
    fun hread => hread.1.not_unsent h.unsent
  suffices h : ∀ step, c.Asked clock now net .get id none path read step →
      Replied c.server (fun x o => c.Sends path x.request ∧ reads x.request.url.text x.reply o)
        (c.Hindered path) now net step from
    h _ (c.asked clock now net .get id none path read)
  intro step hasked
  cases hasked with
  | unnamed hurl =>
      have hhindered := Hindered.url hurl
      exact .unsent (hsilent _ hhindered) hhindered
  | unsendable hurl hsendable =>
      have hhindered := Hindered.unsendable ⟨_, hurl, rfl⟩ hsendable
      exact .unsent (hsilent _ hhindered) hhindered
  | noTime hurl hsendable hlimit =>
      have hhindered := Hindered.noTime ⟨_, hurl, rfl⟩ hsendable hlimit
      exact .unsent (hsilent _ hhindered) hhindered
  | @sent u hurl hsendable hlimit =>
      have hsends : c.Sends path (c.request .get (id u) none) :=
        ⟨⟨u, hurl, rfl⟩, hsendable, hlimit⟩
      obtain ⟨hstate, hend⟩ :=
        c.transmit_timed clock now net hlimit (c.request .get (id u) none)
      rw [Run.bind_apply]
      rcases hstep : c.transmit (c.request .get (id u) none) clock now net
        with ⟨outcome, later, n⟩
      rw [hstep] at hstate hend
      cases hstate
      rcases hend with ⟨fault, houtcome, -, hfault⟩ | ⟨r, houtcome, hdelay, hanswer, -, -⟩
      · cases houtcome
        exact .answered ⟨hsends, hlost _ _ _ hfault⟩
      · cases houtcome
        obtain ⟨hstate, hreads⟩ := hhead r _ _ (now + n) _ hdelay hanswer
        simp only
        rw [hstate]
        exact .answered ⟨hsends, hreads⟩

theorem replies_get [Json.Wire α] :
    Replies c.server clock (fun x (o : Outcome Fault α) => c.Sends path x.request ∧
        x.reply.Read x.request.url.text (clock.lasting c.limit.nanos) o)
      (c.Hindered path) (c.get path : Run (Net σ) Fault α) :=
  c.replies_of_reads clock path
    (fun url reply o => reply.Read url (clock.lasting c.limit.nanos) o) readValue
    (fun r url _ now net hdelay hanswer => readValue_read clock now net r url hdelay hanswer)
    fun _ _ _ h => .failed (h.fails _)

theorem replies_probe :
    Replies c.server clock (fun x o => c.Sends path x.request ∧
        x.reply.Probed x.request.url.text (clock.lasting c.limit.nanos) o)
      (c.Hindered path) (c.probe path) :=
  c.replies_of_reads clock path
    (fun url reply o => reply.Probed url (clock.lasting c.limit.nanos) o) (fun r => pure r.status)
    (fun _ _ _ _ _ hdelay hanswer => ⟨rfl, .head ⟨hdelay, _, _, hanswer⟩⟩)
    fun _ _ _ h => .lost h

end Client

/-! ## Rounds of requests -/

/-- The exchanges of a wait for a condition in order: it holds in none but the last of them. -/
inductive Polled (reading : Reading Bool) : List Exchange → Outcome Fault Bool → Prop where
  | last {x : Exchange} {o : Outcome Fault Bool} (h : reading x o) : Polled reading [x] o
  | again {x : Exchange} {xs : List Exchange} {o : Outcome Fault Bool}
      (h : reading x (.done false)) (rest : Polled reading xs o) : Polled reading (x :: xs) o

/-- The first exchange that is not of one kind is of another. -/
def Turns (still next : Exchange → Prop) (xs : List Exchange) : Prop :=
  ∃ before x after, xs = before ++ x :: after ∧ (∀ y ∈ before, still y) ∧ next x

namespace Polled

variable {reading : Reading Bool} {xs : List Exchange} {o : Outcome Fault Bool}

theorem split (h : Polled reading xs o) :
    ∃ ys x, xs = ys ++ [x] ∧ (∀ y ∈ ys, reading y (.done false)) ∧ reading x o := by
  induction h with
  | @last x o h => exact ⟨[], x, rfl, fun y hy => absurd hy List.not_mem_nil, h⟩
  | @again x xs o h rest ih =>
      obtain ⟨ys, last, rfl, hys, hlast⟩ := ih
      exact ⟨x :: ys, last, rfl, List.forall_mem_cons.mpr ⟨h, hys⟩, hlast⟩

theorem concat {x : Exchange} (hxs : ∀ y ∈ xs, reading y (.done false)) (hx : reading x o) :
    Polled reading (xs ++ [x]) o := by
  induction xs with
  | nil => exact .last hx
  | cons y ys ih =>
      obtain ⟨hy, hys⟩ := List.forall_mem_cons.mp hxs
      exact .again hy (ih hys)

theorem ne_nil (h : Polled reading xs o) : xs ≠ [] := by
  cases h <;> exact List.cons_ne_nil _ _

theorem read (h : Polled reading xs o) : ∀ x ∈ xs, ∃ o', reading x o' := by
  obtain ⟨ys, last, rfl, hys, hlast⟩ := h.split
  intro x hx
  rcases List.mem_append.mp hx with hearlier | hx
  · exact ⟨_, hys x hearlier⟩
  · exact ⟨o, List.mem_singleton.mp hx ▸ hlast⟩

theorem unmet (h : Polled reading xs (.done false)) : ∀ x ∈ xs, reading x (.done false) := by
  obtain ⟨ys, last, rfl, hys, hlast⟩ := h.split
  intro x hx
  rcases List.mem_append.mp hx with hearlier | hx
  · exact hys x hearlier
  · rwa [List.mem_singleton.mp hx]

variable (hdefinite : reading.Definite) (h : Polled reading xs o)
include hdefinite h

theorem not_met (ho : o ≠ .done true) : ∀ x ∈ xs, ¬ reading x (.done true) := by
  obtain ⟨ys, last, rfl, hys, hlast⟩ := h.split
  intro x hx htrue
  rcases List.mem_append.mp hx with hearlier | hx
  · cases hdefinite x _ _ (hys x hearlier) htrue
  · rw [List.mem_singleton.mp hx] at htrue
    exact ho (hdefinite last _ _ hlast htrue)

theorem eq_unmet (hall : ∀ x ∈ xs, reading x (.done false)) : o = .done false := by
  obtain ⟨ys, last, rfl, -, hlast⟩ := h.split
  exact hdefinite last _ _ hlast (hall last (List.mem_append_right _ (List.mem_singleton_self _)))

theorem eq_iff_turns {o' : Outcome Fault Bool} (ho' : o' ≠ .done false) :
    o = o' ↔ Turns (reading · (.done false)) (reading · o') xs := by
  constructor
  · rintro rfl
    obtain ⟨ys, last, rfl, hys, hlast⟩ := h.split
    exact ⟨ys, last, [], rfl, hys, hlast⟩
  · rintro ⟨before, x, after, hxs, hbefore, hx⟩
    -- Along the exchanges: the first one of another kind is met where the wait ends, not before.
    induction h generalizing before with
    | last h =>
        cases before with
        | nil =>
            cases hxs
            exact hdefinite _ _ _ h hx
        | cons b before =>
            have hnil := (List.append_eq_nil_iff.mp (List.cons.inj hxs).2.symm).2
            cases hnil
    | again h rest ih =>
        cases before with
        | nil =>
            cases hxs
            exact absurd (hdefinite _ _ _ hx h) ho'
        | cons b before =>
            obtain ⟨rfl, htail⟩ := List.cons.inj hxs
            exact ih before htail (List.forall_mem_cons.mp hbefore).2

end Polled

section

variable {server : Server σ} {clock : Clock} {reading : Reading Bool} {obstacle : Fault → Prop}
  {condition : Run (Net σ) Fault Bool} (h : Replies server clock reading obstacle condition)
include h

theorem evaluation_polled (now : Nat) (net : Net σ) :
    let step := Run.met condition clock now net
    (∃ q, Exchanges server net [⟨now, q, (server now q net.server).1⟩] step.state ∧
        reading ⟨now, q, (server now q net.server).1⟩
          (step.outcome.through fun o => .ok o.isSome)) ∨
      Exchanges server net [] step.state ∧ (∀ x o, ¬ reading x o) ∧
        ∃ fault, obstacle fault ∧ step.outcome = .failed fault := by
  have hreplied := h now net
  have hmet : Run.met condition clock now net = _ :=
    Run.bind_ofExcept_apply condition (fun b => .ok (if b then some () else none)) clock now net
  rw [hmet]
  rcases hstep : condition clock now net with ⟨outcome, later, n⟩
  rw [hstep] at hreplied
  cases hreplied with
  | @answered q _ _ read =>
      refine .inl ⟨q, .single server net now q, ?_⟩
      cases outcome with
      | done b => cases b <;> exact read
      | failed fault => exact read
      | panicked text => exact read
  | unsent silent h => exact .inr ⟨.start, silent, _, h, rfl⟩

theorem rounds_polled {interval deadline now : Nat} {net : Net σ}
    {es : List (Run.Evaluation (Net σ) Fault Unit)}
    (hrounds : Run.Rounds (Run.met condition) clock interval deadline now net es)
    {e : Run.Evaluation (Net σ) Fault Unit} (hlast : es.getLast? = some e) :
    ∃ xs, Exchanges server net xs e.step.state ∧ (∀ x ∈ xs.head?, x.time = now) ∧
      (∀ x ∈ xs, ∃ e' ∈ es, x.time = e'.start) ∧
      (Polled reading xs (e.step.outcome.through fun o => .ok o.isSome) ∨
        xs = [] ∧ (∀ x o, ¬ reading x o) ∧
          ∃ fault, obstacle fault ∧ e.step.outcome = .failed fault) := by
  -- Along the rounds: all but the last have been answered, since they have left the wait going.
  induction hrounds with
  | @last now net closed =>
      cases hlast
      rcases evaluation_polled h now net with ⟨q, hx, hread⟩ | ⟨hx, hsilent, hfailed⟩
      · refine ⟨_, hx, ?_, ?_, .inl (.last hread)⟩
        · exact fun x hx => by cases hx; rfl
        · rw [List.forall_mem_singleton]
          exact ⟨_, List.mem_singleton_self _, rfl⟩
      · refine ⟨[], hx, ?_, ?_, .inr ⟨rfl, hsilent, hfailed⟩⟩
        · exact fun x hx => by cases hx
        · exact fun x hx => absurd hx List.not_mem_nil
  | @again now net rest goesOn later ih =>
      have hrest : rest.getLast? = some e := by
        rwa [List.getLast?_cons_of_ne_nil later.ne_nil] at hlast
      obtain ⟨ys, hys, -, htimes, hpolled⟩ := ih hrest
      have hnone : (Run.met condition clock now net).outcome = .done none := goesOn.1
      rcases evaluation_polled h now net with ⟨q, hx, hread⟩ | ⟨-, -, fault, -, hfailed⟩
      · rw [hnone] at hread
        refine ⟨_, hx.append hys, ?_, ?_, ?_⟩
        · exact fun x hx => by cases hx; rfl
        · rw [List.singleton_append, List.forall_mem_cons]
          refine ⟨⟨_, List.mem_cons_self, rfl⟩, fun x hx => ?_⟩
          obtain ⟨e', he', htime⟩ := htimes x hx
          exact ⟨e', List.mem_cons_of_mem _ he', htime⟩
        · rcases hpolled with hpolled | ⟨-, hsilent, -⟩
          · exact .inl (.again hread hpolled)
          · exact absurd hread (hsilent _ _)
      · rw [hnone] at hfailed
        cases hfailed

/-- A wait whose deadline is an instant is told by its exchanges, or something stands in the way of
its first request. -/
theorem Replies.awaitUntil {p : Patience} (hp : 0 < p.interval.nanos) {now : Nat}
    (hdeadline : now + p.timeout.nanos < instantLimit) (net : Net σ) :
    let step := Run.awaitUntil p condition clock now net
    ∃ xs, Exchanges server net xs step.state ∧ (∀ x ∈ xs.head?, x.time = now) ∧
      ((∀ n, clock.lasting n ≤ n) → ∀ x ∈ xs, x.time ≤ now + p.timeout.nanos) ∧
      (Polled reading xs step.outcome ∨
        xs = [] ∧ ∃ fault, obstacle fault ∧ step.outcome = .failed fault) := by
  have happly : Run.awaitUntil p condition clock now net = _ :=
    Run.bind_ofExcept_apply (Run.pollUntil p (Run.met condition)) (fun o => .ok o.isSome) clock now
      net
  obtain ⟨es, e, hrounds, hlast, hpoll⟩ :=
    Run.pollUntil_rounds (Run.met condition) clock hp hdeadline net
  obtain ⟨xs, hxs, hfirst, htimes, hend⟩ := rounds_polled h hrounds hlast
  rw [happly, hpoll]
  refine ⟨xs, hxs, hfirst, ?_, ?_⟩
  · intro hclock x hx
    obtain ⟨e', he', htime⟩ := htimes x hx
    rw [htime]
    exact hrounds.start_le hclock (Nat.le_add_right now _) he'
  · rcases hend with hpolled | ⟨hnil, -, fault, hobstacle, hfailed⟩
    · exact .inl hpolled
    · refine .inr ⟨hnil, fault, hobstacle, ?_⟩
      change e.step.outcome.through _ = _
      rw [hfailed]
      rfl

/-- A wait that returns is told by its exchanges, whatever its pauses and its deadline. -/
theorem Replies.awaitUntil_of_returns {p : Patience} {now : Nat} {net : Net σ}
    (hreturns : (Run.awaitUntil p condition clock now net).outcome.returns = true) :
    let step := Run.awaitUntil p condition clock now net
    ∃ xs, Exchanges server net xs step.state ∧ (Polled reading xs step.outcome ∨
      xs = [] ∧ ∃ fault, obstacle fault ∧ step.outcome = .failed fault) := by
  have happly : Run.awaitUntil p condition clock now net = _ :=
    Run.bind_ofExcept_apply (Run.pollUntil p (Run.met condition)) (fun o => .ok o.isSome) clock now
      net
  have rule : Run.WaitRule (Run.met condition) clock
      (fun _ t => ∃ xs, Exchanges server net xs t ∧ ∀ x ∈ xs, reading x (.done false))
      (fun o _ t => o.returns = true → ∃ xs, Exchanges server net xs t ∧
        (Polled reading xs (o.through fun a => .ok a.isSome) ∨
          xs = [] ∧ ∃ fault, obstacle fault ∧ o = .failed fault)) := by
    refine ⟨?_, ?_⟩
    · rintro now t ⟨xs, hxs, hunmet⟩ -
      rcases evaluation_polled h now t
        with ⟨q, hx, hread⟩ | ⟨hx, hsilent, fault, hfault, hfailed⟩
      · exact ⟨_, hxs.append hx, .inl (.concat hunmet hread)⟩
      · cases xs with
        | nil => exact ⟨[], hxs.append hx, .inr ⟨rfl, fault, hfault, hfailed⟩⟩
        | cons x xs => exact absurd (hunmet x List.mem_cons_self) (hsilent _ _)
    · rintro now t ⟨xs, hxs, hunmet⟩ hnone _ -
      rcases evaluation_polled h now t with ⟨q, hx, hread⟩ | ⟨-, -, fault, -, hfailed⟩
      · rw [hnone] at hread
        refine ⟨_, hxs.append hx, fun x hmem => ?_⟩
        rcases List.mem_append.mp hmem with hearlier | hlast
        · exact hunmet x hearlier
        · rwa [List.mem_singleton.mp hlast]
      · rw [hnone] at hfailed
        cases hfailed
  rw [happly] at hreturns ⊢
  change (Outcome.through _ _).returns = true at hreturns
  rw [Outcome.returns_through] at hreturns
  obtain ⟨xs, hxs, hend⟩ := rule.post_of_pollUntil p ⟨[], .start, fun x hx => by cases hx⟩
    (fun _ => nofun) (fun _ _ _ _ _ => nofun) hreturns
  refine ⟨xs, hxs, hend.imp id ?_⟩
  rintro ⟨hnil, fault, hfault, hfailed⟩
  exact ⟨hnil, fault, hfault, by rw [hfailed]; rfl⟩

end

/-! ## Decisions -/

/-- What a wait comes to by its exchanges: `yes` or a fault by the first one in which something has
changed, and `no` if nothing has. Nothing is exchanged after that one. -/
structure Decided (still met : Exchange → Prop) (fails : Exchange → Fault → Prop)
    (obstacle : Fault → Prop) (yes no : Outcome Fault α) (xs : List Exchange)
    (o : Outcome Fault α) : Prop where
  earlier : ∀ x ∈ xs.dropLast, still x
  met_iff : o = yes ↔ Turns still met xs
  unmet_iff : o = no ↔ xs ≠ [] ∧ ∀ x ∈ xs, still x
  failed_iff : ∀ fault, no ≠ .failed fault →
    (o = .failed fault ↔ Turns still (fails · fault) xs ∨ xs = [] ∧ obstacle fault)
  returns : o.returns = true

theorem Turns.last {still next : Exchange → Prop} {xs : List Exchange} (h : Turns still next xs)
    (hearlier : ∀ x ∈ xs.dropLast, still x) (hne : ∀ x, still x → ¬ next x) :
    ∃ ys x, xs = ys ++ [x] ∧ (∀ y ∈ ys, still y) ∧ next x := by
  obtain ⟨before, x, after, rfl, hbefore, hx⟩ := h
  cases after with
  | nil => exact ⟨before, x, rfl, hbefore, hx⟩
  | cons y after =>
      have hmem : x ∈ (before ++ x :: y :: after).dropLast := by
        rw [List.dropLast_append_of_ne_nil (List.cons_ne_nil _ _), List.dropLast_cons_cons]
        exact List.mem_append_right _ List.mem_cons_self
      exact absurd hx (hne x (hearlier x hmem))

theorem not_turns_nil {still next : Exchange → Prop} : ¬ Turns still next [] := by
  rintro ⟨before, x, after, hnil, -⟩
  cases (List.append_eq_nil_iff.mp hnil.symm).2

section

variable {still met : Exchange → Prop} {fails : Exchange → Fault → Prop}
  {obstacle : Fault → Prop}

theorem Decided.congr {still' met' : Exchange → Prop} {fails' : Exchange → Fault → Prop}
    {yes no o : Outcome Fault α} {xs : List Exchange}
    (h : Decided still met fails obstacle yes no xs o) (hstill : ∀ x, still x ↔ still' x)
    (hmet : ∀ x, met x ↔ met' x) (hfails : ∀ x fault, fails x fault ↔ fails' x fault) :
    Decided still' met' fails' obstacle yes no xs o := by
  have hstill' : still = still' := funext fun x => propext (hstill x)
  have hmet' : met = met' := funext fun x => propext (hmet x)
  have hfails' : fails = fails' := funext fun x => funext fun fault => propext (hfails x fault)
  rwa [hstill', hmet', hfails'] at h

theorem Decided.through {xs : List Exchange} {o : Outcome Fault Bool}
    (h : Decided still met fails obstacle (.done true) (.done false) xs o)
    (decide : Bool → Except Fault α) {a : α} {late : Fault} (htrue : decide true = .ok a)
    (hfalse : decide false = .error late) (hfails : ∀ x, ¬ fails x late)
    (hobstacle : ¬ obstacle late) :
    Decided still met fails obstacle (.done a) (.failed late) xs (o.through decide) := by
  have hlate : o ≠ .failed late := by
    intro ho
    rcases (h.failed_iff late nofun).mp ho with ⟨_, x, _, -, -, hx⟩ | ⟨-, hfault⟩
    · exact hfails x hx
    · exact hobstacle hfault
  exact {
    earlier := h.earlier
    met_iff := by
      rw [← h.met_iff, Outcome.through_eq_done_iff]
      constructor
      · rintro ⟨b, rfl, hb⟩
        cases b with
        | true => rfl
        | false =>
            rw [hfalse] at hb
            cases hb
      · exact fun ho => ⟨true, ho, htrue⟩
    unmet_iff := by
      rw [← h.unmet_iff, Outcome.through_eq_failed_iff]
      constructor
      · rintro (ho | ⟨b, rfl, hb⟩)
        · exact absurd ho hlate
        · cases b with
          | true =>
              rw [htrue] at hb
              cases hb
          | false => rfl
      · exact fun ho => .inr ⟨false, ho, hfalse⟩
    failed_iff := by
      intro fault hfault
      rw [← h.failed_iff fault nofun, Outcome.through_eq_failed_iff]
      constructor
      · rintro (ho | ⟨b, rfl, hb⟩)
        · exact ho
        · cases b with
          | true =>
              rw [htrue] at hb
              cases hb
          | false =>
              rw [hfalse] at hb
              cases hb
              exact absurd rfl hfault
      · exact .inl
    returns := by
      rw [Outcome.returns_through]
      exact h.returns }

/-- Where no exchange is out of time by itself, a wait is if nothing has changed in any exchange. -/
theorem Decided.timeout_iff {yes o : Outcome Fault α} {late : String} {xs : List Exchange}
    (h : Decided still met fails obstacle yes (.failed (.timeout late)) xs o)
    (hfails : ∀ x text, ¬ fails x (.timeout text))
    (hobstacle : ∀ text, ¬ obstacle (.timeout text)) :
    (∃ text, o = .failed (.timeout text)) ↔ xs ≠ [] ∧ ∀ x ∈ xs, still x := by
  rw [← h.unmet_iff]
  constructor
  · rintro ⟨text, ho⟩
    by_cases hlate : late = text
    · rwa [hlate]
    · have hother : (.failed (.timeout late) : Outcome Fault α) ≠ .failed (.timeout text) :=
        fun heq => hlate (Fault.timeout.inj (Outcome.failed.inj heq))
      rcases (h.failed_iff _ hother).mp ho with ⟨_, x, _, -, -, hx⟩ | ⟨-, hfault⟩
      · exact absurd hx (hfails x text)
      · exact absurd hfault (hobstacle text)
  · exact fun ho => ⟨late, ho⟩

variable {reading : Reading Bool}

theorem Decided.of_polled (hdefinite : reading.Definite)
    (hreturns : ∀ x o, reading x o → o.returns = true)
    (hunique : ∀ fault other, obstacle fault → obstacle other → fault = other)
    {xs : List Exchange} {o : Outcome Fault Bool}
    (h : Polled reading xs o ∨ xs = [] ∧ ∃ fault, obstacle fault ∧ o = .failed fault) :
    (∀ x ∈ xs, ∃ o, reading x o) ∧
      Decided (reading · (.done false)) (reading · (.done true)) (fun x fault =>
        reading x (.failed fault)) obstacle (.done true) (.done false) xs o := by
  rcases h with hpolled | ⟨rfl, fault, hfault, rfl⟩
  · refine ⟨hpolled.read, ?_⟩
    have hdecides (o' : Outcome Fault Bool) (ho' : o' ≠ .done false) :=
      hpolled.eq_iff_turns hdefinite ho'
    obtain ⟨ys, last, hsplit, hys, hlast⟩ := hpolled.split
    exact {
      earlier := by rwa [hsplit, List.dropLast_concat]
      met_iff := hdecides (.done true) nofun
      unmet_iff := by
        constructor
        · intro ho
          rw [ho] at hpolled
          exact ⟨hpolled.ne_nil, hpolled.unmet⟩
        · exact fun hall => hpolled.eq_unmet hdefinite hall.2
      failed_iff := by
        intro fault _
        rw [hdecides (.failed fault) nofun]
        exact (or_iff_left fun (hnone : xs = [] ∧ _) => hpolled.ne_nil hnone.1).symm
      returns := hreturns last _ hlast }
  · refine ⟨fun x hx => absurd hx List.not_mem_nil, ?_⟩
    exact {
      earlier := fun x hx => absurd hx List.not_mem_nil
      met_iff := ⟨nofun, fun hturns => absurd hturns not_turns_nil⟩
      unmet_iff := ⟨nofun, fun hmade => absurd rfl hmade.1⟩
      failed_iff := by
        intro other _
        constructor
        · intro heq
          cases heq
          exact .inr ⟨rfl, hfault⟩
        · rintro (hturns | ⟨-, hother⟩)
          · exact absurd hturns not_turns_nil
          · rw [hunique fault other hfault hother]
      returns := rfl }

variable {server : Server σ} {clock : Clock} {condition : Run (Net σ) Fault Bool}

/-- A wait for a condition is decided by its exchanges, all of which are made by the deadline. -/
theorem Replies.awaitUntil_decided (h : Replies server clock reading obstacle condition)
    (hdefinite : reading.Definite) (hreturns : ∀ x o, reading x o → o.returns = true)
    (hunique : ∀ fault other, obstacle fault → obstacle other → fault = other)
    {p : Patience} (hp : 0 < p.interval.nanos) {now : Nat}
    (hdeadline : now + p.timeout.nanos < instantLimit) (net : Net σ) :
    let step := Run.awaitUntil p condition clock now net
    ∃ xs, Exchanges server net xs step.state ∧ (∀ x ∈ xs, ∃ o, reading x o) ∧
      ((∀ n, clock.lasting n ≤ n) → ∀ x ∈ xs, x.time ≤ now + p.timeout.nanos) ∧
      Decided (reading · (.done false)) (reading · (.done true)) (fun x fault =>
        reading x (.failed fault)) obstacle (.done true) (.done false) xs step.outcome := by
  obtain ⟨xs, hxs, -, htimes, hend⟩ := h.awaitUntil hp hdeadline net
  obtain ⟨hread, hdecided⟩ := Decided.of_polled hdefinite hreturns hunique hend
  exact ⟨xs, hxs, hread, htimes, hdecided⟩

end

end Rollout.Http
