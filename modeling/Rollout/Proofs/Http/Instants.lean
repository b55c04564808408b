import Rollout.Proofs.Http.Stories
/-!
# Instants

A call ends with its answer, the body included; a body that stalls is given up when the time for the
request is over. So the instant at which a run has come to something can be told from the last of
its exchanges, and the story of a run may go on from there with a deadline.
-/

namespace Rollout

open Time

variable {σ : Type} {α β : Type}

/-- An outcome that is due to an answer: a value, or that something is not there. -/
def Outcome.Heard : Outcome Fault α → Prop
  | .done _ => True
  | .failed fault => fault.isNotFound = true
  | .panicked _ => False

namespace Http

/-- The time until the rest of a reply is given up whose body stalls. -/
def Reply.lag (clock : Clock) (limit : Nat) (reply : Reply) : Nat :=
  match reply.answer with
  | .response _ _ .stalled => clock.lasting (limit - reply.delay)
  | _ => 0

/-- The instant at which an exchange is over. -/
def Exchange.over (clock : Clock) (limit : Nat) (x : Exchange) : Nat :=
  x.time + x.reply.delay + x.reply.lag clock limit

/-- The instant at which the last exchange is over, if there has been one since some instant. -/
def ended (clock : Clock) (limit now : Nat) (xs : List Exchange) : Nat :=
  (xs.getLast?.map (Exchange.over clock limit)).getD now

theorem ended_append (clock : Clock) (limit now : Nat) (xs ys : List Exchange) :
    ended clock limit now (xs ++ ys) = ended clock limit (ended clock limit now xs) ys := by
  unfold ended
  rw [List.getLast?_append]
  cases ys.getLast? with
  | none => rfl
  | some y => rfl

/-- Where there is an exchange it does not matter when the first one was to be made. -/
theorem ended_cons (clock : Clock) (limit now start : Nat) (x : Exchange) (xs : List Exchange) :
    ended clock limit now (x :: xs) = ended clock limit start (x :: xs) := by
  unfold ended
  rw [List.getLast?_cons]
  rfl

/-- A run that comes to something by its answers is over when the last of them is. -/
def Punctual (server : Server σ) (clock : Clock) (limit : Nat) (x : Run (Net σ) Fault α) :
    Prop :=
  ∀ now net, ∃ xs, Exchanges server net xs (x clock now net).state ∧
    ((x clock now net).outcome.Heard →
      now + (x clock now net).elapsed = ended clock limit now xs)

theorem Reply.Lost.not_notFound {url : String} {limit : Nat} {reply : Reply} {fault : Fault}
    (h : reply.Lost url limit fault) : fault.isNotFound = false := by
  have hheadless := h.headless 404
  cases h.fails Wire.ErrorBody with
  | notFound hdelay => exact absurd ⟨hdelay, _, _, rfl⟩ hheadless
  | _ => rfl

namespace Client

theorem readValue_elapsed_eq [Json.Wire α] (r : Response) (clock : Clock) (now : Nat)
    (net : Net σ) : ((readValue r : Run (Net σ) Fault α) clock now net).elapsed =
      match r.ending with
      | .stalled => clock.lasting r.left
      | _ => 0 := by
  unfold readValue requireSuccess
  cases isSuccess r.status with
  | true =>
      simp only [if_true, pure_bind]
      cases r.ending with
      | complete =>
          simp only
          cases (Json.decodeBytes r.body : Except Json.Fault α) <;> rfl
      | truncated => rfl
      | stalled => rfl
  | false =>
      simp only [Bool.false_eq_true, if_false]
      unfold readText
      cases r.ending with
      | complete => rfl
      | truncated => rfl
      | stalled => rfl

theorem punctual_readValue [Json.Wire α] (c : Client σ) (clock : Clock) (method : Method)
    (edit : Url → Url) (body : Option String) (path : String) :
    Punctual c.server clock (clock.lasting c.limit.nanos)
      (Run.ofExcept (c.url path) >>= fun u =>
        c.send method (edit u) body >>= (readValue : Response → Run (Net σ) Fault α)) := by
  intro now net
  have hasked := c.asked clock now net method edit body path
    (readValue : Response → Run (Net σ) Fault α)
  generalize (Run.ofExcept (c.url path) >>= fun u => c.send method (edit u) body >>=
    (readValue : Response → Run (Net σ) Fault α)) clock now net = step at hasked ⊢
  cases hasked with
  | unnamed hurl =>
      obtain ⟨_, rfl⟩ := eq_url_of_url_eq_error hurl
      exact ⟨[], .start, nofun⟩
  | unsendable => exact ⟨[], .start, nofun⟩
  | noTime => exact ⟨[], .start, nofun⟩
  | @sent u hurl hsendable hlimit =>
      obtain ⟨hstate, hend⟩ :=
        c.transmit_timed clock now net hlimit (c.request method (edit u) body)
      rw [Run.bind_apply]
      rcases hstep : c.transmit (c.request method (edit u) body) clock now net with
        ⟨outcome, later, n⟩
      rw [hstep] at hstate hend
      cases hstate
      rcases hend with
        ⟨fault, houtcome, -, hlost⟩ | ⟨r, houtcome, hdelay, hanswer, helapsed, hleft⟩
      · cases houtcome
        refine ⟨_, .single c.server net now _, fun hheard => ?_⟩
        change fault.isNotFound = true at hheard
        rw [hlost.not_notFound] at hheard
        cases hheard
      · cases houtcome
        obtain ⟨hstate, -⟩ := readValue_read (α := α) clock (now + n) _ r "" hdelay hanswer
        simp only at helapsed ⊢
        rw [hstate]
        refine ⟨_, .single c.server net now _, fun _ => ?_⟩
        rw [readValue_elapsed_eq, helapsed, Nat.eq_sub_of_add_eq' hleft]
        unfold ended Exchange.over Reply.lag
        simp only [List.getLast?_singleton, Option.map_some, Option.getD_some, hanswer]
        cases r.ending <;> exact (Nat.add_assoc _ _ _).symm

theorem punctual_get [Json.Wire α] (c : Client σ) (clock : Clock) (path : String) :
    Punctual c.server clock (clock.lasting c.limit.nanos) (c.get path : Run (Net σ) Fault α) :=
  c.punctual_readValue clock .get id none path

theorem punctual_delete [Json.Wire α] (c : Client σ) (clock : Clock) (path : String) :
    Punctual c.server clock (clock.lasting c.limit.nanos)
      (c.delete path true : Run (Net σ) Fault α) :=
  c.punctual_readValue clock .delete (·.withParameter "force" "true") none path

end Client

namespace Punctual

variable {server : Server σ} {clock : Clock} {limit : Nat}

theorem ofExcept (x : Except Fault α) :
    Punctual server clock limit (.ofExcept x : Run (Net σ) Fault α) := by
  intro now net
  cases x with
  | ok a => exact ⟨[], .start, fun _ => rfl⟩
  | error fault => exact ⟨[], .start, fun _ => rfl⟩

theorem pure (a : α) : Punctual server clock limit (Pure.pure a : Run (Net σ) Fault α) :=
  ofExcept (.ok a)

section

variable {x : Run (Net σ) Fault α} (h : Punctual server clock limit x)
include h

theorem bind {f : α → Run (Net σ) Fault β} (hf : ∀ a, Punctual server clock limit (f a)) :
    Punctual server clock limit (x >>= f) := by
  intro now net
  obtain ⟨xs, hxs, hfirst⟩ := h now net
  rw [Run.bind_apply]
  rcases hstep : x clock now net with ⟨a | fault | text, mid, n⟩ <;> rw [hstep] at hxs hfirst
  · obtain ⟨ys, hys, hsecond⟩ := hf a (now + n) mid
    refine ⟨xs ++ ys, hxs.append hys, fun hheard => ?_⟩
    have hmid : now + n = ended clock limit now xs := hfirst trivial
    calc now + (n + (f a clock (now + n) mid).elapsed)
        = now + n + (f a clock (now + n) mid).elapsed := (Nat.add_assoc _ _ _).symm
      _ = ended clock limit (now + n) ys := hsecond hheard
      _ = ended clock limit now (xs ++ ys) := by rw [ended_append, ← hmid]
  · exact ⟨xs, hxs, hfirst⟩
  · exact ⟨xs, hxs, hfirst⟩

theorem becomes {y : Run (Net σ) Fault β} (g : Outcome Fault α → Outcome Fault β)
    (hy : ∀ now net, y clock now net =
      ⟨g (x clock now net).outcome, (x clock now net).state, (x clock now net).elapsed⟩)
    (hg : ∀ o, (g o).Heard → o.Heard) : Punctual server clock limit y := by
  intro now net
  obtain ⟨xs, hxs, hover⟩ := h now net
  rw [hy]
  exact ⟨xs, hxs, fun hheard => hover (hg _ hheard)⟩

theorem found : Punctual server clock limit (found x) := by
  refine h.becomes foundOutcome (found_apply x clock) fun o hheard => ?_
  cases o with
  | done a => trivial
  | failed fault =>
      change fault.isNotFound = true
      by_contra hown
      simp only [foundOutcome, hown, if_false] at hheard
      exact hown hheard
  | panicked text => exact hheard

theorem mapFault {f : Fault → Fault} (hf : ∀ fault, (f fault).isNotFound = fault.isNotFound) :
    Punctual server clock limit (x.mapFault f) := by
  refine h.becomes (·.mapFault f) (Run.mapFault_apply f x clock) fun o hheard => ?_
  cases o with
  | done a => trivial
  | failed fault => exact (hf fault).symm.trans hheard
  | panicked text => exact hheard

end

theorem forEach {f : α → Run (Net σ) Fault Unit}
    (hf : ∀ item, Punctual server clock limit (f item)) (items : List α) :
    Punctual server clock limit (Run.forEach items f) := by
  induction items with
  | nil => exact pure ()
  | cons item rest ih => exact (hf item).bind fun _ => ih

end Punctual

/-- The run comes to a value exactly if its exchanges are the story, which depends on the instant at
which the run starts. -/
def TellsFrom (server : Server σ) (clock : Clock) (s : Nat → Story α)
    (x : Run (Net σ) Fault α) :
    Prop :=
  ∀ now net, ∃ xs, Exchanges server net xs (x clock now net).state ∧
    ∀ a, (x clock now net).outcome = .done a ↔ s now xs a

theorem Leads.bind_tellsFrom {server : Server σ} {clock : Clock} {limit : Nat} {s : Story α}
    {t : α → Nat → Story β} {x : Run (Net σ) Fault α} {f : α → Run (Net σ) Fault β}
    (hx : Leads server clock s x) (hpunctual : Punctual server clock limit x)
    (hf : ∀ a, TellsFrom server clock (t a) (f a)) :
    TellsFrom server clock (fun now zs b => ∃ xs a ys, zs = xs ++ ys ∧ s xs a ∧
      t a (ended clock limit now xs) ys b) (x >>= f) := by
  intro now net
  obtain ⟨xs, hxs, htold⟩ := hx.told now net
  obtain ⟨xs', hxs', hover⟩ := hpunctual now net
  obtain ⟨rfl, -⟩ := hxs.unique hxs' rfl
  rw [Run.bind_apply]
  rcases hstep : x clock now net with ⟨a | fault | text, mid, n⟩ <;>
    rw [hstep] at hxs htold hover
  · obtain ⟨ys, hys, hrest⟩ := hf a (now + n) mid
    have hmid : now + n = ended clock limit now xs := hover trivial
    refine ⟨xs ++ ys, hxs.append hys, fun b => (hrest b).trans ?_⟩
    rw [hmid]
    constructor
    · exact fun hb => ⟨xs, a, ys, rfl, htold, hb⟩
    · rintro ⟨us, a', vs, hsplit, hus, hvs⟩
      have hbegin : us <+: xs ++ ys := hsplit ▸ List.prefix_append us vs
      obtain ⟨rfl, rfl⟩ :=
        hx.definite _ _ _ _ _ hbegin (List.prefix_append xs ys) hus htold
      rwa [List.append_cancel_left hsplit]
  · refine ⟨xs, hxs, fun b => ⟨nofun, ?_⟩⟩
    rintro ⟨us, a, vs, rfl, hus, -⟩
    exact absurd hus (htold us a (List.prefix_append us vs))
  · refine ⟨xs, hxs, fun b => ⟨nofun, ?_⟩⟩
    rintro ⟨us, a, vs, rfl, hus, -⟩
    exact absurd hus (htold us a (List.prefix_append us vs))

end Http

end Rollout
