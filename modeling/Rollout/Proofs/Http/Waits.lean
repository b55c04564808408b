import Rollout.Proofs.Http.Calls
import Rollout.Proofs.Run.Returns
/-!
# Waits over a network

A check that asks a server makes one exchange at most and takes no longer than the time for a
request. A wait for it therefore ends: pauses that last make its rounds few, the last of them starts
by the deadline, and only time that has run out ends it without a value or a fault.
-/

namespace Rollout

open Time

namespace Time.Clock

/-- The clock cuts sleeps short that are to last longer than `longest`. Other sleeps last as long as
they are meant to. -/
structure CutsAt (clock : Clock) (longest : Nat) : Prop where
  pos : 0 < longest
  lasting_le : ∀ n, clock.lasting n ≤ n
  le_lasting : ∀ n, min n longest ≤ clock.lasting n

theorem limited_cutsAt (longest : Nat) (h : 0 < longest) : (limited longest h).CutsAt longest where
  pos := h
  lasting_le n := Nat.min_le_left n longest
  le_lasting _ := Nat.le_refl _

theorem usual_cutsAt : usual.CutsAt thirtyYears := limited_cutsAt thirtyYears (by decide)

end Time.Clock

namespace Http

variable {σ τ ε α β : Type}

/-- Wherever the run starts, it returns in time and makes one exchange at most. The network is the
part of its state that `view` shows. -/
structure Brief (server : Server σ) (clock : Clock) (limit : Nat) (view : τ → Net σ)
    (x : Run τ ε α) : Prop where
  returns : ∀ now s, (x clock now s).outcome.returns = true
  elapsed_le : ∀ now s, (x clock now s).elapsed ≤ limit
  exchanged : ∀ now s, ∃ xs, Exchanges server (view s) xs (view (x clock now s).state) ∧
    xs.length ≤ 1

theorem Calls.brief {server : Server σ} {clock : Clock} {limit longer : Nat} {reading : Reading α}
    {x : Run (Net σ) Fault α} (h : Calls server clock limit reading x) (hle : limit ≤ longer)
    (hreturns : Run.Returns x) : Brief server clock longer id x where
  returns := hreturns clock
  elapsed_le now net := Nat.le_trans (h now net).elapsed_le hle
  exchanged now net := (h now net).exchanged

variable {server : Server σ} {clock : Clock} {limit : Nat} {view : τ → Net σ}

theorem Brief.through {x : Run τ ε α} (h : Brief server clock limit view x)
    (decide : α → Except ε β) :
    Brief server clock limit view (x >>= fun a => .ofExcept (decide a)) where
  returns now s := by
    rw [Run.bind_ofExcept_apply, Outcome.returns_through]
    exact h.returns now s
  elapsed_le now s := by
    rw [Run.bind_ofExcept_apply]
    exact h.elapsed_le now s
  exchanged now s := by
    rw [Run.bind_ofExcept_apply]
    exact h.exchanged now s

theorem Brief.map {x : Run τ ε α} (h : Brief server clock limit view x) (f : α → β) :
    Brief server clock limit view (x >>= fun a => pure (f a)) :=
  h.through fun a => .ok (f a)

/-- Brief checks in a row make one exchange each at most. -/
theorem rounds_exchanged {check : Run τ ε (Option α)} (h : Brief server clock limit view check)
    {interval deadline now : Nat} {s : τ} {es : List (Run.Evaluation τ ε α)}
    (hrounds : Run.Rounds check clock interval deadline now s es) {e : Run.Evaluation τ ε α}
    (hlast : es.getLast? = some e) :
    ∃ xs, Exchanges server (view s) xs (view e.step.state) ∧ xs.length ≤ es.length := by
  induction hrounds with
  | @last now s closed =>
      cases hlast
      exact h.exchanged now s
  | @again now s rest goesOn later ih =>
      obtain ⟨xs, hxs, hone⟩ := h.exchanged now s
      have hrest : rest.getLast? = some e := by
        rwa [List.getLast?_cons_of_ne_nil later.ne_nil] at hlast
      obtain ⟨ys, hys, hlength⟩ := ih hrest
      refine ⟨xs ++ ys, hxs.append hys, ?_⟩
      rw [List.length_append, List.length_cons]
      omega

/-- How a wait ends that starts in some state: it returns, after one exchange at most for each pause
that it has begun and one more, and no later than a request that starts at the deadline. If it is
`late`, the whole time has passed. -/
structure WaitEnds (server : Server σ) (view : τ → Net σ) (timeout limit pause : Nat)
    (late : Outcome ε α → Prop) (s : τ) (step : Step τ ε α) : Prop where
  returns : step.outcome.returns = true
  exchanged : ∃ xs, Exchanges server (view s) xs (view step.state) ∧
    xs.length ≤ (timeout + (pause - 1)) / pause + 1
  elapsed_le : step.elapsed ≤ timeout + limit
  timedOut : late step.outcome → timeout ≤ step.elapsed

theorem Brief.pollUntil_ends {check : Run τ ε (Option α)}
    (h : Brief server clock limit view check)
    {late : Outcome ε (Option α) → Prop}
    (hlate : ∀ now s, late (check clock now s).outcome →
    (check clock now s).outcome = .done none)
    {longest : Nat} (hclock : clock.CutsAt longest) {p : Patience} (hp : 0 < p.interval.nanos)
    {now : Nat} (hdeadline : now + p.timeout.nanos < instantLimit) (s : τ) :
    WaitEnds server view p.timeout.nanos limit (min p.interval.nanos longest) late s
      (Run.pollUntil p check clock now s) := by
  obtain ⟨es, e, hrounds, hlast, hpoll⟩ := Run.pollUntil_rounds check clock hp hdeadline s
  have hmem : e ∈ es := List.mem_of_getLast? hlast
  obtain ⟨t, he⟩ := hrounds.eq_evaluate_of_mem hmem
  have hstep : e.step = check clock e.start t := congrArg Run.Evaluation.step he
  have hreached : e.reached = e.start + e.step.elapsed := rfl
  have hafter : now ≤ e.start := hrounds.le_start hmem
  rw [hpoll]
  refine ⟨?_, ?_, ?_, ?_⟩
  · change e.step.outcome.returns = true
    rw [hstep]
    exact h.returns e.start t
  · obtain ⟨xs, hxs, hshort⟩ := rounds_exchanged h hrounds hlast
    have hpause : 0 < min p.interval.nanos longest := Nat.lt_min.mpr ⟨hp, hclock.pos⟩
    have hlength := hrounds.length_le_of_pause hpause (Nat.min_le_left _ _) fun n hn => by
      have hlasting := hclock.le_lasting n
      omega
    rw [Nat.add_sub_cancel_left] at hlength
    exact ⟨xs, hxs, Nat.le_trans hshort hlength⟩
  · have hstart : e.start ≤ now + p.timeout.nanos :=
      hrounds.start_le hclock.lasting_le (Nat.le_add_right _ _) hmem
    have hquick : e.step.elapsed ≤ limit := by
      rw [hstep]
      exact h.elapsed_le e.start t
    change e.reached - now ≤ _
    omega
  · intro hends
    change late e.step.outcome at hends
    have hnone : e.step.outcome = .done none := by
      rw [hstep] at hends ⊢
      exact hlate e.start t hends
    -- Without a value the last round is only the last because the deadline has come.
    have hclosed : ¬ e.reached < now + p.timeout.nanos := fun hearly =>
      hrounds.not_open_of_getLast? hlast ⟨hnone, hearly⟩
    show p.timeout.nanos ≤ e.reached - now
    omega

theorem WaitEnds.through {timeout pause : Nat} {decide : α → Except ε β}
    {late : Outcome ε β → Prop} {x : Run τ ε α} {now : Nat} {s : τ}
    (h : WaitEnds server view timeout limit pause (fun o => late (o.through decide)) s
      (x clock now s)) :
    WaitEnds server view timeout limit pause late s
      ((x >>= fun a => .ofExcept (decide a)) clock now s) := by
  rw [Run.bind_ofExcept_apply]
  refine ⟨?_, h.exchanged, h.elapsed_le, h.timedOut⟩
  rw [Outcome.returns_through]
  exact h.returns

theorem Brief.awaitUntil_ends {condition : Run τ ε Bool}
    (h : Brief server clock limit view condition) {late : Outcome ε Bool → Prop}
    (hmet : ¬ late (.done true))
    (hfault : ∀ now s e, (condition clock now s).outcome = .failed e → ¬ late (.failed e))
    {longest : Nat} (hclock : clock.CutsAt longest) {p : Patience} (hp : 0 < p.interval.nanos)
    {now : Nat} (hdeadline : now + p.timeout.nanos < instantLimit) (s : τ) :
    WaitEnds server view p.timeout.nanos limit (min p.interval.nanos longest) late s
      (Run.awaitUntil p condition clock now s) := by
  let isMet (b : Bool) : Except ε (Option Unit) := .ok (if b then some () else none)
  have hcheck : Brief server clock limit view (Run.met condition) := h.map _
  have hlate (now : Nat) (s : τ) :
      late ((Run.met condition clock now s).outcome.through fun o => .ok o.isSome) →
        (Run.met condition clock now s).outcome = .done none := by
    have happly : Run.met condition clock now s = _ :=
      Run.bind_ofExcept_apply condition isMet clock now s
    have hreturns := h.returns now s
    rw [happly]
    cases houtcome : (condition clock now s).outcome with
    | done b =>
        cases b with
        | true => exact fun hends => absurd hends hmet
        | false => exact fun _ => rfl
    | failed e => exact fun hends => absurd hends (hfault now s e houtcome)
    | panicked text =>
        rw [houtcome] at hreturns
        cases hreturns
  exact (hcheck.pollUntil_ends hlate hclock hp hdeadline s).through

end Http

end Rollout
