import Rollout.Proofs.Watch.Ledger
/-!
# The verdict of a wait

A wait looks a deployment up until a predicate holds of a snapshot. What it answers is decided
while it goes on, and the snapshot is kept only when it is over. Here the two are compared with the
lookups that were made: a verdict is always about the snapshot that is kept, and a failure leaves
the last snapshot before it.
-/

namespace Rollout.Watch

open Time Wire

variable {σ : Type}

/-- A lookup that a wait goes on after: the predicate fails of what it has found. -/
def Unmet (predicate : Snapshot → Bool) (x : Lookup) : Prop :=
  ∃ snapshot, x.outcome = .done snapshot ∧ predicate snapshot = false

/-- What a look yields for a lookup. -/
def yielded (predicate : Snapshot → Bool) :
    Outcome Fault Snapshot → Outcome Fault (Option Unit) :=
  Outcome.through fun snapshot => .ok (if predicate snapshot then some () else none)

/-- What a wait answers whose last lookup ended like this. -/
def verdict (predicate : Snapshot → Bool) : Outcome Fault Snapshot → Outcome Fault Bool :=
  Outcome.through fun snapshot => .ok (predicate snapshot)

theorem unmet_of_yielded {predicate : Snapshot → Bool} {x : Lookup}
    (hx : yielded predicate x.outcome = .done none) : Unmet predicate x := by
  obtain ⟨snapshot, hdone, hnone⟩ := Outcome.through_eq_done_iff.mp hx
  refine ⟨snapshot, hdone, ?_⟩
  cases hmet : predicate snapshot with
  | false => rfl
  | true =>
      rw [hmet] at hnone
      cases hnone

theorem verdict_of_yielded {predicate : Snapshot → Bool} {outcome : Outcome Fault Snapshot}
    {met : Option Unit} (h : .done met = yielded predicate outcome) :
    .done met.isSome = verdict predicate outcome := by
  obtain ⟨snapshot, rfl, hmet⟩ := Outcome.through_eq_done_iff.mp h.symm
  rw [← Except.ok.inj hmet]
  show Outcome.done (if predicate snapshot then some () else none).isSome =
    Outcome.done (predicate snapshot)
  cases predicate snapshot <;> rfl

/-- The state after a lookup that follows some for which the predicate has failed. -/
structure Followed (id : String) (predicate : Snapshot → Bool) (made earlier : List Lookup)
    (last : Lookup) (s : Option Snapshot × List Lookup × σ) : Prop where
  looks : Looks id made (earlier ++ [last]) s
  unmet : ∀ x ∈ earlier, Unmet predicate x

variable (o : Orchestrator σ) (p : Patience) (clock : Clock) (now : Nat) (h : Handle)
  (predicate : Snapshot → Bool)

/-- A wait goes on only after lookups for which the predicate has failed. -/
theorem followed_rule (made : List Lookup) :
    Run.WaitRule ((mk o.recorded p).look h predicate) clock
      (fun _ s => ∃ earlier, Looks h.deploymentId made earlier s ∧
        ∀ x ∈ earlier, Unmet predicate x)
      (fun outcome _ s => ∃ earlier last,
        Followed h.deploymentId predicate made earlier last s ∧
          outcome = yielded predicate last.outcome) where
  evaluated := by
    intro now s ⟨earlier, hlooks, hunmet⟩
    obtain ⟨x, hmore, houtcome⟩ := looks_look o p clock now h predicate hlooks
    exact ⟨earlier, x, ⟨hmore, hunmet⟩, houtcome⟩
  paused := by
    intro now s ⟨earlier, hlooks, hunmet⟩ hnone later _
    obtain ⟨x, hmore, houtcome⟩ := looks_look o p clock now h predicate hlooks
    refine ⟨earlier ++ [x], hmore, ?_⟩
    intro y hy
    rcases List.mem_append.mp hy with hold | hnew
    · exact hunmet y hold
    · rw [List.mem_singleton.mp hnew]
      exact unmet_of_yielded (houtcome.symm.trans hnone)

theorem followed_of_pollUntil {timeout : Span} (hdeadline : now + timeout.nanos < instantLimit)
    (hinterval : 0 < p.interval.nanos) (made : List Lookup) (u : σ) :
    let step := Run.pollUntil (p.withTimeout timeout) ((mk o.recorded p).look h predicate) clock
      now (none, made, u)
    ∃ earlier last, Followed h.deploymentId predicate made earlier last step.state ∧
      step.outcome = yielded predicate last.outcome := by
  intro step
  have hstart : Looks h.deploymentId made [] ((none : Option Snapshot), made, u) :=
    ⟨(List.append_nil made).symm, nofun, rfl⟩
  obtain ⟨es, e, hrounds, hlast, hpoll⟩ :=
    Run.pollUntil_rounds (p := p.withTimeout timeout) ((mk o.recorded p).look h predicate) clock
      hinterval hdeadline (none, made, u)
  have hpost := (followed_rule o p clock h predicate made).post_of_rounds hrounds
    ⟨[], hstart, nofun⟩ hlast
  have hstep : step = e.verdict now := hpoll
  rw [hstep]
  exact hpost

/-- A wait ends as its last lookup does, and what its lookups have found is kept unless that one has
panicked. -/
theorem await_followed (timeout : Span) (l : Ledger) (made : List Lookup) (u : σ)
    (hdeadline : now + timeout.nanos < instantLimit) (hinterval : 0 < p.interval.nanos) :
    let step := (mk o.recorded p).await h timeout predicate clock now (l, made, u)
    ∃ (earlier : List Lookup) (last : Lookup),
      step.state.2.1 = made ++ (earlier ++ [last]) ∧
        (∀ x ∈ earlier ++ [last], x.id = h.deploymentId) ∧
        (∀ x ∈ earlier, Unmet predicate x) ∧
        step.outcome = verdict predicate last.outcome ∧
        (last.outcome.returns = true → step.state.1 =
          l.keep h.deploymentId (Lookup.last? h.deploymentId (earlier ++ [last]))) := by
  obtain ⟨earlier, last, ⟨hlooks, hunmet⟩, houtcome⟩ :=
    followed_of_pollUntil o p clock now h predicate hdeadline hinterval made u
  refine ⟨earlier, last, ?_⟩
  rw [await_apply]
  rcases hstep : Run.pollUntil ((mk o.recorded p).patience.withTimeout timeout)
    ((mk o.recorded p).look h predicate) clock now (none, made, u) with ⟨met | e | text, t, n⟩
  all_goals
    rw [hstep] at hlooks houtcome
    refine ⟨hlooks.made, hlooks.own, hunmet, ?_, ?_⟩
  · exact verdict_of_yielded houtcome
  · exact fun _ => congrArg (l.keep h.deploymentId) hlooks.cell
  · rcases Outcome.through_eq_failed_iff.mp houtcome.symm with hfailed | ⟨_, _, hnever⟩
    · rw [hfailed]
      rfl
    · cases hnever
  · exact fun _ => congrArg (l.keep h.deploymentId) hlooks.cell
  · rw [Outcome.through_eq_panicked_iff.mp houtcome.symm]
    rfl
  · intro hreturns
    rw [Outcome.through_eq_panicked_iff.mp houtcome.symm] at hreturns
    cases hreturns

/-- Whatever the lookups of a wait come to, its verdict is about the snapshot that is kept when it
is over, and all snapshots before have failed the predicate. A failure is that of the last lookup,
and what is kept is then the last snapshot before it, or what was kept before the wait. -/
theorem await_verdict (timeout : Span) (l : Ledger) (made : List Lookup) (u : σ)
    (hdeadline : now + timeout.nanos < instantLimit) (hinterval : 0 < p.interval.nanos) :
    let step := (mk o.recorded p).await h timeout predicate clock now (l, made, u)
    let kept := step.state.1.last? h.deploymentId
    (∃ (earlier : List Lookup) (last : Lookup),
      step.state.2.1 = made ++ (earlier ++ [last]) ∧
        (∀ x ∈ earlier ++ [last], x.id = h.deploymentId) ∧
        (∀ x ∈ earlier, ∃ snapshot, x.outcome = .done snapshot ∧
          predicate snapshot = false) ∧
        step.outcome = verdict predicate last.outcome ∧
        (∀ b, step.outcome = .done b →
          ∃ snapshot, last.outcome = .done snapshot ∧ kept = some snapshot ∧
            b = predicate snapshot) ∧
        (∀ e, step.outcome = .failed e → last.outcome = .failed e ∧
          kept = (Lookup.last? h.deploymentId earlier).or (l.last? h.deploymentId))) ∧
      step.Agree (Run.Beside fun s t => s.2 = t)
        ((mk o p).await h timeout predicate clock now (l, u)) ∧
      (mk o p).awaitCompletion h timeout = (mk o p).await h timeout Option.isNone := by
  intro step kept
  refine ⟨?_, await_agree o.recorded_agree p h timeout predicate clock now _ _
    ⟨rfl, rfl⟩, rfl⟩
  obtain ⟨earlier, last, hmade, hown, hunmet, houtcome, hledger⟩ :=
    await_followed o p clock now h predicate timeout l made u hdeadline hinterval
  have hlastOwn : last.id = h.deploymentId := hown last (by simp)
  have hkept : last.outcome.returns = true →
      kept = (Lookup.last? h.deploymentId [last]).or
        ((Lookup.last? h.deploymentId earlier).or (l.last? h.deploymentId)) := by
    intro hreturns
    show step.state.1.last? h.deploymentId = _
    rw [hledger hreturns, Ledger.last?_keep l hown, Lookup.last?_append, Option.or_assoc]
  refine ⟨earlier, last, hmade, hown, hunmet, houtcome, ?_, ?_⟩
  · intro b hb
    obtain ⟨snapshot, hdone, hverdict⟩ :=
      Outcome.through_eq_done_iff.mp (houtcome.symm.trans hb)
    refine ⟨snapshot, hdone, ?_, (Except.ok.inj hverdict).symm⟩
    rw [hkept (by rw [hdone]; rfl)]
    simp [Lookup.last?, Lookup.found?, hdone, hlastOwn]
  · intro e he
    rcases Outcome.through_eq_failed_iff.mp (houtcome.symm.trans he)
      with hfailed | ⟨_, _, hnever⟩
    · refine ⟨hfailed, ?_⟩
      rw [hkept (by rw [hfailed]; rfl)]
      simp [Lookup.last?, Lookup.found?, hfailed]
    · cases hnever

/-- A wait for a deployment that is not listed, whose second look fails: the absence that the first
look has found is kept. -/
theorem await_verdict_failing :
    let w := mk failing.recorded ⟨.ofSecs 60, .ofSecs 1⟩
    let h : Handle := ⟨"d", "/a", .deploy⟩
    let step := w.await h (.ofSecs 5) Option.isSome .exact 0 (.empty, [], 0)
    0 + (Span.ofSecs 5).nanos < instantLimit ∧ 0 < w.patience.interval.nanos ∧
      ∃ earlier last, step.state.2.1 = [] ++ (earlier ++ [last]) ∧
        last.outcome = .failed (.notFound "") ∧
        step.state.1.last? "d" = (Lookup.last? "d" earlier).or none ∧
        step.state.1.last? "d" = some none := by
  intro w h step
  have hdeadline : 0 + (Span.ofSecs 5).nanos < instantLimit := by decide
  have hinterval : 0 < w.patience.interval.nanos := by decide
  obtain ⟨earlier, last, hmade, -, -, -, -, hfailed⟩ := (await_verdict failing
    ⟨.ofSecs 60, .ofSecs 1⟩ .exact 0 h Option.isSome (.ofSecs 5) .empty
      [] 0 hdeadline hinterval).1
  obtain ⟨hlast, hkept⟩ := hfailed (.notFound "") (by decide +kernel)
  exact ⟨hdeadline, hinterval, earlier, last, hmade, hlast, hkept, by decide +kernel⟩

end Rollout.Watch
