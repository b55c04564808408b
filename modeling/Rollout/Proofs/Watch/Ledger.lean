import Rollout.Proofs.Watch.Agreement
/-!
# What a ledger holds

Lookups are written down by the orchestrator that answers them, and a ledger is compared with what
was written down: for every deployment id it holds what the last successful lookup of that id has
found, wherever in a run the lookup was made and whatever became of the operation that made it.
-/

namespace Rollout

open Time Wire

variable {σ : Type}

/-- A lookup that was made, and how it ended. -/
structure Lookup where
  id : String
  outcome : Outcome Fault Snapshot

namespace Lookup

/-- What a lookup says about a deployment id: nothing if it has failed or was made for another. -/
def found? (id : String) (x : Lookup) : Option Snapshot :=
  match x.outcome with
  | .done snapshot => if x.id = id then some snapshot else none
  | .failed _ | .panicked _ => none

/-- What the last successful lookup of a deployment id has found. -/
def last? (id : String) (made : List Lookup) : Option Snapshot :=
  (made.filterMap (found? id)).getLast?

theorem found?_eq_none_iff {id : String} {x : Lookup} :
    x.found? id = none ↔ (x.id = id → ∀ snapshot, x.outcome ≠ .done snapshot) := by
  obtain ⟨other, outcome⟩ := x
  cases outcome <;> simp [found?]

theorem last?_append (id : String) (made more : List Lookup) :
    last? id (made ++ more) = (last? id more).or (last? id made) := by
  rw [last?, List.filterMap_append, List.getLast?_append]
  rfl

theorem last?_eq_none_iff {id : String} {made : List Lookup} :
    last? id made = none ↔ ∀ x ∈ made, x.id = id →
      ∀ snapshot, x.outcome ≠ .done snapshot := by
  rw [last?, List.getLast?_eq_none_iff, List.filterMap_eq_nil_iff]
  exact forall₂_congr fun x _ => found?_eq_none_iff

end Lookup

/-- The same orchestrator, with all lookups written down in order. -/
def Orchestrator.recorded (o : Orchestrator σ) : Orchestrator (List Lookup × σ) where
  addApp app := (o.addApp app).onSnd
  removeApp id force := (o.removeApp id force).onSnd
  getDeployment id := fun clock now s =>
    let step := o.getDeployment id clock now s.2
    ⟨step.outcome, (s.1 ++ [⟨id, step.outcome⟩], step.state), step.elapsed⟩

theorem Orchestrator.made_of_getDeployment (o : Orchestrator σ) (id : String) (clock : Clock)
    (now : Nat) (s : List Lookup × σ) :
    (o.recorded.getDeployment id clock now s).state.1 =
      s.1 ++ [⟨id, (o.recorded.getDeployment id clock now s).outcome⟩] := rfl

theorem Orchestrator.recorded_agree (o : Orchestrator σ) :
    o.recorded.Agree (fun s t => s.2 = t) o where
  addApp app := by
    rintro clock now s _ rfl
    exact ⟨rfl, rfl, rfl⟩
  removeApp id force := by
    rintro clock now s _ rfl
    exact ⟨rfl, rfl, rfl⟩
  getDeployment id := by
    rintro clock now s _ rfl
    exact ⟨rfl, rfl, rfl⟩

namespace Ledger

theorem last?_record (l : Ledger) (id other : String) (snapshot : Snapshot) :
    (l.record id snapshot).last? other = if other = id then some snapshot else l.last? other := by
  split
  · next hother => rw [hother, last?_record_self]
  · next hother => exact last?_record_of_ne hother l snapshot

theorem last?_keep (l : Ledger) {id : String} {xs : List Lookup} (hown : ∀ x ∈ xs, x.id = id)
    (other : String) :
    (l.keep id (Lookup.last? id xs)).last? other = (Lookup.last? other xs).or (l.last? other) := by
  by_cases hother : other = id
  · subst hother
    cases Lookup.last? other xs with
    | none => rfl
    | some snapshot => exact last?_record_self l other snapshot
  · have hnone : Lookup.last? other xs = none := by
      rw [Lookup.last?_eq_none_iff]
      intro x hx hid
      exact absurd (hid.symm.trans (hown x hx)) hother
    rw [hnone, Option.none_or]
    cases Lookup.last? id xs with
    | none => rfl
    | some snapshot => exact last?_record_of_ne hother l snapshot

end Ledger

namespace Watch

/-- What an operation does to a ledger. Its lookups, in order, are `xs`. -/
structure Operation.Records (op : Operation) (interval : Nat)
    (before after : Ledger × List Lookup × σ) (returns : Bool) (xs : List Lookup) : Prop where
  made : after.2.1 = before.2.1 ++ xs
  own : ∀ x ∈ xs, op.target? = some x.id
  /-- The ledger follows the lookups of an operation that returns, and of one that panics without
  the help of a lookup. -/
  kept : returns = true ∨ (0 < interval ∧ ∀ x ∈ xs, x.outcome.returns = true) →
    ∀ id, after.1.last? id = (Lookup.last? id xs).or (before.1.last? id)
  /-- Without a successful lookup of an id nothing changes for it. -/
  frame : ∀ id, Lookup.last? id xs = none → after.1.last? id = before.1.last? id

namespace Operation.Records

variable {op : Operation} {interval : Nat} {before after : Ledger × List Lookup × σ}
  {returns : Bool} {xs : List Lookup}

theorem of_keep {id : String} (hop : op.target? = some id) (made : after.2.1 = before.2.1 ++ xs)
    (own : ∀ x ∈ xs, x.id = id) (hkeep : after.1 = before.1.keep id (Lookup.last? id xs)) :
    op.Records interval before after returns xs := by
  have hlast (other : String) :
      after.1.last? other = (Lookup.last? other xs).or (before.1.last? other) := by
    rw [hkeep, Ledger.last?_keep _ own]
  refine ⟨made, ?_, fun _ => hlast, ?_⟩
  · intro x hx
    rw [hop, own x hx]
  · intro other hnone
    rw [hlast, hnone, Option.none_or]

theorem of_no_lookup (hmade : after.2.1 = before.2.1) (hledger : after.1 = before.1) :
    op.Records interval before after returns [] := by
  refine ⟨?_, nofun, ?_, ?_⟩
  · rw [hmade, List.append_nil]
  · intro _ id
    rw [hledger]
    rfl
  · intro id _
    rw [hledger]

end Operation.Records

variable (o : Orchestrator σ) (p : Patience) (clock : Clock) (now : Nat)

theorem observe_records (op : Operation) (h : Handle) (hop : op.target? = some h.deploymentId)
    (s : Ledger × List Lookup × σ) :
    let step := (mk o.recorded p).observe h clock now s
    ∃ xs, op.Records p.interval.nanos s step.state step.outcome.returns xs := by
  have hmade := o.made_of_getDeployment h.deploymentId clock now s.2
  rw [observe_apply]
  rcases hstep : o.recorded.getDeployment h.deploymentId clock now s.2
    with ⟨snapshot | e | text, t, n⟩
  all_goals
    rw [hstep] at hmade
    refine ⟨_, .of_keep hop hmade ?_ ?_⟩
    · intro x hx
      rw [List.mem_singleton.mp hx]
    · simp [Lookup.last?, Lookup.found?, Ledger.keep]

/-- The lookups `xs` of a wait, after those that were made before it. Its cell holds what they have
found last. -/
structure Looks (id : String) (made xs : List Lookup) (s : Option Snapshot × List Lookup × σ) :
    Prop where
  made : s.2.1 = made ++ xs
  own : ∀ x ∈ xs, x.id = id
  cell : s.1 = Lookup.last? id xs

theorem Looks.more {id : String} {made xs : List Lookup}
    {s t : Option Snapshot × List Lookup × σ}
    (h : Looks id made xs s) {x : Lookup} (hx : x.id = id) (hmade : t.2.1 = s.2.1 ++ [x])
    (hcell : t.1 = (Lookup.last? id [x]).or s.1) : Looks id made (xs ++ [x]) t := by
  refine ⟨?_, ?_, ?_⟩
  · rw [hmade, h.made, List.append_assoc]
  · intro y hy
    rcases List.mem_append.mp hy with hold | hnew
    · exact h.own y hold
    · rwa [List.mem_singleton.mp hnew]
  · rw [hcell, h.cell, Lookup.last?_append]

theorem looks_look (h : Handle) (predicate : Snapshot → Bool) {made xs : List Lookup}
    {s : Option Snapshot × List Lookup × σ} (hs : Looks h.deploymentId made xs s) :
    let step := (mk o.recorded p).look h predicate clock now s
    ∃ x : Lookup, Looks h.deploymentId made (xs ++ [x]) step.state ∧ step.outcome =
      x.outcome.through fun snapshot => .ok (if predicate snapshot then some () else none) := by
  have hmade := o.made_of_getDeployment h.deploymentId clock now s.2
  rw [look_apply]
  rcases hstep : o.recorded.getDeployment h.deploymentId clock now s.2
    with ⟨snapshot | e | text, t, n⟩
  all_goals
    rw [hstep] at hmade
    refine ⟨_, hs.more rfl hmade ?_, rfl⟩
    simp [Lookup.last?, Lookup.found?]

/-- A wait that panics has made a lookup that does, or no lookup, or no pauses. -/
theorem look_rule (h : Handle) (predicate : Snapshot → Bool) (made : List Lookup)
    (interval : Nat) :
    Run.WaitRule ((mk o.recorded p).look h predicate) clock
      (fun _ s => ∃ xs, Looks h.deploymentId made xs s)
      (fun outcome _ s => ∃ xs, Looks h.deploymentId made xs s ∧
        (outcome.returns = true ∨ interval = 0 ∨ xs = [] ∨
          ∃ x ∈ xs, x.outcome.returns = false)) where
  evaluated := by
    intro now s ⟨xs, hxs⟩
    obtain ⟨x, hmore, houtcome⟩ := looks_look o p clock now h predicate hxs
    refine ⟨xs ++ [x], hmore, ?_⟩
    rw [houtcome, Outcome.returns_through]
    cases hx : x.outcome.returns with
    | true => exact .inl rfl
    | false => exact .inr (.inr
      (.inr ⟨x, List.mem_append_right _ (List.mem_singleton_self x), hx⟩))
  paused := by
    intro now s ⟨xs, hxs⟩ _ later _
    obtain ⟨x, hmore, -⟩ := looks_look o p clock now h predicate hxs
    exact ⟨xs ++ [x], hmore⟩

theorem await_looks (h : Handle) (timeout : Span) (predicate : Snapshot → Bool)
    (made : List Lookup) (u : σ) :
    let step := Run.pollUntil (p.withTimeout timeout) ((mk o.recorded p).look h predicate) clock now
      (none, made, u)
    ∃ xs, Looks h.deploymentId made xs step.state ∧ (step.outcome.returns = true ∨
      p.interval.nanos = 0 ∨ xs = [] ∨ ∃ x ∈ xs, x.outcome.returns = false) := by
  have hstart : Looks h.deploymentId made [] ((none : Option Snapshot), made, u) :=
    ⟨(List.append_nil made).symm, nofun, rfl⟩
  exact (look_rule o p clock h predicate made p.interval.nanos).post_of_pollUntil
    (p.withTimeout timeout) ⟨[], hstart⟩ (fun _ => ⟨[], hstart, .inr (.inr (.inl rfl))⟩)
    (fun hinterval _ _ ⟨xs, hxs⟩ _ => ⟨xs, hxs, .inr (.inl hinterval)⟩)

theorem await_records (op : Operation) (h : Handle) (timeout : Span) (predicate : Snapshot → Bool)
    (hop : op.target? = some h.deploymentId) (s : Ledger × List Lookup × σ) :
    let step := (mk o.recorded p).await h timeout predicate clock now s
    ∃ xs, op.Records p.interval.nanos s step.state step.outcome.returns xs := by
  obtain ⟨l, made, u⟩ := s
  obtain ⟨xs, hxs, hend⟩ := await_looks o p clock now h timeout predicate made u
  refine ⟨xs, ?_⟩
  rw [await_apply]
  rcases hstep : Run.pollUntil ((mk o.recorded p).patience.withTimeout timeout)
    ((mk o.recorded p).look h predicate) clock now (none, made, u) with ⟨met | e | text, t, n⟩
  · rw [hstep] at hxs
    exact .of_keep hop hxs.made hxs.own (congrArg (l.keep h.deploymentId) hxs.cell)
  · rw [hstep] at hxs
    exact .of_keep hop hxs.made hxs.own (congrArg (l.keep h.deploymentId) hxs.cell)
  · -- The cell is lost, but nothing was in it unless a lookup was to blame.
    rw [hstep] at hxs hend
    refine ⟨hxs.made, ?_, ?_, fun _ _ => rfl⟩
    · intro x hx
      rw [hop, hxs.own x hx]
    · intro hfine
      obtain ⟨hinterval, hall⟩ := hfine.resolve_left nofun
      rcases hend with hfalse | hzero | hnil | ⟨x, hx, hfalse⟩
      · cases hfalse
      · omega
      · subst hnil
        exact fun _ => rfl
      · rw [hall x hx] at hfalse
        cases hfalse

/-- Whatever an operation is and however it ends, the ledger follows its lookups. -/
theorem Operation.records (op : Operation) (s : Ledger × List Lookup × σ) :
    let step := op.run (mk o.recorded p) clock now s
    ∃ xs, op.Records p.interval.nanos s step.state step.outcome.returns xs := by
  refine op.post_run (mk o.recorded p) clock now s
    (fun returns after => ∃ xs, op.Records p.interval.nanos s after returns xs) ?_ ?_ ?_ ?_
  · exact ⟨[], .of_no_lookup rfl rfl⟩
  · rintro call (⟨app, rfl⟩ | ⟨id, force, rfl⟩)
    · exact ⟨[], .of_no_lookup rfl rfl⟩
    · exact ⟨[], .of_no_lookup rfl rfl⟩
  · exact fun h hop => observe_records o p clock now op h hop s
  · exact fun h timeout predicate hop => await_records o p clock now op h timeout predicate hop s

/-- The ledger holds what the last successful lookups have found, unless a wait was abandoned for a
lookup that panicked or for having no pauses. -/
def Faithful (interval : Nat) (returns : Bool) (s : Ledger × List Lookup × σ) : Prop :=
  returns = true ∨ (0 < interval ∧ ∀ x ∈ s.2.1, x.outcome.returns = true) →
    ∀ id, s.1.last? id = Lookup.last? id s.2.1

theorem Operation.Records.faithful {op : Operation} {interval : Nat}
    {before after : Ledger × List Lookup × σ} {returns : Bool} {xs : List Lookup}
    (h : op.Records interval before after returns xs) (hbefore : Faithful interval true before) :
    Faithful interval returns after := by
  intro hfine id
  rw [h.made] at hfine
  have hkept := h.kept
    (hfine.imp_right fun hquiet =>
      ⟨hquiet.1, fun x hx => hquiet.2 x (List.mem_append_right _ hx)⟩)
  calc after.1.last? id = (Lookup.last? id xs).or (before.1.last? id) := hkept id
    _ = (Lookup.last? id xs).or (Lookup.last? id before.2.1) := by rw [hbefore (.inl rfl) id]
    _ = Lookup.last? id (before.2.1 ++ xs) := (Lookup.last?_append id _ _).symm
    _ = Lookup.last? id after.2.1 := by rw [h.made]

theorem lastObserved_apply {τ : Type} (w : Watch τ) (h : Handle) (s : Ledger × τ) :
    w.lastObserved h clock now s = ⟨.done (s.1.last? h.deploymentId), s, 0⟩ := rfl

/-- Whatever operations are made of a new watch and whatever its orchestrator does, the ledger holds
for every id what the last successful lookup of it has found, and nothing for an id without one.
That is also what the watch says when it is asked for its last snapshot. -/
theorem perform_ledger (ops : List Operation) (u : σ) :
    let step := (mk o.recorded p).perform ops clock now (.empty, [], u)
    step.Agree (Run.Beside fun s t => s.2 = t) ((mk o p).perform ops clock now (.empty, u)) ∧
      (step.outcome = .done () ∨
          (0 < p.interval.nanos ∧ ∀ x ∈ step.state.2.1, x.outcome.returns = true) →
        ∀ id, step.state.1.last? id = Lookup.last? id step.state.2.1 ∧
          (step.state.1.last? id = none ↔
            ∀ x ∈ step.state.2.1, x.id = id → ∀ snapshot, x.outcome ≠ .done snapshot) ∧
          ∀ (h : Handle) (later : Nat), h.deploymentId = id →
            (mk o.recorded p).lastObserved h clock later step.state =
              ⟨.done (Lookup.last? id step.state.2.1), step.state, 0⟩) ∧
      ∀ (op : Operation) (later : Nat), ∃ xs,
        op.Records p.interval.nanos step.state
          (op.run (mk o.recorded p) clock later step.state).state
          (op.run (mk o.recorded p) clock later step.state).outcome.returns xs := by
  intro step
  refine ⟨?_, ?_, fun op later => Operation.records o p clock later op step.state⟩
  · exact perform_agree o.recorded_agree p ops clock now _ _ ⟨rfl, rfl⟩
  · intro hfine id
    have hfaithful : Faithful p.interval.nanos step.outcome.returns step.state := by
      refine (mk o.recorded p).post_perform clock now (Faithful p.interval.nanos) ?_ ops _ ?_
      · intro op now s hs
        obtain ⟨xs, hxs⟩ := Operation.records o p clock now op s
        exact hxs.faithful hs
      · exact fun _ _ => rfl
    have hlast := hfaithful (hfine.imp_left fun hdone => by rw [hdone]; rfl) id
    rw [hlast]
    refine ⟨rfl, Lookup.last?_eq_none_iff, fun h later hid => ?_⟩
    rw [lastObserved_apply, hid, hlast]

/-- An orchestrator without deployments that fails from the second lookup on. -/
def failing : Orchestrator Nat where
  addApp _ := .fail (.internal "")
  removeApp _ _ := .fail (.internal "")
  getDeployment _ := fun _ _ n =>
    ⟨if n = 0 then .done none else .failed (.notFound ""), n + 1, 1⟩

def failingWait : Step (Ledger × List Lookup × Nat) Fault Unit :=
  (mk failing.recorded ⟨.ofSecs 5, .ofSecs 1⟩).perform
    [.await ⟨"d", "a", .deploy⟩ (.ofSecs 5) Option.isSome] .exact 0 (.empty, [], 0)

/-- A wait that fails at its second look has kept what the first one has found. -/
theorem perform_ledger_failing_wait :
    failingWait.outcome = .done () ∧ failingWait.state.2.1.length = 2 ∧
      failingWait.state.1.last? "d" = some none := by
  have hdone : failingWait.outcome = .done () := by decide +kernel
  have hlast := ((perform_ledger failing _ .exact 0 _ 0).2.1 (.inl hdone) "d").1
  have hfound : Lookup.last? "d" failingWait.state.2.1 = some none := by decide +kernel
  exact ⟨hdone, by decide +kernel, hlast.trans hfound⟩

end Watch

end Rollout
