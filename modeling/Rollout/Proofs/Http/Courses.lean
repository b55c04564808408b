import Rollout.Proofs.Http.Calls
/-!
# Courses

If answers take no time, a run that only sleeps between its calls makes each of them at an instant
that is known beforehand. A course lays down these instants, what is asked for at each of them, and
which exchanges the run goes on from; it says how far the run gets and whether it succeeds.
-/

namespace Rollout.Http

open Time

variable {σ : Type} {α : Type}

/-- Every reply of the server comes at once. -/
def Instantaneous (server : Server σ) : Prop := ∀ now q u, (server now q u).1.delay = 0

/-- The exchanges of a run, and whether it succeeds. -/
abbrev Course := List Exchange → Bool → Prop

namespace Course

/-- Nothing more is asked for, and the run succeeds. -/
def finished : Course := fun xs passed => xs = [] ∧ passed = true

/-- A call at an instant, and what follows from the value that its exchange shows. The run fails
without a further call if no request can be made for this one, or if its exchange shows no value. -/
inductive call (time : Nat) (asks : Request → Prop) (shows : Exchange → α → Prop)
    (next : α → Course) : List Exchange → Bool → Prop where
  | unsent (h : ∀ q, ¬ asks q) : call time asks shows next [] false
  | stopped {x : Exchange} (punctual : x.time = time) (asked : asks x.request)
      (h : ∀ a, ¬ shows x a) : call time asks shows next [x] false
  | goesOn {x : Exchange} {a : α} {xs : List Exchange} {passed : Bool} (punctual : x.time = time)
      (asked : asks x.request) (h : shows x a) (rest : next a xs passed) :
      call time asks shows next (x :: xs) passed

section

variable {time : Nat} {asks : Request → Prop} {shows : Exchange → α → Prop}
  {next : α → Course}
  {xs : List Exchange} {passed : Bool}

theorem call_passed_iff : call time asks shows next xs true ↔ ∃ x a rest, xs = x :: rest ∧
    x.time = time ∧ asks x.request ∧ shows x a ∧ next a rest true := by
  constructor
  · intro h
    cases h with
    | goesOn punctual asked h rest => exact ⟨_, _, _, rfl, punctual, asked, h, rest⟩
  · rintro ⟨x, a, rest, rfl, punctual, asked, h, hrest⟩
    exact .goesOn punctual asked h hrest

variable (h : call time asks shows next xs passed)
include h

omit h in
theorem call.rest {x : Exchange} (h : call time asks shows next (x :: xs) passed) {a : α}
    (ha : shows x a) (hunique : ∀ b, shows x b → b = a) : next a xs passed := by
  cases h with
  | stopped _ _ hnone => exact absurd ha (hnone a)
  | goesOn _ _ hshown rest =>
      obtain rfl := hunique _ hshown
      exact rest

theorem call.goesOn_of_shows {a : α} (hasks : ∃ q, asks q)
    (hshows : ∀ x ∈ xs, x.time = time → asks x.request → ∀ b, shows x b ↔ b = a) :
    ∃ x rest, xs = x :: rest ∧ next a rest passed := by
  cases h with
  | unsent hnone =>
      obtain ⟨q, hq⟩ := hasks
      exact absurd hq (hnone q)
  | stopped punctual asked hnone =>
      have hshown := (hshows _ List.mem_cons_self punctual asked a).mpr rfl
      exact absurd hshown (hnone a)
  | goesOn punctual asked hshown rest =>
      obtain rfl := (hshows _ List.mem_cons_self punctual asked _).mp hshown
      exact ⟨_, _, rfl, rest⟩

theorem call.eq_false_of_not_shows
    (hnone : ∀ x ∈ xs, x.time = time → asks x.request → ∀ a, ¬ shows x a) :
    passed = false := by
  cases h with
  | unsent => rfl
  | stopped => rfl
  | goesOn punctual asked hshown rest =>
      exact absurd hshown (hnone _ List.mem_cons_self punctual asked _)

end

end Course

/-- A run that is started at an instant takes the course, in whatever state the network is. -/
def Takes (server : Server σ) (clock : Clock) (course : Course) (now : Nat)
    (x : Run (Net σ) Fault Unit) : Prop :=
  ∀ net, ∃ xs passed, Exchanges server net xs (x clock now net).state ∧ course xs passed ∧
    ((x clock now net).outcome = .done () ↔ passed = true)

variable {server : Server σ} {clock : Clock} {now : Nat}

theorem takes_finished : Takes server clock Course.finished now (pure ()) := by
  intro net
  exact ⟨[], true, .start, ⟨rfl, rfl⟩, fun _ => rfl, fun _ => rfl⟩

theorem Takes.after {course : Course} {x : Run (Net σ) Fault Unit} {n : Nat}
    (h : Takes server clock course (now + n) x) {pause : Run (Net σ) Fault Unit}
    (hpause : ∀ net, pause clock now net = ⟨.done (), net, n⟩) :
    Takes server clock course now (pause >>= fun _ => x) := by
  intro net
  obtain ⟨xs, passed, hxs, hcourse, hdone⟩ := h net
  rw [Run.bind_apply, hpause]
  exact ⟨xs, passed, hxs, hcourse, hdone⟩

theorem Yields.takes (hinstant : Instantaneous server) {limit : Nat} {asks : Request → Prop}
    {shows : Exchange → α → Prop} {x : Run (Net σ) Fault α}
    (h : Yields server clock limit asks shows x) {next : α → Course}
    {f : α → Run (Net σ) Fault Unit} (hf : ∀ a, Takes server clock (next a) now (f a)) :
    Takes server clock (.call now asks shows next) now (x >>= f) := by
  intro net
  obtain ⟨reading, hcalls, hdefinite, hasks, hiff⟩ := h
  have hcalled := hcalls now net
  rw [Run.bind_apply]
  rcases hstep : x clock now net with ⟨outcome, later, n⟩
  rw [hstep] at hcalled
  cases hcalled with
  | @answered q _ _ read _ prompt =>
      have hx := Exchanges.single server net now q
      have hasked : asks q := (hasks q).mp ⟨_, _, _, read⟩
      -- An exchange that is read as no value shows none.
      have hnone (houtcome : ∀ a, outcome ≠ .done a) (a : α) :
          ¬ shows ⟨now, q, (server now q net.server).1⟩ a := by
        rw [← hiff]
        exact fun ha => houtcome a (hdefinite _ _ _ read ha)
      cases outcome with
      | done a =>
          have helapsed : n = 0 := (prompt a rfl).trans (hinstant now q net.server)
          obtain ⟨xs, passed, hxs, hcourse, hdone⟩ := hf a _
          subst helapsed
          exact ⟨_, passed, hx.append hxs,
            .goesOn rfl hasked ((hiff _ a).mp read) hcourse, hdone⟩
      | failed fault =>
          exact ⟨_, false, hx, .stopped rfl hasked (hnone nofun), nofun, nofun⟩
      | panicked text =>
          exact ⟨_, false, hx, .stopped rfl hasked (hnone nofun), nofun, nofun⟩
  | unsent silent own =>
      refine ⟨[], false, .start, .unsent fun q hq => ?_, nofun, nofun⟩
      obtain ⟨_, _, _, hread⟩ := (hasks q).mpr hq
      exact silent _ _ hread

theorem Exchanges.reply_of_mem {net later : Net σ} {xs : List Exchange}
    (h : Exchanges server net xs later) :
    ∀ x ∈ xs, ∃ u, x.reply = (server x.time x.request u).1 := by
  induction h with
  | start => exact fun x hx => absurd hx List.not_mem_nil
  | next earlier now q ih =>
      refine List.forall_mem_append.mpr ⟨ih, fun x hx => ?_⟩
      rw [List.mem_singleton.mp hx]
      exact ⟨_, rfl⟩

end Rollout.Http
