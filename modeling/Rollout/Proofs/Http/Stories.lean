import Mathlib.Data.List.Forall2
import Rollout.Proofs.Http.Polls
/-!
# Stories

A story says which exchanges make a run come to which value. The stories of runs that are made one
after the other are told one after the other, and at most one beginning of a transcript is a given
story. So a run that comes to no value was told no such beginning, and nothing that follows can make
up for it.
-/

namespace Rollout.Http

open Time

variable {σ : Type} {α β : Type}

/-- Which exchanges lead to which value. -/
abbrev Story (α : Type) := List Exchange → α → Prop

namespace Story

/-- At most one beginning of a transcript is the story, and it leads to one value. -/
def Definite (s : Story α) : Prop :=
  ∀ xs ys zs a b, xs <+: zs → ys <+: zs → s xs a → s ys b → xs = ys ∧ a = b

/-- One story and then another, which depends on the value that the first one leads to. -/
def andThen (s : Story α) (t : α → Story β) : Story β := fun zs b =>
  ∃ xs a ys, s xs a ∧ t a ys b ∧ zs = xs ++ ys

/-- The exchanges of a run agree with the story: they lead to the value of the run, or none of their
beginnings is the story. -/
def Told (s : Story α) (xs : List Exchange) : Outcome Fault α → Prop
  | .done a => s xs a
  | .failed _ | .panicked _ => ∀ ys a, ys <+: xs → ¬ s ys a

theorem Definite.andThen {s : Story α} {t : α → Story β} (hs : s.Definite)
    (ht : ∀ a, (t a).Definite) : (s.andThen t).Definite := by
  rintro _ _ zs b b' hfirst hsecond ⟨xs, a, ys, hxs, hys, rfl⟩
    ⟨xs', a', ys', hxs', hys', rfl⟩
  have hbegin : xs <+: zs := (List.prefix_append xs ys).trans hfirst
  have hbegin' : xs' <+: zs := (List.prefix_append xs' ys').trans hsecond
  obtain ⟨rfl, rfl⟩ := hs _ _ _ _ _ hbegin hbegin' hxs hxs'
  obtain ⟨rest, rfl⟩ := hbegin
  rw [List.prefix_append_right_inj] at hfirst hsecond
  obtain ⟨rfl, rfl⟩ := ht a _ _ _ _ _ hfirst hsecond hys hys'
  exact ⟨rfl, rfl⟩

section

variable {s : Story α} {t : α → Story β} {xs ys : List Exchange}

theorem not_andThen (h : ∀ ys a, ys <+: xs → ¬ s ys a) {zs : List Exchange} {b : β}
    (hzs : zs <+: xs) : ¬ s.andThen t zs b := by
  rintro ⟨us, a, vs, hus, -, rfl⟩
  exact h us a ((List.prefix_append us vs).trans hzs) hus

theorem Definite.andThen_iff (hs : s.Definite) {a : α} (hxs : s xs a) {zs : List Exchange} {b : β}
    (hzs : zs <+: xs ++ ys) :
    s.andThen t zs b ↔ ∃ vs, vs <+: ys ∧ zs = xs ++ vs ∧ t a vs b := by
  constructor
  · rintro ⟨us, a', vs, hus, hvs, rfl⟩
    have hbegin : us <+: xs ++ ys := (List.prefix_append us vs).trans hzs
    obtain ⟨rfl, rfl⟩ := hs _ _ _ _ _ hbegin (List.prefix_append xs ys) hus hxs
    rw [List.prefix_append_right_inj] at hzs
    exact ⟨vs, hzs, rfl, hvs⟩
  · rintro ⟨vs, -, rfl, hvs⟩
    exact ⟨xs, a, vs, hxs, hvs, rfl⟩

end

end Story

/-- The run comes to its values by the story, and where it comes to none, the story was not told. -/
structure Leads (server : Server σ) (clock : Clock) (s : Story α) (x : Run (Net σ) Fault α) :
    Prop where
  definite : s.Definite
  told : ∀ now net, ∃ xs, Exchanges server net xs (x clock now net).state ∧
    s.Told xs (x clock now net).outcome

/-- The run comes to a value exactly if its exchanges are the story. -/
def Tells (server : Server σ) (clock : Clock) (s : Story α) (x : Run (Net σ) Fault α) : Prop :=
  ∀ now net, ∃ xs, Exchanges server net xs (x clock now net).state ∧
    ∀ a, (x clock now net).outcome = .done a ↔ s xs a

variable {server : Server σ} {clock : Clock}

theorem Tells.congr {s t : Story α} {x : Run (Net σ) Fault α} (h : Tells server clock s x)
    (hiff : ∀ xs a, s xs a ↔ t xs a) : Tells server clock t x := by
  have heq : s = t := funext fun xs => funext fun a => propext (hiff xs a)
  rwa [heq] at h

namespace Leads

theorem tells {s : Story α} {x : Run (Net σ) Fault α} (h : Leads server clock s x) :
    Tells server clock s x := by
  intro now net
  obtain ⟨xs, hxs, htold⟩ := h.told now net
  refine ⟨xs, hxs, fun a => ?_⟩
  cases houtcome : (x clock now net).outcome with
  | done b =>
      rw [houtcome] at htold
      constructor
      · intro heq
        cases heq
        exact htold
      · intro ha
        obtain ⟨-, rfl⟩ := h.definite _ _ _ _ _ (List.prefix_refl xs)
          (List.prefix_refl xs) ha htold
        rfl
  | failed fault =>
      rw [houtcome] at htold
      exact ⟨nofun, fun ha => absurd ha (htold xs a (List.prefix_refl xs))⟩
  | panicked text =>
      rw [houtcome] at htold
      exact ⟨nofun, fun ha => absurd ha (htold xs a (List.prefix_refl xs))⟩

theorem congr {s t : Story α} {x : Run (Net σ) Fault α} (h : Leads server clock s x)
    (hiff : ∀ xs a, s xs a ↔ t xs a) : Leads server clock t x := by
  have heq : s = t := funext fun xs => funext fun a => propext (hiff xs a)
  rwa [heq] at h

theorem ofExcept (x : Except Fault α) :
    Leads server clock (fun xs a => xs = [] ∧ x = .ok a) (.ofExcept x) where
  definite := by
    rintro xs ys zs a b - - ⟨rfl, ha⟩ ⟨rfl, hb⟩
    rw [ha] at hb
    cases hb
    exact ⟨rfl, rfl⟩
  told now net := by
    refine ⟨[], ?_⟩
    cases x with
    | ok a => exact ⟨.start, rfl, rfl⟩
    | error fault => exact ⟨.start, fun ys a _ h => by cases h.2⟩

theorem pure (a : α) : Leads server clock (fun xs b => xs = [] ∧ b = a) (Pure.pure a) := by
  refine (ofExcept (.ok a)).congr fun xs b => ?_
  rw [Except.ok.injEq, eq_comm (a := a)]

section

variable {s : Story α} {t : α → Story β} {x : Run (Net σ) Fault α}
  {f : α → Run (Net σ) Fault β}
  (hx : Leads server clock s x)
include hx

theorem bind (hf : ∀ a, Leads server clock (t a) (f a)) :
    Leads server clock (s.andThen t) (x >>= f) where
  definite := hx.definite.andThen fun a => (hf a).definite
  told now net := by
    obtain ⟨xs, hxs, htold⟩ := hx.told now net
    rw [Run.bind_apply]
    rcases hstep : x clock now net with ⟨a | fault | text, mid, n⟩ <;> rw [hstep] at hxs htold
    · obtain ⟨ys, hys, hrest⟩ := (hf a).told (now + n) mid
      refine ⟨xs ++ ys, hxs.append hys, ?_⟩
      -- A beginning that were the whole story would have to go on from the first one.
      have hnone (h : ∀ vs b, vs <+: ys → ¬ t a vs b) (zs : List Exchange) (b : β)
          (hzs : zs <+: xs ++ ys) : ¬ s.andThen t zs b := by
        rw [hx.definite.andThen_iff htold hzs]
        rintro ⟨vs, hvs, -, hb⟩
        exact h vs b hvs hb
      simp only
      cases houtcome : (f a clock (now + n) mid).outcome with
      | done b =>
          rw [houtcome] at hrest
          exact ⟨xs, a, ys, htold, hrest, rfl⟩
      | failed fault =>
          rw [houtcome] at hrest
          exact hnone hrest
      | panicked text =>
          rw [houtcome] at hrest
          exact hnone hrest
    · exact ⟨xs, hxs, fun zs b hzs => Story.not_andThen htold hzs⟩
    · exact ⟨xs, hxs, fun zs b hzs => Story.not_andThen htold hzs⟩

theorem bind_tells (hf : ∀ a, Tells server clock (t a) (f a)) :
    Tells server clock (s.andThen t) (x >>= f) := by
  intro now net
  obtain ⟨xs, hxs, htold⟩ := hx.told now net
  rw [Run.bind_apply]
  rcases hstep : x clock now net with ⟨a | fault | text, mid, n⟩ <;> rw [hstep] at hxs htold
  · obtain ⟨ys, hys, hrest⟩ := hf a (now + n) mid
    refine ⟨xs ++ ys, hxs.append hys, fun b => ?_⟩
    rw [hx.definite.andThen_iff htold (List.prefix_refl _)]
    apply (hrest b).trans
    constructor
    · exact fun hb => ⟨ys, List.prefix_refl ys, rfl, hb⟩
    · rintro ⟨vs, -, hvs, hb⟩
      rwa [List.append_cancel_left hvs]
  · refine ⟨xs, hxs, fun b => ⟨nofun, fun hb => ?_⟩⟩
    exact absurd hb (Story.not_andThen htold (List.prefix_refl xs))
  · refine ⟨xs, hxs, fun b => ⟨nofun, fun hb => ?_⟩⟩
    exact absurd hb (Story.not_andThen htold (List.prefix_refl xs))

end

theorem ofExcept_bind {x : Except Fault α} {t : α → Story β} {f : α → Run (Net σ) Fault β}
    (hf : ∀ a, x = .ok a → Leads server clock (t a) (f a)) :
    Leads server clock (fun xs b => ∃ a, x = .ok a ∧ t a xs b) (.ofExcept x >>= f) := by
  cases x with
  | ok a =>
      rw [Run.ofExcept_ok_bind]
      refine (hf a rfl).congr fun xs b => ⟨fun h => ⟨a, rfl, h⟩, ?_⟩
      rintro ⟨a', ha, h⟩
      cases ha
      exact h
  | error fault =>
      refine ⟨?_, fun now net => ⟨[], .start, ?_⟩⟩
      · rintro xs ys zs b b' - - ⟨a, ha, -⟩
        cases ha
      · rintro ys b - ⟨a, ha, -⟩
        cases ha

theorem map {s : Story α} {x : Run (Net σ) Fault α} (h : Leads server clock s x)
    (f : α → β) :
    Leads server clock (fun xs b => ∃ a, s xs a ∧ b = f a)
      (x >>= fun a => Pure.pure (f a)) := by
  refine (h.bind fun a => pure (f a)).congr fun xs b => ?_
  constructor
  · rintro ⟨xs, a, _, hxs, ⟨rfl, rfl⟩, rfl⟩
    rw [List.append_nil]
    exact ⟨a, hxs, rfl⟩
  · rintro ⟨a, hxs, rfl⟩
    exact ⟨xs, a, [], hxs, ⟨rfl, rfl⟩, (List.append_nil xs).symm⟩

/-- One exchange for each item, in order. -/
theorem forEach {P : α → Exchange → Prop} {f : α → Run (Net σ) Fault Unit}
    (hf : ∀ item, Leads server clock (fun xs _ => ∃ x, xs = [x] ∧ P item x) (f item))
    (items : List α) :
    Leads server clock (fun xs _ => List.Forall₂ P items xs) (Run.forEach items f) := by
  induction items with
  | nil =>
      refine (pure ()).congr fun xs _ => ?_
      rw [List.forall₂_nil_left_iff]
      exact ⟨And.left, fun h => ⟨h, rfl⟩⟩
  | cons item rest ih =>
      refine ((hf item).bind fun _ => ih).congr fun xs _ => ?_
      constructor
      · rintro ⟨_, _, ys, ⟨x, rfl, hx⟩, hrest, rfl⟩
        exact .cons hx hrest
      · intro h
        cases h with
        | @cons _ x _ ys hx hrest => exact ⟨[x], (), ys, ⟨x, rfl, hx⟩, hrest, rfl⟩

end Leads

/-! ## Calls -/

theorem leading_unique {x y : Exchange} {zs : List Exchange} (hx : [x] <+: zs)
    (hy : [y] <+: zs) : x = y := by
  obtain ⟨rest, rfl⟩ := hx
  exact (List.cons_prefix_cons.mp hy).1.symm

/-- What is there, or nothing if that is the answer. -/
def found (x : Run (Net σ) Fault α) : Run (Net σ) Fault (Option α) := do
  match ← x.attempt with
  | .ok a => return some a
  | .error fault => if fault.isNotFound then return none else .fail fault

/-- The outcome of a run that finds something or nothing. -/
def foundOutcome : Outcome Fault α → Outcome Fault (Option α)
  | .done a => .done (some a)
  | .failed fault => if fault.isNotFound then .done none else .failed fault
  | .panicked text => .panicked text

theorem found_apply (x : Run (Net σ) Fault α) (clock : Clock) (now : Nat) (net : Net σ) :
    found x clock now net = ⟨foundOutcome (x clock now net).outcome, (x clock now net).state,
      (x clock now net).elapsed⟩ := by
  unfold found
  rw [Run.bind_apply, Run.attempt_apply]
  rcases x clock now net with ⟨a | fault | text, later, n⟩
  · rfl
  · simp only [foundOutcome]
    split <;> rfl
  · rfl

namespace Calls

variable {limit : Nat} {reading : Reading α} {x : Run (Net σ) Fault α}
  (h : Calls server clock limit reading x) (hdefinite : reading.Definite)
include h hdefinite

/-- A run that makes a call and nothing else is told by the one exchange of the call, whatever is
made of its outcome. -/
theorem leads_of_outcome {y : Run (Net σ) Fault β} {g : Outcome Fault α → Outcome Fault β}
    (hy : ∀ now net, y clock now net =
      ⟨g (x clock now net).outcome, (x clock now net).state, (x clock now net).elapsed⟩)
    (hfailed : ∀ fault, fault.isNotFound = false →
      ∃ other, g (.failed fault) = .failed other) :
    Leads server clock (fun xs b => ∃ e o, xs = [e] ∧ reading e o ∧ g o = .done b) y where
  definite := by
    rintro _ _ zs b b' hfirst hsecond ⟨e, o, rfl, he, hb⟩ ⟨e', o', rfl, he', hb'⟩
    obtain rfl := leading_unique hfirst hsecond
    rw [hdefinite e o o' he he', hb'] at hb
    cases hb
    exact ⟨rfl, rfl⟩
  told now net := by
    have hcalled := h now net
    rw [hy]
    rcases hstep : x clock now net with ⟨outcome, later, n⟩
    rw [hstep] at hcalled
    cases hcalled with
    | @answered q _ _ read _ _ =>
        refine ⟨_, .single server net now q, ?_⟩
        -- The only beginning with an exchange is the exchange itself, and it is read in one way.
        have hnone (hg : ∀ b, g outcome ≠ .done b) (ys : List Exchange) (b : β)
            (hys : ys <+: [⟨now, q, (server now q net.server).1⟩]) :
            ¬ ∃ e o, ys = [e] ∧ reading e o ∧ g o = .done b := by
          rintro ⟨e, o, rfl, he, hb⟩
          obtain rfl := leading_unique hys (List.prefix_refl _)
          rw [hdefinite _ o outcome he read] at hb
          exact hg b hb
        simp only
        cases hg : g outcome with
        | done b => exact ⟨_, outcome, rfl, read, hg⟩
        | failed fault => exact hnone fun b hb => by rw [hg] at hb; cases hb
        | panicked text => exact hnone fun b hb => by rw [hg] at hb; cases hb
    | @unsent fault silent own =>
        obtain ⟨other, hother⟩ := hfailed fault own
        refine ⟨[], .start, ?_⟩
        rw [hother]
        rintro ys b - ⟨e, o, -, he, -⟩
        exact silent e o he

end Calls

theorem Yields.leads {limit : Nat} {asks : Request → Prop} {shows : Exchange → α → Prop}
    {x : Run (Net σ) Fault α} (h : Yields server clock limit asks shows x) :
    Leads server clock (fun xs a => ∃ e, xs = [e] ∧ shows e a) x := by
  obtain ⟨reading, hcalls, hdefinite, -, hiff⟩ := h
  refine (hcalls.leads_of_outcome hdefinite (g := id) (fun _ _ => rfl)
    fun fault _ => ⟨fault, rfl⟩).congr fun xs a => ?_
  constructor
  · rintro ⟨e, o, hxs, he, rfl⟩
    exact ⟨e, hxs, (hiff e a).mp he⟩
  · rintro ⟨e, hxs, he⟩
    exact ⟨e, _, hxs, (hiff e a).mpr he, rfl⟩

theorem Finds.found_leads {limit : Nat} {shows : Exchange → α → Prop}
    {misses : Exchange → Prop}
    {x : Run (Net σ) Fault α} (h : Finds server clock limit shows misses x) :
    Leads server clock (fun xs o => ∃ e, xs = [e] ∧ match o with
      | some a => shows e a
      | none => misses e) (found x) := by
  obtain ⟨reading, hcalls, hdefinite, hshows, hmisses⟩ := h
  refine (hcalls.leads_of_outcome hdefinite (g := foundOutcome) (found_apply x clock)
    fun fault own => ⟨fault, ?_⟩).congr fun xs o => ?_
  · simp only [foundOutcome, own, Bool.false_eq_true, if_false]
  · constructor
    · rintro ⟨e, outcome, hxs, he, hdone⟩
      refine ⟨e, hxs, ?_⟩
      cases outcome with
      | done a =>
          cases hdone
          exact (hshows e a).mp he
      | failed fault =>
          cases fault with
          | notFound text =>
              cases hdone
              exact (hmisses e).mp ⟨text, he⟩
          | _ => cases hdone
      | panicked text => cases hdone
    · rintro ⟨e, hxs, he⟩
      cases o with
      | some a => exact ⟨e, .done a, hxs, (hshows e a).mpr he, rfl⟩
      | none =>
          obtain ⟨text, he⟩ := (hmisses e).mpr he
          exact ⟨e, .failed (.notFound text), hxs, he, rfl⟩

/-! ## Waits -/

/-- No exchange is made later than a span after the first one. -/
def InTime (timeout : Span) (xs : List Exchange) : Prop :=
  ∀ first ∈ xs.head?, ∀ x ∈ xs, x.time ≤ first.time + timeout.nanos

/-- A wait that was worth it: something held in none of the exchanges but the last, in time. -/
def Waited (still met : Exchange → Prop) (timeout : Span) (xs : List Exchange) : Prop :=
  ∃ ys x, xs = ys ++ [x] ∧ (∀ y ∈ ys, still y) ∧ met x ∧ InTime timeout xs

/-- A wait in vain: nothing has changed in any of its exchanges, and all were made in time. -/
def Lingered (still : Exchange → Prop) (timeout : Span) (xs : List Exchange) : Prop :=
  xs ≠ [] ∧ (∀ x ∈ xs, still x) ∧ InTime timeout xs

theorem append_singleton_unique {still met : Exchange → Prop} (hne : ∀ x, still x → ¬ met x)
    {x y : Exchange} (hx : met x) (hy : met y) (before : List Exchange) :
    ∀ (after zs : List Exchange), (∀ e ∈ before, still e) → (∀ e ∈ after, still e) →
      before ++ [x] <+: zs → after ++ [y] <+: zs → before ++ [x] = after ++ [y] := by
  induction before with
  | nil =>
      intro after zs _ hafter hfirst hsecond
      cases after with
      | nil => rw [leading_unique hfirst hsecond]
      | cons b after =>
          obtain ⟨rest, rfl⟩ := hfirst
          have hb : b = x := (List.cons_prefix_cons.mp hsecond).1
          exact absurd hx (hne x (hb ▸ hafter b List.mem_cons_self))
  | cons a before ih =>
      intro after zs hbefore hafter hfirst hsecond
      cases after with
      | nil =>
          obtain ⟨rest, rfl⟩ := hsecond
          have ha : a = y := (List.cons_prefix_cons.mp hfirst).1
          exact absurd hy (hne y (ha ▸ hbefore a List.mem_cons_self))
      | cons b after =>
          obtain ⟨rest, rfl⟩ := hfirst
          obtain ⟨rfl, htail⟩ := List.cons_prefix_cons.mp hsecond
          have hrest := ih after _ (List.forall_mem_cons.mp hbefore).2
            (List.forall_mem_cons.mp hafter).2 (List.prefix_append _ rest) htail
          exact congrArg (b :: ·) hrest

section

variable {limit : Nat} {reading : Reading Bool} {condition : Run (Net σ) Fault Bool}
  (h : Calls server clock limit reading condition)
include h

/-- A wait is told by its exchanges, or none is made and it comes to nothing. -/
theorem awaitUntil_polled (hclock : ∀ n, clock.lasting n ≤ n) {p : Patience}
    (hp : 0 < p.interval.nanos) (now : Nat) (net : Net σ) :
    let step := Run.awaitUntil p condition clock now net
    ∃ xs, Exchanges server net xs step.state ∧ InTime p.timeout xs ∧
      (Polled reading xs step.outcome ∨ xs = [] ∧ ∀ b, step.outcome ≠ .done b) := by
  by_cases hdeadline : now + p.timeout.nanos < instantLimit
  · obtain ⟨xs, hxs, hfirst, htimes, hend⟩ := h.replies.awaitUntil hp hdeadline net
    refine ⟨xs, hxs, ?_, ?_⟩
    · intro first hhead x hx
      rw [hfirst first hhead]
      exact htimes hclock x hx
    · rcases hend with hpolled | ⟨hnil, fault, -, hfailed⟩
      · exact .inl hpolled
      · refine .inr ⟨hnil, fun b hb => ?_⟩
        rw [hfailed] at hb
        cases hb
  · have happly : Run.awaitUntil p condition clock now net = _ :=
      Run.bind_ofExcept_apply (Run.pollUntil p (Run.met condition)) (fun o => .ok o.isSome) clock
        now net
    rw [happly, Run.pollUntil_of_no_deadline _ _ hdeadline]
    refine ⟨[], .start, ?_, .inr ⟨rfl, fun b hb => by cases hb⟩⟩
    exact fun first hfirst => by cases hfirst

end

section

variable {limit : Nat} {asks : Request → Prop} {shows : Exchange → Bool → Prop}
  {condition : Run (Net σ) Fault Bool} (h : Yields server clock limit asks shows condition)
  (hclock : ∀ n, clock.lasting n ≤ n) {p : Patience} (hp : 0 < p.interval.nanos)
  {k : Bool → Run (Net σ) Fault Unit} {fault : Fault}
include h hclock hp

theorem Yields.waited_leads (htrue : k true = pure ()) (hfalse : k false = .fail fault) :
    Leads server clock (fun xs _ => Waited (shows · false) (shows · true) p.timeout xs)
      (Run.awaitUntil p condition >>= k) := by
  obtain ⟨reading, hcalls, hdefinite, -, hiff⟩ := h
  have hne (e : Exchange) (hstill : shows e false) : ¬ shows e true := by
    rw [← hiff] at hstill ⊢
    exact fun hover => by cases hdefinite e _ _ hstill hover
  refine ⟨?_, fun now net => ?_⟩
  · rintro _ _ zs _ _ hfirst hsecond ⟨xs, x, rfl, hxs, hx, -⟩ ⟨ys, y, rfl, hys, hy, -⟩
    exact ⟨append_singleton_unique hne hx hy xs ys zs hxs hys hfirst hsecond, rfl⟩
  obtain ⟨xs, hxs, htimes, hend⟩ := awaitUntil_polled hcalls hclock hp now net
  rw [Run.bind_apply]
  rcases hstep : Run.awaitUntil p condition clock now net with ⟨outcome, later, n⟩
  rw [hstep] at hxs hend
  have hnone (ho : outcome ≠ .done true) (zs : List Exchange) (hzs : zs <+: xs) :
      ¬ Waited (shows · false) (shows · true) p.timeout zs := by
    rintro ⟨ys, x, rfl, -, hx, -⟩
    have hmem : x ∈ xs := hzs.subset (List.mem_append_right _ (List.mem_singleton_self x))
    rcases hend with hpolled | ⟨rfl, -⟩
    · exact hpolled.not_met hdefinite ho x hmem ((hiff x true).mpr hx)
    · exact absurd hmem List.not_mem_nil
  cases outcome with
  | done b =>
      cases b with
      | true =>
          rcases hend with hpolled | ⟨-, hfailed⟩
          · obtain ⟨ys, x, rfl, hys, hx⟩ := hpolled.split
            simp only [htrue]
            exact ⟨_, hxs, ys, x, rfl, fun y hy => (hiff y false).mp (hys y hy),
              (hiff x true).mp hx, htimes⟩
          · exact absurd rfl (hfailed true)
      | false =>
          simp only [hfalse]
          exact ⟨xs, hxs, fun zs _ hzs => hnone nofun zs hzs⟩
  | failed fault => exact ⟨xs, hxs, fun zs _ hzs => hnone nofun zs hzs⟩
  | panicked text => exact ⟨xs, hxs, fun zs _ hzs => hnone nofun zs hzs⟩

theorem Yields.lingered_tells (htrue : k true = .fail fault) (hfalse : k false = pure ()) :
    Tells server clock (fun xs _ => Lingered (shows · false) p.timeout xs)
      (Run.awaitUntil p condition >>= k) := by
  obtain ⟨reading, hcalls, hdefinite, -, hiff⟩ := h
  intro now net
  obtain ⟨xs, hxs, htimes, hend⟩ := awaitUntil_polled hcalls hclock hp now net
  rw [Run.bind_apply]
  rcases hstep : Run.awaitUntil p condition clock now net with ⟨outcome, later, n⟩
  rw [hstep] at hxs hend
  have hvain (hlingered : Lingered (shows · false) p.timeout xs) : outcome = .done false := by
    rcases hend with hpolled | ⟨hnil, -⟩
    · exact hpolled.eq_unmet hdefinite fun x hx => (hiff x false).mpr (hlingered.2.1 x hx)
    · exact absurd hnil hlingered.1
  cases outcome with
  | done b =>
      cases b with
      | true =>
          simp only [htrue]
          exact ⟨xs, hxs, fun _ => ⟨nofun, fun hlingered => nomatch (hvain hlingered)⟩⟩
      | false =>
          simp only [hfalse]
          refine ⟨xs, hxs, fun _ => ⟨fun _ => ?_, fun _ => rfl⟩⟩
          rcases hend with hpolled | ⟨-, hfailed⟩
          · exact ⟨hpolled.ne_nil, fun x hx => (hiff x false).mp (hpolled.unmet x hx), htimes⟩
          · exact absurd rfl (hfailed false)
  | failed fault => exact ⟨xs, hxs,
    fun _ => ⟨nofun, fun hlingered => nomatch (hvain hlingered)⟩⟩
  | panicked text => exact ⟨xs, hxs,
    fun _ => ⟨nofun, fun hlingered => nomatch (hvain hlingered)⟩⟩

end

end Rollout.Http
