import Mathlib.Data.List.Range
import Rollout.Proofs.Run.Rounds
/-!
# Conditions that last

A condition that is a matter of time alone is looked at without taking time, by a wait whose sleeps
are exact. The instants at which that happens are laid down here by arithmetic alone: one after
every full interval below the timeout, and one at the deadline. A condition that comes to hold and
lasts is then met at the first of them that is late enough.
-/

namespace Rollout.Run

open Time

variable {ε α : Type}

/-- The check that takes no time and yields what the instant gives. It writes down the instants at
which it is evaluated. -/
def sampled (yields : Nat → Option α) : Run (List Nat) ε (Option α) :=
  fun _ now seen => ⟨.done (yields now), seen ++ [now], 0⟩

/-- The instants at which a wait looks that is never answered. -/
def instants (interval start timeout : Nat) : List Nat :=
  (List.range ((timeout + interval - 1) / interval)).map (fun j => start + j * interval) ++
    [start + timeout]

/-! ## The instants -/

section

variable {interval : Nat} (h : 0 < interval)
include h

/-- The full intervals below a timeout are those whose number is below the rounded quotient. -/
theorem lt_roundedUp_iff (j timeout : Nat) :
    j < (timeout + interval - 1) / interval ↔ j * interval < timeout := by
  rw [Nat.lt_iff_add_one_le, Nat.le_div_iff_mul_le h, Nat.add_mul, Nat.one_mul]
  omega

theorem mem_instants_iff (start timeout t : Nat) :
    t ∈ instants interval start timeout ↔
      (∃ j, j * interval < timeout ∧ t = start + j * interval) ∨ t = start + timeout := by
  simp only [instants, List.mem_append, List.mem_map, List.mem_range, List.mem_singleton,
    lt_roundedUp_iff h]
  refine or_congr (exists_congr fun j => and_congr_right fun _ => ?_) Iff.rfl
  exact eq_comm

theorem pairwise_instants (start timeout : Nat) :
    (instants interval start timeout).Pairwise (· < ·) := by
  rw [instants, List.pairwise_append]
  refine ⟨?_, List.pairwise_singleton _ _, ?_⟩
  · rw [List.pairwise_map]
    refine List.pairwise_lt_range.imp fun {j k} hjk => ?_
    have hmul : j * interval < k * interval := Nat.mul_lt_mul_of_pos_right hjk h
    omega
  · intro t ht u hu
    obtain ⟨j, hj, rfl⟩ := List.mem_map.mp ht
    have hbelow := (lt_roundedUp_iff h j timeout).mp (List.mem_range.mp hj)
    rw [List.mem_singleton.mp hu]
    omega

omit h in
theorem length_instants (start timeout : Nat) :
    (instants interval start timeout).length = (timeout + interval - 1) / interval + 1 := by
  simp [instants]

theorem instants_zero (start : Nat) : instants interval start 0 = [start] := by
  have hnone : (0 + interval - 1) / interval = 0 := Nat.div_eq_of_lt (by omega)
  rw [instants, hnone]
  rfl

theorem instants_of_pos {timeout : Nat} (htimeout : 0 < timeout) (start : Nat) :
    instants interval start timeout =
      start :: instants interval (start + min interval timeout)
        (timeout - min interval timeout) := by
  by_cases hcut : timeout ≤ interval
  · have hone : (timeout + interval - 1) / interval = 1 := by
      rw [Nat.div_eq_iff h]
      omega
    rw [Nat.min_eq_right hcut, Nat.sub_self, instants_zero h, instants, hone]
    simp
  · have hmin : min interval timeout = interval := by omega
    have hround : (timeout + interval - 1) / interval =
        (timeout - interval + interval - 1) / interval + 1 := by
      rw [← Nat.add_div_right _ h]
      congr 1
      omega
    rw [hmin, instants, instants, hround, List.range_succ_eq_map, List.map_cons, List.map_map]
    have hlast : start + interval + (timeout - interval) = start + timeout := by omega
    rw [hlast, Nat.zero_mul, Nat.add_zero, List.cons_append]
    congr 2
    apply List.map_congr_left
    intro j _
    simp only [Function.comp, Nat.succ_mul]
    omega

theorem exists_instants_eq_cons (start timeout : Nat) :
    ∃ due, instants interval start timeout = start :: due := by
  rcases Nat.eq_zero_or_pos timeout with rfl | htimeout
  · exact ⟨[], instants_zero h start⟩
  · exact ⟨_, instants_of_pos h htimeout start⟩

end

example : instants 10 100 25 = [100, 110, 120, 125] := by decide

/-! ## The wait -/

/-- How a wait ends for which these instants are due: at the first one that yields something, if
there is one. -/
def sampledAt (yields : Nat → Option α) (start timeout : Nat) (seen due : List Nat) :
    Step (List Nat) ε (Option α) :=
  match due.find? fun t => (yields t).isSome with
  | some t =>
    ⟨.done (yields t), seen ++ due.takeWhile (fun u => (yields u).isNone) ++ [t], t - start⟩
  | none => ⟨.done none, seen ++ due, timeout⟩

theorem sampledAt_cons_some {yields : Nat → Option α} {t : Nat} {a : α} (ht : yields t = some a)
    (start timeout : Nat) (seen due : List Nat) :
    (sampledAt yields start timeout seen (t :: due) : Step (List Nat) ε (Option α)) =
      ⟨.done (some a), seen ++ [t], t - start⟩ := by
  simp [sampledAt, ht]

theorem sampledAt_cons_none {yields : Nat → Option α} {t : Nat} (ht : yields t = none)
    (start timeout : Nat) (seen due : List Nat) :
    (sampledAt yields start timeout seen (t :: due) : Step (List Nat) ε (Option α)) =
      sampledAt yields start timeout (seen ++ [t]) due := by
  simp [sampledAt, ht]

theorem sampledAt_delayed (yields : Nat → Option α) (start pause timeout : Nat)
    (seen due : List Nat) (hpause : pause ≤ timeout) (hdue : ∀ t ∈ due, start + pause ≤ t) :
    (sampledAt yields start timeout seen due : Step (List Nat) ε (Option α)) =
      let rest := sampledAt yields (start + pause) (timeout - pause) seen due
      ⟨rest.outcome, rest.state, pause + rest.elapsed⟩ := by
  unfold sampledAt
  cases hfind : due.find? fun t => (yields t).isSome with
  | none =>
      simp only
      congr 1
      omega
  | some t =>
      have hlate := hdue t (List.mem_of_find?_eq_some hfind)
      simp only
      congr 1
      omega

section

variable (yields : Nat → Option α) {interval : Nat} (h : 0 < interval) (start timeout : Nat)
  (seen : List Nat)

theorem pollFrom_sampled_last (hlast : yields start = none → timeout = 0) :
    (pollFrom (sampled yields) .exact interval (start + timeout) h start seen :
      Step (List Nat) ε (Option α)) = ⟨.done (yields start), seen ++ [start], 0⟩ := by
  refine pollFrom_of_not_open _ _ _ _ h ?_
  rintro ⟨houtcome, hreached⟩
  have htimeout : timeout = 0 := hlast (Outcome.done.inj houtcome)
  rw [htimeout] at hreached
  exact Nat.lt_irrefl _ hreached

/-- Any other look is followed by an interval, or by what is left of it. -/
theorem pollFrom_sampled_again (hstart : yields start = none) (htimeout : 0 < timeout) :
    (pollFrom (sampled yields) .exact interval (start + timeout) h start seen :
        Step (List Nat) ε (Option α)) =
      let rest := pollFrom (sampled yields) .exact interval (start + timeout) h
        (start + min interval timeout) (seen ++ [start])
      ⟨rest.outcome, rest.state, min interval timeout + rest.elapsed⟩ := by
  let first : Evaluation (List Nat) ε α := (sampled yields).evaluate .exact start seen
  have hopen : first.Open (start + timeout) :=
    ⟨congrArg Outcome.done hstart, Nat.lt_add_of_pos_right htimeout⟩
  have hfollowing : first.following .exact interval (start + timeout) =
      start + min interval timeout := by
    show start + min interval (start + timeout - start) = start + min interval timeout
    rw [Nat.add_sub_cancel_left]
  have hstate : first.step.state = seen ++ [start] := rfl
  rw [pollFrom_of_open _ _ _ _ h hopen]
  simp only [first] at hfollowing hstate
  simp only [hfollowing, hstate, Nat.add_sub_cancel_left]

end

/-- A wait with exact sleeps looks at its instants, one after the other. -/
theorem pollFrom_sampled (yields : Nat → Option α) {interval : Nat} (h : 0 < interval)
    (start timeout : Nat) (seen : List Nat) :
    (pollFrom (sampled yields) .exact interval (start + timeout) h start seen :
        Step (List Nat) ε (Option α)) =
      sampledAt yields start timeout seen (instants interval start timeout) := by
  induction timeout using Nat.strongRecOn generalizing start seen with
  | _ timeout ih =>
      cases hstart : yields start with
      | some a =>
          obtain ⟨due, hdue⟩ := exists_instants_eq_cons h start timeout
          rw [pollFrom_sampled_last _ h _ _ _ (by simp [hstart]), hdue,
            sampledAt_cons_some hstart, hstart, Nat.sub_self]
      | none =>
          rcases Nat.eq_zero_or_pos timeout with rfl | htimeout
          · rw [pollFrom_sampled_last _ h _ _ _ (fun _ => rfl), instants_zero h,
              sampledAt_cons_none hstart, hstart]
            simp [sampledAt]
          · -- The rest is the wait that starts after the pause, with the same deadline.
            have hpause : min interval timeout ≤ timeout := Nat.min_le_right _ _
            have hdeadline : start + timeout =
                start + min interval timeout + (timeout - min interval timeout) := by omega
            have hrest := ih (timeout - min interval timeout) (by omega)
              (start + min interval timeout) (seen ++ [start])
            rw [← hdeadline] at hrest
            have hdue : ∀ t ∈ instants interval (start + min interval timeout)
                (timeout - min interval timeout), start + min interval timeout ≤ t := by
              intro t ht
              rcases (mem_instants_iff h _ _ _).mp ht with ⟨j, -, rfl⟩ | rfl <;> omega
            rw [pollFrom_sampled_again _ h _ _ _ hstart htimeout, hrest,
              instants_of_pos h htimeout, sampledAt_cons_none hstart,
              sampledAt_delayed _ _ _ _ _ _ hpause hdue]

theorem pollUntil_sampled (yields : Nat → Option α) {p : Patience} {start : Nat}
    (hdeadline : start + p.timeout.nanos < instantLimit) (hinterval : 0 < p.interval.nanos) :
    (pollUntil p (sampled yields) .exact start [] : Step (List Nat) ε (Option α)) =
      sampledAt yields start p.timeout.nanos []
        (instants p.interval.nanos start p.timeout.nanos) := by
  unfold pollUntil deadline?
  rw [if_pos hdeadline]
  simp only [dif_pos hinterval]
  exact pollFrom_sampled yields hinterval start p.timeout.nanos []

/-! ## Conditions that come to hold and last -/

theorem least_of_find? {due : List Nat} (hsorted : due.Pairwise (· < ·)) {T t : Nat}
    (hfind : due.find? (fun u => decide (T ≤ u)) = some t) :
    t ∈ due ∧ T ≤ t ∧ ∀ u ∈ due, T ≤ u → t ≤ u := by
  obtain ⟨hlate, early, later, rfl, hearly⟩ := List.find?_eq_some_iff_append.mp hfind
  refine ⟨by simp, of_decide_eq_true hlate, ?_⟩
  intro u hu hT
  rcases List.mem_append.mp hu with hbefore | hfrom
  · have htooEarly := hearly u hbefore
    simp [hT] at htooEarly
  · rcases List.mem_cons.mp hfrom with rfl | hafter
    · exact Nat.le_refl _
    · have htail := (List.pairwise_append.mp hsorted).2.1
      exact Nat.le_of_lt ((List.pairwise_cons.mp htail).1 u hafter)

section

variable {yields : Nat → Option α} (start timeout : Nat) (due : List Nat)

theorem sampledAt_of_never (hnever : ∀ t, yields t = none) :
    (sampledAt yields start timeout [] due : Step (List Nat) ε (Option α)) =
      ⟨.done none, due, timeout⟩ := by
  have hfind : due.find? (fun t => (yields t).isSome) = none := by
    rw [List.find?_eq_none]
    intro t _
    simp [hnever t]
  rw [sampledAt, hfind]
  rfl

variable {T : Nat} (hbefore : ∀ t < T, yields t = none)
  (hafter : ∀ t, T ≤ t → (yields t).isSome)
include hbefore hafter

/-- Of a condition that lasts from `T` on, only `T` matters for where a wait ends. -/
theorem sampledAt_of_lasting :
    (sampledAt yields start timeout [] due : Step (List Nat) ε (Option α)) =
      match due.find? fun t => decide (T ≤ t) with
      | some t => ⟨.done (yields t), due.takeWhile (fun u => decide (u < T)) ++ [t], t - start⟩
      | none => ⟨.done none, due, timeout⟩ := by
  have hholds : (fun t => (yields t).isSome) = fun t => decide (T ≤ t) := by
    funext t
    by_cases hT : T ≤ t
    · rw [hafter t hT, decide_eq_true hT]
    · rw [hbefore t (by omega), decide_eq_false hT, Option.isSome_none]
  have hwaits : (fun t => (yields t).isNone) = fun t => decide (t < T) := by
    funext t
    have hsame := congrFun hholds t
    rw [← Option.not_isSome, hsame, ← decide_not]
    simp
  rw [sampledAt, hholds, hwaits]
  simp only [List.nil_append]

end

/-- A wait with exact sleeps for a condition that takes no time to look at. If it never holds, the
wait looks at the start, after every full interval below the timeout and at the deadline, and ends
there. If it holds from `T` on, it is met just if `T` is no later than the deadline, at the first of
these instants that is not before `T`. -/
theorem pollUntil_misses_no_lasting_condition (p : Patience) (start : Nat)
    (yields : Nat → Option α) (hdeadline : start + p.timeout.nanos < instantLimit)
    (hinterval : 0 < p.interval.nanos) :
    let interval := p.interval.nanos
    let timeout := p.timeout.nanos
    let due := instants interval start timeout
    let step : Step (List Nat) ε (Option α) := pollUntil p (sampled yields) .exact start []
    ((∀ t, t ∈ due ↔
          (∃ j, j * interval < timeout ∧ t = start + j * interval) ∨ t = start + timeout) ∧
        due.Pairwise (· < ·) ∧ due.length = (timeout + interval - 1) / interval + 1) ∧
      ((∀ t, yields t = none) → step = ⟨.done none, due, timeout⟩) ∧
      ∀ T, (∀ t < T, yields t = none) → (∀ t, T ≤ t → (yields t).isSome) →
        ((∃ a, step.outcome = .done (some a)) ↔ T ≤ start + timeout) ∧
          (T ≤ start + timeout → ∃ t ∈ due, T ≤ t ∧
            (∀ u ∈ due, T ≤ u → t ≤ u) ∧
            step = ⟨.done (yields t), due.takeWhile (fun u => decide (u < T)) ++ [t],
              t - start⟩) ∧
          (start + timeout < T → step = ⟨.done none, due, timeout⟩) := by
  intro interval timeout due step
  have hmem := mem_instants_iff hinterval start timeout
  have hsorted := pairwise_instants hinterval start timeout
  have hstep : step = sampledAt yields start timeout [] due :=
    pollUntil_sampled yields hdeadline hinterval
  refine ⟨⟨hmem, hsorted, length_instants start timeout⟩, ?_, ?_⟩
  · intro hnever
    rw [hstep, sampledAt_of_never start timeout due hnever]
  · intro T hbefore hafter
    rw [sampledAt_of_lasting start timeout due hbefore hafter] at hstep
    by_cases hT : T ≤ start + timeout
    · -- The deadline is due, so some instant from `T` on is.
      have hend : start + timeout ∈ due := (hmem _).mpr (Or.inr rfl)
      have hsome : (due.find? fun t => decide (T ≤ t)).isSome :=
        List.find?_isSome.mpr ⟨_, hend, decide_eq_true hT⟩
      obtain ⟨t, hfind⟩ := Option.isSome_iff_exists.mp hsome
      obtain ⟨hdue, hlate, hleast⟩ := least_of_find? hsorted hfind
      obtain ⟨a, ha⟩ := Option.isSome_iff_exists.mp (hafter t hlate)
      rw [hfind] at hstep
      refine ⟨⟨fun _ => hT, fun _ => ⟨a, ?_⟩⟩,
        fun _ => ⟨t, hdue, hlate, hleast, hstep⟩, ?_⟩
      · rw [hstep]
        exact congrArg Outcome.done ha
      · intro hover
        omega
    · have hfind : due.find? (fun t => decide (T ≤ t)) = none := by
        rw [List.find?_eq_none]
        intro t ht hlate
        have hlater := of_decide_eq_true hlate
        rcases (hmem t).mp ht with ⟨j, hj, rfl⟩ | rfl <;> omega
      rw [hfind] at hstep
      refine ⟨⟨?_, fun hmet => absurd hmet hT⟩, fun hmet => absurd hmet hT, fun _ => hstep⟩
      rintro ⟨a, ha⟩
      rw [hstep] at ha
      cases Outcome.done.inj ha

/-- What holds from 2.2 seconds on is seen at 2.5 seconds, where the last pause was cut to end. -/
theorem pollUntil_misses_no_lasting_condition_cut :
    let p : Patience := ⟨.ofMillis 2500, .ofMillis 1000⟩
    let T := 2200 * nanosPerMilli
    let yields : Nat → Option Nat := fun t => if T ≤ t then some t else none
    let due := instants p.interval.nanos 0 p.timeout.nanos
    let step : Step (List Nat) String (Option Nat) := pollUntil p (sampled yields) .exact 0 []
    0 + p.timeout.nanos < instantLimit ∧ 0 < p.interval.nanos ∧ (∀ t < T, yields t = none) ∧
      (∀ t, T ≤ t → (yields t).isSome) ∧ T ≤ 0 + p.timeout.nanos ∧
      ∃ t ∈ due, T ≤ t ∧ (∀ u ∈ due, T ≤ u → t ≤ u) ∧
        step = ⟨.done (yields t), due.takeWhile (fun u => decide (u < T)) ++ [t], t - 0⟩ := by
  intro p T yields due step
  have hdeadline : 0 + p.timeout.nanos < instantLimit := by decide
  have hinterval : 0 < p.interval.nanos := by decide
  have hbefore : ∀ t < T, yields t = none := fun t ht => if_neg (Nat.not_le.mpr ht)
  have hafter : ∀ t, T ≤ t → (yields t).isSome := by
    intro t ht
    simp [yields, ht]
  have hT : T ≤ 0 + p.timeout.nanos := by decide
  refine ⟨hdeadline, hinterval, hbefore, hafter, hT, ?_⟩
  exact ((pollUntil_misses_no_lasting_condition p 0 yields hdeadline hinterval).2.2 T hbefore
    hafter).2.1 hT

end Rollout.Run
