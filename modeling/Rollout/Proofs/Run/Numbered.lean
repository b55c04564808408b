import Rollout.Proofs.Run.Agreement
import Rollout.Proofs.Run.Returns
/-!
# Numbered evaluations

The evaluations of a wait are numbered in thirty-two bits. Where numbers wrap around they make no
difference. Where that is checked, a wait with pauses panics exactly if it has more rounds than
there are numbers, and so does one without pauses, which nothing else may ever end.
-/

namespace Rollout.Run

open Time

variable {σ ε α β : Type}

section

variable (o : Overflow) (x : Run σ ε α) (clock : Clock) (now : Nat)

theorem numbered_of_ne {s : UInt32 × σ} (h : ¬ (s.1 + 1 = 0 ∧ o = .panics)) :
    x.numbered o clock now s = ⟨(x clock now s.2).outcome, (s.1 + 1, (x clock now s.2).state),
      (x clock now s.2).elapsed⟩ := by
  unfold numbered
  rw [if_neg h]
  rfl

theorem numbered_of_eq {s : UInt32 × σ} (h : s.1 + 1 = 0) :
    x.numbered .panics clock now s = ⟨.panicked "attempt to add with overflow", s, 0⟩ := by
  unfold numbered
  rw [if_pos ⟨h, rfl⟩]

end

theorem numbered_wraps_agree (x : Run σ ε α) : Agree Over (x.numbered .wraps) x := by
  rintro clock now s t rfl
  rw [numbered_of_ne .wraps x clock now fun h => nomatch h.2]
  exact ⟨rfl, rfl, rfl⟩

theorem pollNumbered_wraps (p : Patience) (check : Run σ ε (Option α)) :
    pollNumbered .wraps p check = pollUntil p check :=
  Run.ext fun clock now s => Agree.startingWith_apply_eq <|
    (numbered_wraps_agree check).pollUntil p clock now (0, s) s rfl

theorem toNat_add_one {n : UInt32} (h : n + 1 ≠ 0) : (n + 1).toNat = n.toNat + 1 := by
  have hbound := n.toNat_lt
  have hzero : n.toNat + 1 ≠ 2 ^ 32 := by
    intro hsize
    apply h
    rw [← UInt32.toNat_inj, UInt32.toNat_add]
    change (n.toNat + 1) % 2 ^ 32 = 0
    rw [hsize, Nat.mod_self]
  rw [UInt32.toNat_add]
  exact Nat.mod_eq_of_lt (by change n.toNat + 1 < 2 ^ 32; omega)

theorem toNat_of_add_one_eq_zero {n : UInt32} (h : n + 1 = 0) : n.toNat + 1 = UInt32.size := by
  have hbound := n.toNat_lt
  have hsum := congrArg UInt32.toNat h
  rw [UInt32.toNat_add] at hsum
  change (n.toNat + 1) % 4294967296 = 0 at hsum
  change n.toNat < 4294967296 at hbound
  change n.toNat + 1 = 4294967296
  omega

section

variable {check : Run σ ε (Option α)} {clock : Clock} {interval deadline now : Nat} {s : σ}
  {es : List (Evaluation σ ε α)} {n : UInt32}

theorem not_open_numbered (hn : n + 1 = 0) :
    ¬ ((check.numbered .panics).evaluate clock now (n, s)).Open deadline := by
  unfold evaluate Evaluation.Open
  rw [numbered_of_eq _ _ _ hn]
  exact nofun

theorem evaluate_numbered (hn : n + 1 ≠ 0) : (check.numbered .panics).evaluate clock now (n, s) =
    ⟨now, (check clock now s).outcome, (n + 1, (check clock now s).state),
      (check clock now s).elapsed⟩ := by
  unfold evaluate
  rw [numbered_of_ne .panics check clock now fun hzero => hn hzero.1]

/-- With a number for each round a wait goes as it would without, and else it panics. -/
theorem Rounds.pollFrom_numbered (hrounds : Rounds check clock interval deadline now s es)
    (h : 0 < interval) (n : UInt32) :
    let step := pollFrom check clock interval deadline h now s
    let counted := pollFrom (check.numbered .panics) clock interval deadline h now (n, s)
    (n.toNat + es.length < UInt32.size → counted.Agree Over step) ∧
    (UInt32.size ≤ n.toNat + es.length →
      counted.outcome = .panicked "attempt to add with overflow") := by
  -- Along the rounds, each of which takes the next number. The numbers end where the next is zero.
  induction hrounds generalizing n with
  | @last now s closed =>
      by_cases hn : n + 1 = 0
      · have hsize := toNat_of_add_one_eq_zero hn
        rw [pollFrom_of_not_open _ _ _ _ h (not_open_numbered hn), numbered_of_eq _ _ _ hn]
        exact ⟨fun hfits => absurd hsize (Nat.ne_of_lt hfits), fun _ => rfl⟩
      · have hclosed : ¬ ((check.numbered .panics).evaluate clock now (n, s)).Open deadline := by
          rwa [evaluate_numbered hn]
        have hfits : n.toNat + 1 < UInt32.size := toNat_add_one hn ▸ (n + 1).toNat_lt
        rw [pollFrom_of_not_open _ _ _ _ h hclosed, pollFrom_of_not_open _ _ _ _ h closed,
          numbered_of_ne .panics check clock now fun hzero => hn hzero.1]
        exact ⟨fun _ => ⟨rfl, rfl, rfl⟩, fun hover => absurd hfits (Nat.not_lt_of_le hover)⟩
  | @again now s rest goesOn later ih =>
      by_cases hn : n + 1 = 0
      · have hsize := toNat_of_add_one_eq_zero hn
        rw [pollFrom_of_not_open _ _ _ _ h (not_open_numbered hn), numbered_of_eq _ _ _ hn]
        refine ⟨fun hfits => ?_, fun _ => rfl⟩
        rw [List.length_cons] at hfits
        omega
      · have hopen : ((check.numbered .panics).evaluate clock now (n, s)).Open deadline := by
          rwa [evaluate_numbered hn]
        obtain ⟨hfits, hover⟩ := ih (n + 1)
        rw [toNat_add_one hn, Nat.add_assoc, Nat.add_comm 1] at hfits hover
        rw [pollFrom_of_open _ _ _ _ h hopen, pollFrom_of_open _ _ _ _ h goesOn,
          evaluate_numbered hn, List.length_cons]
        refine ⟨fun hfits' => ?_, hover⟩
        obtain ⟨houtcome, helapsed, hstate⟩ := hfits hfits'
        exact ⟨houtcome, congrArg _ helapsed, hstate⟩

/-- Without pauses it is the numbers that run out, however many evaluations would be made. -/
theorem spinFrom_numbered (check : Run σ ε (Option α)) (clock : Clock) (deadline k more : Nat)
    {n : UInt32} (hn : n.toNat + k = spinLimit) (now : Nat) (s : σ) :
    (spinFrom (check.numbered .panics) clock deadline (k + more) now (n, s)).Agree Over
      (spinFrom check clock deadline k now s) := by
  -- By the numbers that are left, of which there are as many as evaluations may be made.
  induction k generalizing n now s with
  | zero =>
      cases more with
      | zero => exact ⟨rfl, rfl, rfl⟩
      | succ more =>
          have hfull : n + 1 = 0 := by
            rw [← UInt32.toNat_inj, UInt32.toNat_add, show n.toNat = spinLimit from hn]
            rfl
          have hstep := numbered_of_eq check clock now (s := (n, s)) hfull
          rw [Nat.zero_add, spinFrom, spinFrom, hstep]
          exact ⟨rfl, rfl, rfl⟩
  | succ k ih =>
      have hleft : n + 1 ≠ 0 := by
        intro hfull
        have hsize := toNat_of_add_one_eq_zero hfull
        unfold spinLimit at hn
        omega
      have hstep := numbered_of_ne .panics check clock now (s := (n, s)) fun h => hleft h.1
      have hnext : (n + 1).toNat + k = spinLimit := by
        rw [toNat_add_one hleft]
        omega
      rw [Nat.succ_add, spinFrom, spinFrom, hstep]
      rcases check clock now s with ⟨(_ | a) | e | text, t, m⟩
      · by_cases hlate : deadline ≤ now + m
        · simpa only [hlate, if_true] using ⟨rfl, rfl, rfl⟩
        · obtain ⟨houtcome, helapsed, hstate⟩ := ih hnext (now + m) t
          simp only [hlate, if_false]
          exact ⟨houtcome, congrArg _ helapsed, hstate⟩
      all_goals exact ⟨rfl, rfl, rfl⟩

end

/-- A wait with pauses and a deadline goes through its rounds, and they are numbered. If there is a
number for each of them, it makes no difference that numbers are checked. -/
structure Numbers (p : Patience) (check : Run σ ε (Option α)) (clock : Clock)
    (now : Nat) (s : σ) (n : Nat) : Prop where
  rounds : ∃ es, Rounds check clock p.interval.nanos (now + p.timeout.nanos) now s es ∧
    es.length = n
  wraps : pollNumbered .wraps p check clock now s = pollUntil p check clock now s
  fits : n < UInt32.size →
    pollNumbered .panics p check clock now s = pollUntil p check clock now s
  overflows : UInt32.size ≤ n →
    (pollNumbered .panics p check clock now s).outcome = .panicked "attempt to add with overflow"

section

variable {p : Patience} {check : Run σ ε (Option α)} {clock : Clock} {now : Nat} {s : σ}

theorem Rounds.numbers (hp : 0 < p.interval.nanos)
    (hdeadline : now + p.timeout.nanos < instantLimit) {es : List (Evaluation σ ε α)}
    (hrounds : Rounds check clock p.interval.nanos (now + p.timeout.nanos) now s es) :
    Numbers p check clock now s es.length := by
  obtain ⟨hfits, hover⟩ := hrounds.pollFrom_numbered hp 0
  change 0 + es.length < _ → _ at hfits
  change _ ≤ 0 + es.length → _ at hover
  rw [Nat.zero_add] at hfits hover
  rw [← pollUntil_of_pos _ clock hp hdeadline] at hfits hover
  rw [← pollUntil_of_pos check clock hp hdeadline] at hfits
  exact ⟨⟨es, hrounds, rfl⟩, by rw [pollNumbered_wraps],
    fun h => Agree.startingWith_apply_eq (hfits h), hover⟩

/-- Without pauses a wait is the one in which numbers are checked. -/
theorem pollNumbered_of_zero (hp : p.interval.nanos = 0) :
    pollNumbered .panics p check = pollUntil p check := by
  ext clock now s
  refine Agree.startingWith_apply_eq ?_
  have hnot : ¬ 0 < p.interval.nanos := by omega
  unfold pollUntil
  cases deadline? now p.timeout with
  | none => exact ⟨rfl, rfl, rfl⟩
  | some deadline =>
      simp only [dif_neg hnot]
      exact spinFrom_numbered check clock deadline spinLimit 0 (Nat.zero_add _) now s

end

/-- A run that waits for a condition and then returns. The wait panics at once if its deadline is no
instant. Else it numbers its looks at the condition, of which there are not many more than there are
pauses in its time. -/
structure WaitsFor (x : Run σ ε β) (p : Patience) (condition : Run σ ε Bool) (clock : Clock)
    (now : Nat) (s : σ) : Prop where
  loops : ∃ next : Bool → Run σ ε β, (∀ met, Returns (next met)) ∧
    x = awaitUntil p condition >>= next
  deadlined : Deadlined now p.timeout s (x clock now s)
  numbers : now + p.timeout.nanos < instantLimit → ∃ n,
    Numbers p (met condition) clock now s n ∧
      ∀ pause, 0 < pause → pause ≤ p.interval.nanos →
        (∀ k ≤ p.interval.nanos, min k pause ≤ clock.lasting k) →
          n ≤ (p.timeout.nanos + (pause - 1)) / pause + 1

theorem awaitUntil_waitsFor {condition : Run σ ε Bool} (h : Returns condition) {p : Patience}
    (hp : 0 < p.interval.nanos) (clock : Clock) (now : Nat) (s : σ) {next : Bool → Run σ ε β}
    (hnext : ∀ met, Returns (next met)) :
    WaitsFor (awaitUntil p condition >>= next) p condition clock now s where
  loops := ⟨next, hnext, rfl⟩
  deadlined := (awaitUntil_deadlined h p hp clock now s).bind hnext
  numbers hdeadline := by
    obtain ⟨es, hrounds⟩ := exists_rounds (met condition) clock hp (now + p.timeout.nanos) now s
    refine ⟨es.length, hrounds.numbers hp hdeadline, fun pause hpos hle hclock => ?_⟩
    have hlength := hrounds.length_le_of_pause hpos hle hclock
    rwa [Nat.add_sub_cancel_left] at hlength

end Rollout.Run
