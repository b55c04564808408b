import Mathlib.Algebra.Order.Field.Power
import Mathlib.Data.Rat.Cast.Order
import Mathlib.Tactic.FieldSimp
import Mathlib.Tactic.Positivity
import Rollout.Decimal.Shortest
import Rollout.Proofs.Decimal.Rounding
/-!
# Shortest digits in range

The shortest digits of a double stand for a number inside the interval that rounds to the double.
Hence they can be read even where the largest doubles are close, but for the two largest ones, which
are just not among them.
-/

namespace Rollout.Decimal

open Double

/-- The number that digits stand for. -/
def Digits.value (d : Digits) : ℚ := d.digits * 10 ^ d.exponent

/-! ## Grids -/

theorem Interval.le_high {i : Interval} {num den : Nat} (h : i.contains num den = true) :
    num ≤ i.high * den := by
  unfold Interval.contains at h
  split at h <;> simp only [Bool.and_eq_true, decide_eq_true_eq] at h <;> omega

theorem contains_of_onGrid {i : Interval} {e : Int} {k : Nat} (h : onGrid i e = some k) :
    i.contains (k * if 0 ≤ e then 4 * unit * Nat.pow 10 e.toNat else 4 * unit)
      (if 0 ≤ e then 1 else Nat.pow 10 e.natAbs) = true := by
  unfold onGrid at h
  dsimp only at h
  generalize (if 0 ≤ e then 4 * unit * Nat.pow 10 e.toNat else 4 * unit) = num at h ⊢
  generalize (if 0 ≤ e then 1 else Nat.pow 10 e.natAbs) = den at h ⊢
  -- only what is contained is ever chosen, whichever of both neighbours is nearer
  split at h
  · rename_i hboth
    obtain ⟨hdown, hup⟩ := Bool.and_eq_true_iff.mp hboth
    split at h
    · cases h
      exact hdown
    · split at h
      · cases h
        exact hup
      · split at h <;> cases h
        · exact hdown
        · exact hup
  · split at h
    · cases h
      assumption
    · split at h <;> cases h
      assumption

theorem onGrid_le {i : Interval} {e : Int} {k : Nat} (h : onGrid i e = some k) :
    (k : ℚ) * 10 ^ e * (4 * unit) ≤ i.high := by
  have hle := Interval.le_high (contains_of_onGrid h)
  by_cases he : 0 ≤ e
  · obtain ⟨n, rfl⟩ := Int.eq_ofNat_of_zero_le he
    rw [if_pos he, if_pos he, Int.toNat_natCast, Nat.pow_eq, Nat.mul_one] at hle
    calc (k : ℚ) * 10 ^ (n : Int) * (4 * unit)
      _ = ((k * (4 * unit * 10 ^ n) : Nat) : ℚ) := by
          push_cast
          rw [zpow_natCast]
          ring
      _ ≤ i.high := Nat.cast_le.mpr hle
  · obtain ⟨n, hn⟩ : ∃ n : Nat, e = -n := ⟨e.natAbs, by omega⟩
    rw [if_neg he, if_neg he, hn, Int.natAbs_neg, Int.natAbs_natCast, Nat.pow_eq] at hle
    have hpos : (0 : ℚ) < 10 ^ n := by positivity
    apply le_of_mul_le_mul_right _ hpos
    calc (k : ℚ) * 10 ^ e * (4 * unit) * 10 ^ n
      _ = ((k * (4 * unit) : Nat) : ℚ) := by
          rw [hn, zpow_neg, zpow_natCast]
          push_cast
          -- The numeral behind the unit is too long to compute with.
          generalize (unit : ℚ) = u
          field_simp
      _ ≤ ((i.high * 10 ^ n : Nat) : ℚ) := Nat.cast_le.mpr hle
      _ = (i.high : ℚ) * 10 ^ n := by push_cast; rfl

theorem searchGrids_le {i : Interval} {n : Nat} {e : Int} {d : Digits}
    (h : searchGrids i n e = some d) : d.value * (4 * unit) ≤ i.high := by
  induction n generalizing e with
  | zero => cases h
  | succ n ih =>
      rw [searchGrids] at h
      split at h
      · rename_i k hk
        split at h
        · exact ih h
        · cases h
          exact onGrid_le hk
      · exact ih h

/-! ## Digits -/

theorem value_stripZeros (n : Nat) (d : Digits) : (stripZeros n d).value = d.value := by
  induction n generalizing d with
  | zero => rfl
  | succ n ih =>
      rw [stripZeros]
      split
      · rename_i hzero
        obtain ⟨tens, htens⟩ := Nat.dvd_of_mod_eq_zero hzero.1
        have hshorter : d.digits / 10 = tens := by omega
        rw [ih, Digits.value, Digits.value, hshorter, htens, zpow_add_one₀ (by decide)]
        push_cast
        ring
      · rfl

theorem digits_stripZeros (n : Nat) {d : Digits} (h : d.digits ≠ 0) :
    (stripZeros n d).digits ≠ 0 := by
  induction n generalizing d with
  | zero => exact h
  | succ n ih =>
      rw [stripZeros]
      split
      · apply ih
        dsimp only
        omega
      · exact h

theorem digits_searchGrids {i : Interval} {n : Nat} {e : Int} {d : Digits}
    (h : searchGrids i n e = some d) : d.digits ≠ 0 := by
  induction n generalizing e with
  | zero => cases h
  | succ n ih =>
      rw [searchGrids] at h
      split at h
      · split at h
        · exact ih h
        · rename_i hsome
          cases h
          exact hsome
      · exact ih h

theorem exponent_shortest (x : Double) (h : (shortest x).digits = 0) :
    (shortest x).exponent = 0 := by
  unfold shortest at h ⊢
  dsimp only at h ⊢
  cases hfound : searchGrids (Interval.of x) 19 _ with
  | none =>
      rw [Option.getD_none, stripZeros, if_neg fun hzero => hzero.2 rfl]
  | some d =>
      rw [hfound] at h
      exact absurd h (digits_stripZeros 400 (digits_searchGrids hfound))

theorem shortest_value_le (x : Double) :
    (shortest x).value * (4 * unit) ≤ (Interval.of x).high := by
  unfold shortest
  dsimp only
  rw [value_stripZeros]
  cases hfound : searchGrids (Interval.of x) 19 _ with
  | none =>
      have hzero : (Digits.mk 0 0).value = 0 := zero_mul _
      rw [Option.getD_none, hzero, zero_mul]
      exact Nat.cast_nonneg _
  | some d => exact searchGrids_le hfound

/-! ## The largest doubles -/

theorem fractionField_lt (x : Double) : x.fractionField < 2 ^ 52 :=
  Nat.mod_lt _ (by decide)

/-- The bits of the two largest magnitudes, with either sign. -/
def largestBits : List UInt64 :=
  [0x7FEFFFFFFFFFFFFE, 0x7FEFFFFFFFFFFFFF, 0xFFEFFFFFFFFFFFFE, 0xFFEFFFFFFFFFFFFF]

theorem mem_largestBits {x : Double} (hfinite : x.isFinite = true)
    (h : ¬(x.exponentField < 2046 ∨ x.fractionField + 2 < 2 ^ 52)) : x.bits ∈ largestBits := by
  obtain ⟨hexponent, hfraction⟩ := not_or.mp h
  have hfields : x.bits.toNat / 2 ^ 52 % 2 ^ 11 = 2046 ∧ 2 ^ 52 ≤ x.bits.toNat % 2 ^ 52 + 2 :=
    ⟨Nat.le_antisymm (Nat.le_of_lt_succ (of_decide_eq_true hfinite)) (Nat.not_lt.mp hexponent),
      Nat.not_lt.mp hfraction⟩
  have hlt := x.bits.toNat_lt
  simp only [largestBits, List.mem_cons, List.not_mem_nil, or_false, ← UInt64.toNat_inj]
  change _ = 0x7FEFFFFFFFFFFFFE ∨ _ = 0x7FEFFFFFFFFFFFFF ∨ _ = 0xFFEFFFFFFFFFFFFE ∨
    _ = 0xFFEFFFFFFFFFFFFF
  omega

/-- The interval of a double below the two largest ones ends well before the numbers that have no
finite double nearest to them. -/
theorem high_le {x : Double} (hfinite : x.isFinite = true)
    (hbelow : x.exponentField < 2046 ∨ x.fractionField + 2 < 2 ^ 52) :
    (Interval.of x).high ≤ (bound - 2 ^ 972) * (4 * unit) := by
  have hfraction := fractionField_lt x
  have hexponent : x.exponentField < 2047 := of_decide_eq_true hfinite
  have hsignificand : x.significand ≤ 2 ^ 52 + x.fractionField := by
    unfold significand
    split
    · omega
    · exact Nat.le_refl _
  have hhigh : (Interval.of x).high = (4 * x.significand + 2) * 2 ^ x.scale := by
    change 4 * x.significand * 2 ^ x.scale + 2 * 2 ^ x.scale = _
    ring
  rw [hhigh]
  by_cases hlast : x.exponentField < 2046
  · have hpow : 2 ^ x.scale ≤ 2 ^ 2044 := by
      rw [Nat.pow_le_pow_iff_right Nat.one_lt_two, scale]
      omega
    calc (4 * x.significand + 2) * 2 ^ x.scale
      _ ≤ (4 * (2 ^ 53 - 1) + 2) * 2 ^ 2044 := Nat.mul_le_mul (by omega) hpow
      _ ≤ (bound - 2 ^ 972) * (4 * unit) := by decide +kernel
  · have hpow : 2 ^ x.scale ≤ 2 ^ 2045 := by
      rw [Nat.pow_le_pow_iff_right Nat.one_lt_two, scale]
      omega
    calc (4 * x.significand + 2) * 2 ^ x.scale
      _ ≤ (4 * (2 ^ 53 - 3) + 2) * 2 ^ 2045 := Nat.mul_le_mul (by omega) hpow
      _ ≤ (bound - 2 ^ 972) * (4 * unit) := by decide +kernel

/-- Whatever is not above the shortest digits of a double can be read. -/
theorem ofScaled_of_le_shortest {x : Double} (hfinite : x.isFinite = true)
    (hbelow : x.exponentField < 2046 ∨ x.fractionField + 2 < 2 ^ 52) {digits n : Nat}
    (h : (digits * 10 ^ n : ℚ) ≤ (shortest x).value) : (ofScaled digits n).isSome = true := by
  have hunit : (0 : ℚ) < 4 * unit := by
    have hpos : (0 : ℚ) < unit := Nat.cast_pos.mpr unit_pos
    positivity
  have hvalue : digits * 10 ^ n ≤ bound - 2 ^ 972 := by
    apply Nat.le_of_mul_le_mul_right _ (Nat.mul_pos (by decide : 0 < 4) unit_pos)
    apply Nat.le_trans _ (high_le hfinite hbelow)
    have hcast : ((digits * 10 ^ n * (4 * unit) : Nat) : ℚ) ≤ ((Interval.of x).high : ℚ) :=
      calc ((digits * 10 ^ n * (4 * unit) : Nat) : ℚ)
        _ = (digits * 10 ^ n : ℚ) * (4 * unit) := by push_cast; rfl
        _ ≤ (shortest x).value * (4 * unit) := mul_le_mul_of_nonneg_right h hunit.le
        _ ≤ (Interval.of x).high := shortest_value_le x
    exact Nat.cast_le.mp hcast
  apply ofScaled_of_small
  calc digits * 10 ^ n * (2 ^ 53 + 1) ^ 2
    _ ≤ (bound - 2 ^ 972) * (2 ^ 53 + 1) ^ 2 := Nat.mul_le_mul_right _ hvalue
    _ < bound * 2 ^ 106 := by decide +kernel

end Rollout.Decimal
