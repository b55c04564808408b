import Mathlib.Tactic.Ring
import Rollout.Decimal.Double
/-!
# Rounding to doubles

How much a quotient may grow when it is rounded to a double, and which quotients are small enough
for the double to be finite. From this it follows which decimals can be read.
-/

namespace Rollout.Decimal.Double

/-! ## The nearest natural -/

theorem two_mul_roundDiv_mul_le (num den : Nat) :
    2 * roundDiv num den * den ≤ 2 * num + den := by
  have hsplit := Nat.div_add_mod num den
  have hdown : 2 * (num / den) * den = 2 * (den * (num / den)) := by ring
  have hup : 2 * (num / den + 1) * den = 2 * (den * (num / den)) + 2 * den := by ring
  unfold roundDiv
  dsimp only
  split
  · omega
  · split
    · omega
    · split <;> omega

theorem roundDiv_le {num den k : Nat} (h : 2 * num < (2 * k + 1) * den) :
    roundDiv num den ≤ k := by
  have hnear := two_mul_roundDiv_mul_le num den
  have hlt : 2 * roundDiv num den * den < (2 * k + 2) * den :=
    calc 2 * roundDiv num den * den
      _ ≤ 2 * num + den := hnear
      _ < (2 * k + 1) * den + den := Nat.add_lt_add_right h den
      _ = (2 * k + 2) * den := by ring
  have hquotient := Nat.lt_of_mul_lt_mul_right hlt
  omega

/-! ## The fields of a double -/

section

variable {exponent fraction : Nat}

theorem toNat_bits_ofFields (he : exponent < 2 ^ 11) (hf : fraction < 2 ^ 52) :
    (ofFields false exponent fraction).bits.toNat = exponent * 2 ^ 52 + fraction := by
  have hbits : (if false = true then Nat.pow 2 63 else 0) + exponent * Nat.pow 2 52 + fraction =
      exponent * 2 ^ 52 + fraction := by
    rw [if_neg (by decide), Nat.zero_add]
    rfl
  rw [ofFields, hbits]
  exact UInt64.toNat_ofNat_of_lt' (by change _ < 2 ^ 64; omega)

theorem exponentField_ofFields (he : exponent < 2 ^ 11) (hf : fraction < 2 ^ 52) :
    (ofFields false exponent fraction).exponentField = exponent := by
  rw [exponentField, toNat_bits_ofFields he hf]
  change (exponent * 2 ^ 52 + fraction) / 2 ^ 52 % 2 ^ 11 = exponent
  omega

theorem fractionField_ofFields (he : exponent < 2 ^ 11) (hf : fraction < 2 ^ 52) :
    (ofFields false exponent fraction).fractionField = fraction := by
  rw [fractionField, toNat_bits_ofFields he hf]
  change (exponent * 2 ^ 52 + fraction) % 2 ^ 52 = fraction
  omega

theorem magnitude_ofFields_zero (hf : fraction < 2 ^ 52) :
    (ofFields false 0 fraction).magnitude = fraction := by
  have hexponent : (ofFields false 0 fraction).exponentField = 0 :=
    exponentField_ofFields (by decide) hf
  rw [magnitude, significand, scale, hexponent, if_pos rfl,
    fractionField_ofFields (by decide) hf]
  exact Nat.mul_one fraction

theorem magnitude_ofFields_succ (he : exponent + 1 < 2 ^ 11) (hf : fraction < 2 ^ 52) :
    (ofFields false (exponent + 1) fraction).magnitude = (2 ^ 52 + fraction) * 2 ^ exponent := by
  rw [magnitude, significand, scale, exponentField_ofFields he hf,
    if_neg (Nat.succ_ne_zero exponent), fractionField_ofFields he hf]
  rfl

end

/-! ## The nearest double -/

theorem unit_pos : 0 < unit := by decide +kernel

theorem two_pow_le_unit : 2 ^ 52 ≤ unit := by decide +kernel

theorem magnitude_packed_le {m s : Nat} (hm : m < 2 ^ 53) :
    (packed false m s).magnitude ≤ m * 2 ^ s := by
  unfold packed
  simp only [Nat.pow_eq]
  by_cases hsmall : m < 2 ^ 52
  · rw [if_pos hsmall, magnitude_ofFields_zero hsmall]
    exact Nat.le_mul_of_pos_right m (Nat.two_pow_pos s)
  rw [if_neg hsmall]
  by_cases hrange : 2046 ≤ s
  · have hpow : 2 ^ 2046 ≤ 2 ^ s := by rwa [Nat.pow_le_pow_iff_right Nat.one_lt_two]
    rw [if_pos hrange, infinity, magnitude_ofFields_succ (by decide) (by decide), Nat.add_zero]
    exact Nat.mul_le_mul (Nat.not_lt.mp hsmall) hpow
  · rw [if_neg hrange, magnitude_ofFields_succ (by omega) (by omega),
      Nat.add_sub_cancel' (Nat.not_lt.mp hsmall)]

theorem isFinite_packed {m s : Nat} (hm : m < 2 ^ 53) (h : m * 2 ^ s < 2 ^ 52 * 2 ^ 2046) :
    (packed false m s).isFinite = true := by
  unfold packed
  simp only [Nat.pow_eq]
  by_cases hsmall : m < 2 ^ 52
  · rw [if_pos hsmall, isFinite, exponentField_ofFields (by decide) hsmall]
    rfl
  rw [if_neg hsmall]
  by_cases hrange : 2046 ≤ s
  · have hpow : 2 ^ 2046 ≤ 2 ^ s := by rwa [Nat.pow_le_pow_iff_right Nat.one_lt_two]
    have hlarge := Nat.mul_le_mul (Nat.not_lt.mp hsmall) hpow
    exact absurd h (Nat.not_lt.mpr hlarge)
  · rw [if_neg hrange, isFinite, exponentField_ofFields (by omega) (by omega)]
    exact decide_eq_true (by omega)

section

variable {num den : Nat}

theorem mul_unit_lt (num : Nat) (hden : 0 < den) :
    num * unit < 2 ^ 53 * (den * 2 ^ place num den) := by
  have hunits : num * unit / den < 2 ^ ((num * unit / den).log2 + 1) := Nat.lt_log2_self
  have hplace : (num * unit / den).log2 + 1 ≤ 53 + place num den := by
    unfold place
    omega
  calc num * unit
    _ < 2 ^ ((num * unit / den).log2 + 1) * den := (Nat.div_lt_iff_lt_mul hden).mp hunits
    _ ≤ 2 ^ (53 + place num den) * den :=
        Nat.mul_le_mul_right den (Nat.pow_le_pow_right Nat.two_pos hplace)
    _ = 2 ^ 53 * (den * 2 ^ place num den) := by
        rw [Nat.pow_add]
        ring

theorem multiple_le (num : Nat) (hden : 0 < den) : multiple num den ≤ 2 ^ 53 := by
  have hlt := mul_unit_lt num hden
  unfold multiple
  rw [Nat.pow_eq]
  apply roundDiv_le
  omega

theorem ofRatio_eq_packed (num : Nat) (hden : 0 < den) : ∃ m s,
    ofRatio false num den = packed false m s ∧ m < 2 ^ 53 ∧
      m * 2 ^ s = multiple num den * 2 ^ place num den := by
  have hle := multiple_le num hden
  unfold ofRatio
  simp only [Nat.pow_eq]
  by_cases hcarry : multiple num den = 2 ^ 53
  · refine ⟨2 ^ 52, place num den + 1, if_pos hcarry, by decide, ?_⟩
    rw [hcarry, Nat.pow_succ]
    ring
  · exact ⟨multiple num den, place num den, if_neg hcarry, Nat.lt_of_le_of_ne hle hcarry, rfl⟩

/-- A quotient grows by half of its last place at most, which is little against a quotient that has
all its places. -/
theorem magnitude_ofRatio_mul_le (hden : 0 < den) (hlarge : den * 2 ^ 52 ≤ num * unit) :
    (ofRatio false num den).magnitude * den * 2 ^ 53 ≤ num * unit * (2 ^ 53 + 1) := by
  have hnear : 2 * multiple num den * (den * 2 ^ place num den) ≤
      2 * (num * unit) + den * 2 ^ place num den :=
    two_mul_roundDiv_mul_le (num * unit) (den * 2 ^ place num den)
  have hplace : den * 2 ^ place num den * 2 ^ 52 ≤ num * unit := by
    by_cases hfirst : place num den = 0
    · rwa [hfirst, Nat.pow_zero, Nat.mul_one]
    · have hunits : num * unit / den ≠ 0 := by
        intro hzero
        rw [place, hzero] at hfirst
        exact hfirst rfl
      have hlog : place num den + 52 = (num * unit / den).log2 := by
        unfold place at hfirst ⊢
        omega
      calc den * 2 ^ place num den * 2 ^ 52
        _ = den * 2 ^ (num * unit / den).log2 := by rw [← hlog, Nat.pow_add, Nat.mul_assoc]
        _ ≤ den * (num * unit / den) := Nat.mul_le_mul_left den (Nat.log2_self_le hunits)
        _ ≤ num * unit := Nat.mul_div_le _ _
  obtain ⟨m, s, heq, hm, hvalue⟩ := ofRatio_eq_packed num hden
  have hmagnitude : (ofRatio false num den).magnitude ≤
      multiple num den * 2 ^ place num den := by
    rw [heq, ← hvalue]
    exact magnitude_packed_le hm
  calc (ofRatio false num den).magnitude * den * 2 ^ 53
    _ ≤ multiple num den * 2 ^ place num den * den * 2 ^ 53 :=
        Nat.mul_le_mul_right _ (Nat.mul_le_mul_right _ hmagnitude)
    _ = 2 * multiple num den * (den * 2 ^ place num den) * 2 ^ 52 := by ring
    _ ≤ (2 * (num * unit) + den * 2 ^ place num den) * 2 ^ 52 := Nat.mul_le_mul_right _ hnear
    _ = num * unit * 2 ^ 53 + den * 2 ^ place num den * 2 ^ 52 := by ring
    _ ≤ num * unit * (2 ^ 53 + 1) := by
        rw [Nat.mul_add, Nat.mul_one]
        exact Nat.add_le_add_left hplace _

/-- From here on there is no finite double nearest to a number. -/
def bound : Nat := (2 ^ 54 - 1) * 2 ^ 970

theorem isFinite_ofRatio (h : num < bound * den) : (ofRatio false num den).isFinite = true := by
  have hden : 0 < den := Nat.pos_of_mul_pos_left (Nat.zero_lt_of_lt h)
  have hunits : num * unit < (2 ^ 54 - 1) * (den * 2 ^ 2044) := by
    have hbound : bound * unit = (2 ^ 54 - 1) * 2 ^ 2044 := by decide +kernel
    calc num * unit
      _ < bound * den * unit := Nat.mul_lt_mul_of_pos_right h unit_pos
      _ = bound * unit * den := by ring
      _ = (2 ^ 54 - 1) * (den * 2 ^ 2044) := by rw [hbound, Nat.mul_assoc, Nat.mul_comm den]
  have hquotient : num * unit / den < 2 ^ 2098 := by
    have hpow : (2 ^ 54 - 1) * 2 ^ 2044 ≤ 2 ^ 2098 := by decide +kernel
    rw [Nat.div_lt_iff_lt_mul hden]
    calc num * unit
      _ < (2 ^ 54 - 1) * (den * 2 ^ 2044) := hunits
      _ = (2 ^ 54 - 1) * 2 ^ 2044 * den := by rw [Nat.mul_assoc, Nat.mul_comm den]
      _ ≤ 2 ^ 2098 * den := Nat.mul_le_mul_right den hpow
  have hplace : place num den ≤ 2045 := by
    by_cases hzero : num * unit / den = 0
    · rw [place, hzero]
      decide
    · have hlog := (Nat.log2_lt hzero).mpr hquotient
      unfold place
      omega
  have hlast : 2 ^ place num den ≤ 2 ^ 2045 := by rwa [Nat.pow_le_pow_iff_right Nat.one_lt_two]
  have hnear : 2 * multiple num den * (den * 2 ^ place num den) ≤
      2 * (num * unit) + den * 2 ^ place num den :=
    two_mul_roundDiv_mul_le (num * unit) (den * 2 ^ place num den)
  have hsmall : multiple num den * 2 ^ place num den < 2 ^ 52 * 2 ^ 2046 := by
    have hsum : 2 * ((2 ^ 54 - 1) * 2 ^ 2044) + 2 ^ 2045 = 2 * (2 ^ 52 * 2 ^ 2046) := by
      decide +kernel
    have hlt : 2 * (multiple num den * 2 ^ place num den) * den <
        2 * (2 ^ 52 * 2 ^ 2046) * den :=
      calc 2 * (multiple num den * 2 ^ place num den) * den
        _ = 2 * multiple num den * (den * 2 ^ place num den) := by ring
        _ ≤ 2 * (num * unit) + den * 2 ^ place num den := hnear
        _ < 2 * ((2 ^ 54 - 1) * (den * 2 ^ 2044)) + den * 2 ^ 2045 :=
            Nat.add_lt_add_of_lt_of_le (Nat.mul_lt_mul_of_pos_left hunits Nat.two_pos)
              (Nat.mul_le_mul_left den hlast)
        _ = (2 * ((2 ^ 54 - 1) * 2 ^ 2044) + 2 ^ 2045) * den := by
            simp only [Nat.add_mul, Nat.mul_assoc, Nat.mul_comm den]
        _ = 2 * (2 ^ 52 * 2 ^ 2046) * den := by rw [hsum]
    exact Nat.lt_of_mul_lt_mul_left (Nat.lt_of_mul_lt_mul_right hlt)
  obtain ⟨m, s, heq, hm, hvalue⟩ := ofRatio_eq_packed num hden
  rw [heq]
  rw [← hvalue] at hsmall
  exact isFinite_packed hm hsmall

end

/-! ## Decimals that can be read -/

theorem ofScaled_of_neg (digits : Nat) {exponent : Int} (h : exponent < 0) :
    (ofScaled digits exponent).isSome = true := by
  unfold ofScaled
  rw [if_neg (Int.not_le.mpr h)]
  rfl

theorem magnitude_ofNat_mul_le {n : Nat} (hn : 0 < n) :
    (ofNat n).magnitude * 2 ^ 53 ≤ n * unit * (2 ^ 53 + 1) := by
  have hlarge : 1 * 2 ^ 52 ≤ n * unit := by
    rw [Nat.one_mul]
    exact Nat.le_trans two_pow_le_unit (Nat.le_mul_of_pos_left unit hn)
  have hnear := magnitude_ofRatio_mul_le Nat.one_pos hlarge
  rwa [Nat.mul_one] at hnear

/-- The digits and the power of ten are rounded, and so is their product: it must be out of the
reach of three roundings. -/
theorem ofScaled_of_small {digits n : Nat}
    (h : digits * 10 ^ n * (2 ^ 53 + 1) ^ 2 < bound * 2 ^ 106) :
    (ofScaled digits n).isSome = true := by
  unfold ofScaled
  dsimp only
  rw [if_pos (Int.natCast_nonneg n), Int.toNat_natCast]
  by_cases hzero : ofNat digits = zero
  · rw [if_pos hzero]
    rfl
  have hdigits : 0 < digits := by
    apply Nat.pos_of_ne_zero
    rintro rfl
    exact hzero (by decide +kernel)
  have hrange : n ≤ 308 := by
    by_contra hn
    have hlarge : bound * 2 ^ 106 ≤ 10 ^ 309 * (2 ^ 53 + 1) ^ 2 := by decide +kernel
    have hpow : 10 ^ 309 ≤ digits * 10 ^ n := by
      calc 10 ^ 309
        _ ≤ 10 ^ n := by rwa [Nat.pow_le_pow_iff_right (by decide), ← Nat.not_lt,
          Nat.lt_succ_iff]
        _ ≤ digits * 10 ^ n := Nat.le_mul_of_pos_left _ hdigits
    have hge := Nat.mul_le_mul_right ((2 ^ 53 + 1) ^ 2) hpow
    omega
  have hfinite : (mulMagnitude (ofNat digits) (tenPow n)).isFinite = true := by
    apply isFinite_ofRatio
    have hstart := magnitude_ofNat_mul_le hdigits
    have htenPow : (tenPow n).magnitude * 2 ^ 53 ≤ 10 ^ n * unit * (2 ^ 53 + 1) :=
      magnitude_ofNat_mul_le (Nat.pow_pos (by decide))
    apply Nat.lt_of_mul_lt_mul_right (a := 2 ^ 106)
    calc (ofNat digits).magnitude * (tenPow n).magnitude * 2 ^ 106
      _ = (ofNat digits).magnitude * 2 ^ 53 * ((tenPow n).magnitude * 2 ^ 53) := by ring
      _ ≤ digits * unit * (2 ^ 53 + 1) * (10 ^ n * unit * (2 ^ 53 + 1)) :=
          Nat.mul_le_mul hstart htenPow
      _ = digits * 10 ^ n * (2 ^ 53 + 1) ^ 2 * (unit * unit) := by ring
      _ < bound * 2 ^ 106 * (unit * unit) :=
          Nat.mul_lt_mul_of_pos_right h (Nat.mul_pos unit_pos unit_pos)
      _ = bound * (unit * unit) * 2 ^ 106 := by ring
  rw [if_neg hzero, if_neg (by omega), if_pos hfinite]
  rfl

end Rollout.Decimal.Double
