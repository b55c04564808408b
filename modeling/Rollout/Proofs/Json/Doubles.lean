import Rollout.Proofs.Decimal.Shortest
import Rollout.Proofs.Json.Writing
/-!
# Doubles can be read

Every finite double is written as a number that is in range when it is read, though perhaps not as
the same double: the digits that are read are those of the text as long as they fit, and what they
stand for is not above what the shortest digits of the double stand for.
-/

namespace Rollout.Json

open Decimal Text

/-! ## Digits that fit -/

theorem fitDigits_append {xs : List Char} {acc n : Nat} (h : fitDigits acc xs = (n, 0))
    (ys : List Char) : fitDigits acc (xs ++ ys) = fitDigits n ys := by
  fun_induction fitDigits acc xs with
  | case1 acc =>
      cases h
      rfl
  | case2 acc c cs next hfits ih =>
      rw [List.cons_append, fitDigits, if_pos hfits]
      exact ih h
  | case3 => cases h

theorem fitDigits_cut_le (acc : Nat) (ds : List Char) : (fitDigits acc ds).2 ≤ ds.length := by
  fun_induction fitDigits acc ds with
  | case1 => exact Nat.le_refl _
  | case2 acc c cs next hfits ih => exact Nat.le_succ_of_le ih
  | case3 => exact Nat.le_refl _

theorem fitDigits_le (acc : Nat) (ds : List Char) :
    (fitDigits acc ds).1 * 10 ^ (fitDigits acc ds).2 ≤ Nat.ofDigitChars 10 ds acc := by
  fun_induction fitDigits acc ds with
  | case1 acc => exact Nat.le_of_eq (Nat.mul_one acc)
  | case2 acc c cs next hfits ih =>
      rw [Nat.ofDigitChars_cons, Nat.mul_comm 10 acc]
      exact ih
  | case3 acc c cs next hlarge =>
      rw [Nat.ofDigitChars_eq_ofDigitChars_zero, List.length_cons, Nat.mul_comm acc]
      exact Nat.le_add_right _ _

theorem ofDigitChars_lt {ds : List Char} (hds : ∀ d ∈ ds, d.isDigit = true) (acc : Nat) :
    Nat.ofDigitChars 10 ds acc < (acc + 1) * 10 ^ ds.length := by
  induction ds generalizing acc with
  | nil => exact Nat.lt_of_lt_of_eq (Nat.lt_succ_self acc) (Nat.mul_one _).symm
  | cons d ds ih =>
      obtain ⟨hd, hds⟩ := List.forall_mem_cons.mp hds
      have hdigit : d.toNat - '0'.toNat ≤ 9 := by
        have hrange := (Char.isDigit_iff_toNat.mp hd).2
        exact Nat.sub_le_sub_right hrange '0'.toNat
      rw [Nat.ofDigitChars_cons, List.length_cons]
      calc Nat.ofDigitChars 10 ds (10 * acc + (d.toNat - '0'.toNat))
        _ < (10 * acc + (d.toNat - '0'.toNat) + 1) * 10 ^ ds.length := ih hds _
        _ ≤ (10 * (acc + 1)) * 10 ^ ds.length := Nat.mul_le_mul_right _ (by omega)
        _ = (acc + 1) * 10 ^ (ds.length + 1) := by
            rw [Nat.pow_succ]
            ring

theorem fitDigits_of_length_le {ds : List Char} (hds : ∀ d ∈ ds, d.isDigit = true)
    (h : ds.length ≤ 19) : fitDigits 0 ds = (Nat.ofDigitChars 10 ds 0, 0) := by
  apply fitDigits_eq
  calc Nat.ofDigitChars 10 ds 0
    _ < (0 + 1) * 10 ^ ds.length := ofDigitChars_lt hds 0
    _ ≤ (0 + 1) * 10 ^ 19 := Nat.mul_le_mul_left _ (Nat.pow_le_pow_right (by decide) h)
    _ ≤ UInt64.size := by decide

theorem fitDigits_zeros (n : Nat) (ds : List Char) :
    fitDigits 0 (List.replicate n '0' ++ ds) = fitDigits 0 ds := by
  induction n with
  | zero => rfl
  | succ n ih => exact ih

/-! ## Numerals -/

def fractionChars : Option (List Char) → List Char
  | none => []
  | some ds => '.' :: ds

def exponentChars : Option (Bool × List Char) → List Char
  | none => []
  | some (negative, ds) => 'e' :: (if negative then '-' else '+') :: ds

/-- The text of a numeral without its sign. -/
def Numeral.unsigned (n : Numeral) : List Char :=
  n.whole ++ fractionChars n.fraction ++ exponentChars n.exponent

/-- The text of a numeral. -/
def Numeral.chars (n : Numeral) : List Char :=
  if n.negative then '-' :: n.unsigned else n.unsigned

structure Numeral.WellFormed (n : Numeral) : Prop where
  whole : AreWhole n.whole
  fraction : ∀ ds ∈ n.fraction, AreDigits ds
  exponent : ∀ e ∈ n.exponent, AreDigits e.2

theorem FractionText.of_chars {fraction : Option (List Char)}
    (h : ∀ ds ∈ fraction, AreDigits ds) (rest : List Symbol) :
    FractionText fraction ((fractionChars fraction).map .char ++ rest) rest := by
  cases fraction with
  | none => exact .absent
  | some ds => exact .present (h ds rfl)

theorem ExponentText.of_chars {exponent : Option (Bool × List Char)}
    (h : ∀ e ∈ exponent, AreDigits e.2) (rest : List Symbol) :
    ExponentText exponent ((exponentChars exponent).map .char ++ rest) rest := by
  cases exponent with
  | none => exact .absent
  | some e =>
      obtain ⟨negative, ds⟩ := e
      cases negative with
      | false => exact .plus (.inl rfl) (h _ rfl)
      | true => exact .minus (.inl rfl) (h _ rfl)

theorem SignText.of_chars (n : Numeral) (rest : List Symbol) :
    SignText n.negative (n.chars.map .char ++ rest) (n.unsigned.map .char ++ rest) := by
  obtain ⟨negative, whole, fraction, exponent⟩ := n
  cases negative with
  | false => exact .absent
  | true => exact .minus

theorem Numeral.WellFormed.spells {n : Numeral} (h : n.WellFormed) :
    Spells n.chars (.number n) := by
  refine .of_value fun rest => .number ?_
  have hsign := SignText.of_chars n rest
  rw [Numeral.unsigned, List.map_append, List.map_append, List.append_assoc,
    List.append_assoc] at hsign
  exact ⟨hsign, h.whole, .of_chars h.fraction _, .of_chars h.exponent rest⟩

/-- The power of ten that an exponent stands for. -/
def exponentValue : Option (Bool × List Char) → Int
  | none => 0
  | some (negative, ds) => if negative then -(digitsValue ds : Int) else digitsValue ds

theorem Numeral.value_eq_real {n : Numeral} (h : n.fraction ≠ none ∨ n.exponent ≠ none) :
    n.value = n.real := by
  unfold Numeral.value
  split
  · rename_i hfraction hexponent _
    exact absurd h (by simp [hfraction, hexponent])
  · rfl

theorem Numeral.real_of_ofScaled {n : Numeral} {whole : Nat}
    (hwhole : fitDigits 0 n.whole = (whole, 0)) {read : Nat × Nat}
    (hread : fitDigits whole (n.fraction.getD []) = read)
    (h : (Double.ofScaled read.1
      (exponentValue n.exponent + (read.2 - (n.fraction.getD []).length))).isSome = true) :
    ∃ x, n.real = .ok x := by
  have hcut : read.2 ≤ (n.fraction.getD []).length := hread ▸ fitDigits_cut_le _ _
  have hexponent : exponentValue n.exponent + (read.2 - (n.fraction.getD []).length) =
      ((0 : Nat) : Int) - ((n.fraction.getD []).length - read.2 : Nat) +
        exponentValue n.exponent := by
    omega
  rw [hexponent] at h
  obtain ⟨x, hx⟩ := Option.isSome_iff_exists.mp h
  obtain ⟨negative, ds, fraction, exponent⟩ := n
  obtain ⟨digits, cut⟩ := read
  refine ⟨.real (if negative then x.neg else x), ?_⟩
  unfold Numeral.real
  unfold exponentValue at hx
  rw [hwhole]
  dsimp only at hread ⊢
  rw [hread]
  cases exponent <;>
    · dsimp only at hx ⊢
      rw [hx]

/-! ## Layouts -/

theorem digitsValue_toDigits (n : Nat) : digitsValue (Nat.toDigits 10 n) = n := by
  have hdigits := Nat.ofDigitChars_ten_toDigits (n := n)
  simp only [Nat.ofDigitChars, Nat.mul_comm 10] at hdigits
  exact hdigits

/-- The fraction of digits with their point behind the first one. -/
def restFraction : List Char → Option (List Char)
  | [] => none
  | rest => some rest

/-- How digits are laid out: as a whole number, with the point among them or before them, or with an
exponent. -/
theorem layout_cases (d : Digits) :
    (0 ≤ d.exponent ∧ d.exponent + (Nat.toDigits 10 d.digits).length ≤ 16 ∧
      layout d = Nat.toDigits 10 d.digits ++ List.replicate d.exponent.toNat '0' ++ ['.', '0']) ∨
    (∃ k : Nat, 0 < k ∧ k ≤ 16 ∧ k < (Nat.toDigits 10 d.digits).length ∧
      d.exponent + (Nat.toDigits 10 d.digits).length = k ∧
      layout d = (Nat.toDigits 10 d.digits).take k ++ '.' :: (Nat.toDigits 10 d.digits).drop k) ∨
    (∃ k : Nat, d.exponent + (Nat.toDigits 10 d.digits).length = -k ∧
      layout d = '0' :: '.' :: (List.replicate k '0' ++ Nat.toDigits 10 d.digits)) ∨
    (∃ (c : Char) (rest : List Char) (negative : Bool) (n : Nat),
      Nat.toDigits 10 d.digits = c :: rest ∧
      d.exponent + rest.length = exponentValue (some (negative, Nat.toDigits 10 n)) ∧
      layout d = [c] ++ fractionChars (restFraction rest) ++
        exponentChars (some (negative, Nat.toDigits 10 n))) := by
  have hsome : 0 < (Nat.toDigits 10 d.digits).length :=
    List.length_pos_of_ne_nil Nat.toDigits_ne_nil
  unfold layout
  generalize Nat.toDigits 10 d.digits = ds at hsome
  dsimp only
  by_cases hplain : -5 ≤ d.exponent + ds.length - 1 ∧ d.exponent + ds.length - 1 < 16
  · rw [if_pos hplain]
    by_cases hwhole : 0 ≤ d.exponent
    · rw [if_pos hwhole]
      exact .inl ⟨hwhole, by omega, rfl⟩
    rw [if_neg hwhole]
    by_cases hamong : 0 ≤ d.exponent + ds.length - 1
    · rw [if_pos hamong, List.append_assoc]
      exact .inr (.inl ⟨_, Nat.succ_pos _, by omega, by omega, by omega, rfl⟩)
    · rw [if_neg hamong]
      exact .inr (.inr (.inl ⟨_, by omega, rfl⟩))
  · rw [if_neg hplain]
    obtain ⟨c, rest, rfl⟩ := List.exists_cons_of_length_pos hsome
    have hlength : (((c :: rest).length : Nat) : Int) = rest.length + 1 := by
      rw [List.length_cons]
      omega
    by_cases hsign : 0 ≤ d.exponent + (c :: rest).length - 1
    · refine .inr (.inr (.inr ⟨c, rest, false, (d.exponent + (c :: rest).length - 1).natAbs, rfl,
        ?_, ?_⟩))
      · rw [exponentValue, digitsValue_toDigits, if_neg (by decide)]
        omega
      · rw [if_pos hsign, List.append_assoc]
        cases rest <;> rfl
    · refine .inr (.inr (.inr ⟨c, rest, true, (d.exponent + (c :: rest).length - 1).natAbs, rfl,
        ?_, ?_⟩))
      · rw [exponentValue, digitsValue_toDigits, if_pos rfl]
        omega
      · rw [if_neg hsign, List.append_assoc]
        cases rest <;> rfl

/-- The double that is read from digits: as many of them count as fit. -/
def readDigits (d : Digits) : Option Double :=
  Double.ofScaled (fitDigits 0 (Nat.toDigits 10 d.digits)).1
    (d.exponent + (fitDigits 0 (Nat.toDigits 10 d.digits)).2)

theorem areDigits_zeros_append {ds : List Char} (h : AreDigits ds) (n : Nat) :
    AreDigits (List.replicate n '0' ++ ds) where
  nonempty hnil := h.nonempty (List.append_eq_nil_iff.mp hnil).2
  digits := List.forall_mem_append.mpr
    ⟨fun _ hd => (List.eq_of_mem_replicate hd).symm ▸ rfl, h.digits⟩

theorem areDigits_zero : AreDigits ['0'] := ⟨nofun, List.forall_mem_singleton.mpr rfl⟩

theorem areWhole_zero : AreWhole ['0'] := ⟨areDigits_zero, fun _ h => (List.cons.inj h).2.symm⟩

theorem AreWhole.append_zeros {ds : List Char} (h : AreWhole ds) {n : Nat}
    (hn : ds = ['0'] → n = 0) : AreWhole (ds ++ List.replicate n '0') where
  nonempty hnil := h.nonempty (List.append_eq_nil_iff.mp hnil).1
  digits := List.forall_mem_append.mpr
    ⟨h.digits, fun _ hd => (List.eq_of_mem_replicate hd).symm ▸ rfl⟩
  leading rest hrest := by
    obtain ⟨c, cs, rfl⟩ := List.exists_cons_of_ne_nil h.nonempty
    obtain ⟨rfl, rfl⟩ := List.cons.inj hrest
    obtain rfl := h.leading cs rfl
    rw [hn rfl]
    rfl

theorem AreWhole.take {ds : List Char} (h : AreWhole ds) {k : Nat} (hk : 0 < k) :
    AreWhole (ds.take k) where
  nonempty hnil := h.nonempty ((List.take_eq_nil_iff.mp hnil).resolve_left (Nat.ne_of_gt hk))
  digits d hd := h.digits d (List.mem_of_mem_take hd)
  leading rest hrest := by
    obtain ⟨c, cs, rfl⟩ := List.exists_cons_of_ne_nil h.nonempty
    obtain ⟨k, rfl⟩ := Nat.exists_eq_succ_of_ne_zero (Nat.ne_of_gt hk)
    obtain ⟨rfl, rfl⟩ := List.cons.inj hrest
    rw [h.leading cs rfl, List.take_nil]

theorem Numeral.exists_value {n : Numeral} (hreal : n.fraction ≠ none ∨ n.exponent ≠ none)
    {whole : Nat} (hwhole : fitDigits 0 n.whole = (whole, 0)) {read : Nat × Nat}
    (hread : fitDigits whole (n.fraction.getD []) = read) {exponent : Int}
    (hexponent : exponentValue n.exponent + (read.2 - (n.fraction.getD []).length) = exponent)
    (h : (Double.ofScaled read.1 exponent).isSome = true) : ∃ x, n.value = .ok x := by
  rw [Numeral.value_eq_real hreal]
  rw [← hexponent] at h
  exact Numeral.real_of_ofScaled hwhole hread h

/-- A text that spells a number which can be read, with a sign or without. -/
def Legible (cs : List Char) : Prop :=
  ∀ negative, ∃ n : Numeral, n.negative = negative ∧ n.unsigned = cs ∧ n.WellFormed ∧
    ∃ x, n.value = .ok x

section

variable {d : Digits}

theorem legible_whole {ds : List Char} (hds : AreWhole ds) (hlength : ds.length ≤ 16) :
    Legible (ds ++ ['.', '0']) := by
  intro negative
  have hfits := fitDigits_of_length_le hds.digits (Nat.le_trans hlength (by decide))
  have hall : fitDigits 0 (ds ++ ['0']) = (Nat.ofDigitChars 10 (ds ++ ['0']) 0, 0) := by
    apply fitDigits_of_length_le
    · exact List.forall_mem_append.mpr ⟨hds.digits, areDigits_zero.digits⟩
    · rw [List.length_append]
      exact Nat.le_trans (Nat.succ_le_succ hlength) (by decide)
  rw [fitDigits_append hfits] at hall
  refine ⟨⟨negative, ds, some ['0'], none⟩, rfl, List.append_nil _,
    ⟨hds, fun fs hfs => ?_, nofun⟩,
    Numeral.exists_value (.inl nofun) hfits hall rfl (Double.ofScaled_of_neg _ ?_)⟩
  · exact Option.some.inj hfs ▸ areDigits_zero
  · exact Int.negSucc_lt_zero 0

theorem legible_among (h : (readDigits d).isSome = true) {k : Nat} (hpos : 0 < k) (hle : k ≤ 16)
    (hlt : k < (Nat.toDigits 10 d.digits).length)
    (hexponent : d.exponent + (Nat.toDigits 10 d.digits).length = k) :
    Legible ((Nat.toDigits 10 d.digits).take k ++ '.' :: (Nat.toDigits 10 d.digits).drop k) := by
  intro negative
  have hwhole := (areWhole_toDigits d.digits).take hpos
  have hfits := fitDigits_of_length_le hwhole.digits (by rw [List.length_take]; omega)
  have hall := fitDigits_append hfits ((Nat.toDigits 10 d.digits).drop k)
  rw [List.take_append_drop] at hall
  refine ⟨⟨negative, _, some ((Nat.toDigits 10 d.digits).drop k), none⟩, rfl,
    List.append_nil _,
    ⟨hwhole, fun fs hfs => ?_, nofun⟩,
    Numeral.exists_value (.inl nofun) hfits hall.symm ?_ h⟩
  · obtain rfl := Option.some.inj hfs
    refine ⟨fun hnil => absurd (List.drop_eq_nil_iff.mp hnil) (Nat.not_le.mpr hlt),
      fun c hc => ?_⟩
    exact (areWhole_toDigits d.digits).digits c (List.mem_of_mem_drop hc)
  · rw [exponentValue, Option.getD_some, List.length_drop]
    omega

theorem legible_before (h : (readDigits d).isSome = true) {k : Nat}
    (hexponent : d.exponent + (Nat.toDigits 10 d.digits).length = -k) :
    Legible ('0' :: '.' :: (List.replicate k '0' ++ Nat.toDigits 10 d.digits)) := by
  intro negative
  refine ⟨⟨negative, ['0'], some (List.replicate k '0' ++ Nat.toDigits 10 d.digits), none⟩,
    rfl,
    List.append_nil _, ⟨areWhole_zero, fun fs hfs => ?_, nofun⟩,
    Numeral.exists_value (.inl nofun) rfl (fitDigits_zeros k _) ?_ h⟩
  · exact Option.some.inj hfs ▸ areDigits_zeros_append (areWhole_toDigits d.digits).toAreDigits k
  · rw [exponentValue, Option.getD_some, List.length_append, List.length_replicate]
    omega

theorem legible_scientific (h : (readDigits d).isSome = true) {c : Char} {rest : List Char}
    {sign : Bool} {n : Nat} (hdigits : Nat.toDigits 10 d.digits = c :: rest)
    (hexponent : d.exponent + rest.length = exponentValue (some (sign, Nat.toDigits 10 n))) :
    Legible ([c] ++ fractionChars (restFraction rest) ++
      exponentChars (some (sign, Nat.toDigits 10 n))) := by
  intro negative
  have hwhole := areWhole_toDigits d.digits
  rw [hdigits] at hwhole
  have hc : AreWhole [c] := hwhole.take Nat.one_pos
  have hfits : fitDigits 0 [c] = (Nat.ofDigitChars 10 [c] 0, 0) :=
    fitDigits_of_length_le hc.digits (Nat.le_add_left 1 18)
  have hall : fitDigits 0 (c :: rest) = fitDigits (Nat.ofDigitChars 10 [c] 0) rest :=
    fitDigits_append hfits rest
  have hrest : (restFraction rest).getD [] = rest := by
    cases rest <;> rfl
  rw [readDigits, hdigits, hall] at h
  refine ⟨⟨negative, [c], restFraction rest, some (sign, Nat.toDigits 10 n)⟩, rfl, rfl,
    ⟨hc, fun fs hfs => ?_, fun e he => ?_⟩,
    Numeral.exists_value (.inr nofun) hfits (congrArg _ hrest) ?_ h⟩
  · cases rest with
    | nil => cases hfs
    | cons b rest =>
        obtain rfl := Option.some.inj hfs
        exact ⟨nofun, fun d hd => hwhole.digits d (List.mem_cons_of_mem _ hd)⟩
  · exact Option.some.inj he ▸ (areWhole_toDigits n).toAreDigits
  · rw [hrest, ← hexponent]
    omega

/-- However digits are laid out, they can be read if they are in range. -/
theorem legible_layout (hd : d.digits = 0 → d.exponent = 0) (h : (readDigits d).isSome = true) :
    Legible (layout d) := by
  rcases layout_cases d with ⟨hexponent, hlength, hlayout⟩ |
    ⟨k, hpos, hle, hlt, hexponent, hlayout⟩ | ⟨k, hexponent, hlayout⟩ |
    ⟨c, rest, sign, n, hdigits, hexponent, hlayout⟩
  · rw [hlayout]
    apply legible_whole
    · refine (areWhole_toDigits d.digits).append_zeros fun hzero => ?_
      have hvalue := Nat.ofDigitChars_ten_toDigits (n := d.digits)
      rw [hzero] at hvalue
      rw [hd hvalue.symm]
      rfl
    · rw [List.length_append, List.length_replicate]
      omega
  · rw [hlayout]
    exact legible_among h hpos hle hlt hexponent
  · rw [hlayout]
    exact legible_before h hexponent
  · rw [hlayout]
    exact legible_scientific h hdigits hexponent

end

/-! ## Doubles -/

theorem isSome_readDigits_shortest {x : Double} (hfinite : x.isFinite = true) :
    (readDigits (shortest x)).isSome = true := by
  by_cases hbelow : x.exponentField < 2046 ∨ x.fractionField + 2 < 2 ^ 52
  · unfold readDigits
    have hle := fitDigits_le 0 (Nat.toDigits 10 (shortest x).digits)
    rw [Nat.ofDigitChars_ten_toDigits] at hle
    generalize fitDigits 0 (Nat.toDigits 10 (shortest x).digits) = read at hle ⊢
    by_cases hneg : (shortest x).exponent + read.2 < 0
    · exact Double.ofScaled_of_neg _ hneg
    · obtain ⟨n, hn⟩ := Int.eq_ofNat_of_zero_le (Int.not_lt.mp hneg)
      rw [hn]
      apply ofScaled_of_le_shortest hfinite hbelow
      have hpow : (10 : ℚ) ^ n = 10 ^ read.2 * 10 ^ (shortest x).exponent := by
        rw [← zpow_natCast, ← zpow_natCast, ← zpow_add₀ (by decide), Int.add_comm, hn]
      calc (read.1 * 10 ^ n : ℚ)
        _ = ((read.1 * 10 ^ read.2 : Nat) : ℚ) * 10 ^ (shortest x).exponent := by
            rw [hpow]
            push_cast
            ring
        _ ≤ (shortest x).digits * 10 ^ (shortest x).exponent :=
            mul_le_mul_of_nonneg_right (Nat.cast_le.mpr hle) (by positivity)
  · have hlargest : largestBits.all
      (fun bits => (readDigits (shortest ⟨bits⟩)).isSome) = true := by
      decide +kernel
    exact List.all_eq_true.mp hlargest x.bits (mem_largestBits hfinite hbelow)

/-- Every finite double is written as a number that can be read. -/
theorem readable_of_isFinite {x : Double} (hfinite : x.isFinite = true) : Readable x := by
  have hdigits : Legible (if x.significand = 0 then ['0', '.', '0'] else layout (shortest x)) := by
    split
    · exact legible_whole areWhole_zero (Nat.le_add_left 1 15)
    · exact legible_layout (exponent_shortest x) (isSome_readDigits_shortest hfinite)
  obtain ⟨n, hsign, htext, hwell, hvalue⟩ := hdigits x.isNegative
  have hchars : n.chars = x.chars := by
    rw [Numeral.chars, hsign, htext]
    rfl
  exact ⟨n, hchars ▸ hwell.spells, hvalue⟩

end Rollout.Json
