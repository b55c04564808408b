import Mathlib.Data.List.Basic
import Rollout.Url.Encoding
/-!
# Percent-encoding and back

What a part of a URL encodes is decoded to the bytes that the text without encoding stands for, as
long as the percent sign and the digits are left alone. A text stands for its own bytes exactly if
nothing in it looks encoded already; otherwise it stands for fewer.
-/

namespace Rollout.Url

open Text (hexDigit?)

/-- The bytes of characters. -/
def bytes (cs : List Char) : List UInt8 := cs.flatMap String.utf8EncodeChar

/-- Two digits at the head, which make a byte after a percent sign. -/
def startsByte : List Char → Bool
  | a :: b :: _ => (hexDigit? a).isSome && (hexDigit? b).isSome
  | _ => false

/-- Whether something in the text looks encoded. -/
def hasEscape : List Char → Bool
  | [] => false
  | c :: cs => (c == '%' && startsByte cs) || hasEscape cs

theorem bytes_cons (c : Char) (cs : List Char) :
    bytes (c :: cs) = String.utf8EncodeChar c ++ bytes cs := rfl

theorem length_utf8EncodeChar_pos (c : Char) : 0 < (String.utf8EncodeChar c).length := by
  rw [String.length_utf8EncodeChar]
  exact c.utf8Size_pos

theorem bytes_injective {xs ys : List Char} (h : bytes xs = bytes ys) : xs = ys := by
  have hencode : xs.utf8Encode = ys.utf8Encode := congrArg List.toByteArray h
  have hdecode := congrArg ByteArray.utf8Decode? hencode
  rw [List.utf8Decode?_utf8Encode, List.utf8Decode?_utf8Encode] at hdecode
  exact congrArg Array.toList (Option.some.inj hdecode)

/-! ## Decoding -/

@[simp] theorem decodePercent_nil : decodePercent [] = [] := rfl

theorem decodePercent_cons_of_ne {c : Char} (h : c ≠ '%') (cs : List Char) :
    decodePercent (c :: cs) = String.utf8EncodeChar c ++ decodePercent cs := by
  rw [decodePercent.eq_def]
  split
  · simp_all
  · simp_all
  · simp_all

theorem decodePercent_percent_of_not {cs : List Char} (h : startsByte cs = false) :
    decodePercent ('%' :: cs) = 37 :: decodePercent cs := by
  match cs, h with
  | [], _ => rfl
  | [a], _ => rfl
  | a :: b :: rest, h =>
    unfold startsByte at h
    rw [decodePercent]
    cases ha : hexDigit? a with
    | none => rfl
    | some x =>
        cases hb : hexDigit? b with
        | none => rfl
        | some y => simp [ha, hb] at h

theorem decodePercent_percent_of_digits {a b : Char} {x y : Nat} (ha : hexDigit? a = some x)
    (hb : hexDigit? b = some y) (rest : List Char) :
    decodePercent ('%' :: a :: b :: rest) = UInt8.ofNat (x * 16 + y) :: decodePercent rest := by
  rw [decodePercent, ha, hb]

/-- Decoding goes through a text by characters that stand for themselves, percent signs that do so
too, and encoded bytes. -/
theorem percent_induction {motive : List Char → Prop} (nil : motive [])
    (plain : ∀ c cs, c ≠ '%' → motive cs → motive (c :: cs))
    (bare : ∀ cs, startsByte cs = false → motive cs → motive ('%' :: cs))
    (escape : ∀ a b x y rest, hexDigit? a = some x → hexDigit? b = some y → motive rest →
      motive ('%' :: a :: b :: rest)) (cs : List Char) : motive cs := by
  induction hlength : cs.length using Nat.strongRecOn generalizing cs with
  | _ n ih =>
      match cs, hlength with
      | [], _ => exact nil
      | c :: cs, hlength =>
        have hcs : motive cs := ih cs.length (hlength ▸ Nat.lt_succ_self _) cs rfl
        by_cases hc : c = '%'
        · subst hc
          cases hstarts : startsByte cs with
          | false => exact bare cs hstarts hcs
          | true =>
              match cs, hstarts with
              | a :: b :: rest, hstarts =>
                unfold startsByte at hstarts
                obtain ⟨ha, hb⟩ := Bool.and_eq_true_iff.mp hstarts
                obtain ⟨x, hx⟩ := Option.isSome_iff_exists.mp ha
                obtain ⟨y, hy⟩ := Option.isSome_iff_exists.mp hb
                have hshorter : rest.length < n := by
                  simp only [List.length_cons] at hlength
                  omega
                exact escape a b x y rest hx hy (ih rest.length hshorter rest rfl)
        · exact plain c cs hc hcs

theorem hasEscape_cons_of_ne {c : Char} (h : c ≠ '%') (cs : List Char) :
    hasEscape (c :: cs) = hasEscape cs := by
  simp [hasEscape, h]

theorem hasEscape_append_of_not_mem {xs : List Char} (h : '%' ∉ xs) (ys : List Char) :
    hasEscape (xs ++ ys) = hasEscape ys := by
  induction xs with
  | nil => rfl
  | cons c xs ih =>
      rw [List.mem_cons, not_or] at h
      rw [List.cons_append, hasEscape_cons_of_ne (Ne.symm h.1), ih h.2]

theorem decodePercent_of_not_hasEscape {cs : List Char} (h : hasEscape cs = false) :
    decodePercent cs = bytes cs := by
  induction cs with
  | nil => rfl
  | cons c cs ih =>
      unfold hasEscape at h
      obtain ⟨hhead, hcs⟩ := Bool.or_eq_false_iff.mp h
      rw [bytes_cons, ← ih hcs]
      by_cases hc : c = '%'
      · subst hc
        rw [decodePercent_percent_of_not (by simpa using hhead)]
        rfl
      · exact decodePercent_cons_of_ne hc cs

theorem length_decodePercent (cs : List Char) :
    (decodePercent cs).length ≤ (bytes cs).length ∧
      (hasEscape cs = true → (decodePercent cs).length < (bytes cs).length) := by
  induction cs using percent_induction with
  | nil => exact ⟨Nat.le_refl _, nofun⟩
  | plain c cs hc ih =>
      rw [decodePercent_cons_of_ne hc, bytes_cons, hasEscape_cons_of_ne hc]
      simp only [List.length_append]
      exact ⟨Nat.add_le_add_left ih.1 _, fun h => Nat.add_lt_add_left (ih.2 h) _⟩
  | bare cs hstarts ih =>
      have hescape : hasEscape ('%' :: cs) = hasEscape cs := by simp [hasEscape, hstarts]
      rw [decodePercent_percent_of_not hstarts, bytes_cons, hescape, List.length_append,
        List.length_cons, Nat.add_comm]
      exact ⟨Nat.add_le_add_left ih.1 1, fun h => Nat.add_lt_add_left (ih.2 h) 1⟩
  | escape a b x y rest ha hb ih =>
      have ha' := length_utf8EncodeChar_pos a
      have hb' := length_utf8EncodeChar_pos b
      have hsign : (String.utf8EncodeChar '%').length = 1 := rfl
      have hlt : (decodePercent ('%' :: a :: b :: rest)).length <
          (bytes ('%' :: a :: b :: rest)).length := by
        rw [decodePercent_percent_of_digits ha hb]
        simp only [bytes_cons, List.length_append, List.length_cons]
        omega
      exact ⟨Nat.le_of_lt hlt, fun _ => hlt⟩

theorem decodePercent_append_of_not_mem {xs : List Char} (h : '%' ∉ xs) (ys : List Char) :
    decodePercent (xs ++ ys) = bytes xs ++ decodePercent ys := by
  induction xs with
  | nil => rfl
  | cons c xs ih =>
      rw [List.mem_cons, not_or] at h
      rw [List.cons_append, decodePercent_cons_of_ne (Ne.symm h.1), ih h.2, bytes_cons,
        List.append_assoc]

theorem decodePercent_append_slash (xs ys : List Char) :
    decodePercent (xs ++ '/' :: ys) = decodePercent xs ++ decodePercent ('/' :: ys) := by
  induction xs using percent_induction with
  | nil => rfl
  | plain c xs hc ih =>
      rw [List.cons_append, decodePercent_cons_of_ne hc, decodePercent_cons_of_ne hc, ih,
        List.append_assoc]
  | bare xs hstarts ih =>
      -- A slash is no digit, so it completes nothing that a percent sign before it has begun.
      have hstarts' : startsByte (xs ++ '/' :: ys) = false := by
        match xs, hstarts with
        | [], _ => cases ys <;> rfl
        | [a], _ => exact Bool.and_false _
        | a :: b :: rest, hstarts => exact hstarts
      rw [List.cons_append, decodePercent_percent_of_not hstarts,
        decodePercent_percent_of_not hstarts', ih, List.cons_append]
  | escape a b x y rest ha hb ih =>
      simp only [List.cons_append]
      rw [decodePercent_percent_of_digits ha hb, decodePercent_percent_of_digits ha hb, ih,
        List.cons_append]

/-! ## Encoding -/

theorem hexDigit?_upperHexDigit : ∀ n < 16, hexDigit? (upperHexDigit n) = some n := by decide

theorem decodePercent_encodeByte (b : UInt8) (rest : List Char) :
    decodePercent (encodeByte b ++ rest) = b :: decodePercent rest := by
  have hb : b.toNat < 256 := b.toNat_lt
  have hhigh := hexDigit?_upperHexDigit (b.toNat / 16) (by omega)
  have hlow := hexDigit?_upperHexDigit (b.toNat % 16) (by omega)
  have hvalue : b.toNat / 16 * 16 + b.toNat % 16 = b.toNat := by omega
  unfold encodeByte
  simp only [List.cons_append, List.nil_append]
  rw [decodePercent_percent_of_digits hhigh hlow, hvalue, UInt8.ofNat_toNat]

theorem decodePercent_encodeBytes (bs : List UInt8) (rest : List Char) :
    decodePercent (bs.flatMap encodeByte ++ rest) = bs ++ decodePercent rest := by
  induction bs with
  | nil => rfl
  | cons b bs ih =>
      rw [List.flatMap_cons, List.append_assoc, decodePercent_encodeByte, ih, List.cons_append]

/-- The digits and the percent sign are not encoded. -/
def LeavesEscapes (set : EncodeSet) : Prop :=
  set '%' = false ∧ ∀ c, (hexDigit? c).isSome = true → set c = false

theorem visible_of_hexDigit? {c : Char} (h : (hexDigit? c).isSome = true) :
    0x20 ≤ c.toNat ∧ c.toNat < 0x7F := by
  unfold hexDigit? at h
  simp only [Char.le_def, UInt32.le_iff_toNat_le] at h
  change 0x20 ≤ c.val.toNat ∧ c.val.toNat < 0x7F
  split_ifs at h with hdigit hsmall hcapital
  · exact ⟨Nat.le_trans (by decide) hdigit.1, Nat.lt_of_le_of_lt hdigit.2 (by decide)⟩
  · exact ⟨Nat.le_trans (by decide) hsmall.1, Nat.lt_of_le_of_lt hsmall.2 (by decide)⟩
  · exact ⟨Nat.le_trans (by decide) hcapital.1, Nat.lt_of_le_of_lt hcapital.2 (by decide)⟩
  · cases h

theorem leavesEscapes_pathSet : LeavesEscapes pathSet := by
  refine ⟨rfl, fun c hc => ?_⟩
  by_contra hset
  simp only [pathSet, fragmentSet, Bool.not_eq_false, Bool.or_eq_true, decide_eq_true_eq,
    List.mem_cons, List.not_mem_nil, or_false] at hset
  rcases hset with (rfl | rfl | rfl | rfl) | rfl | rfl | rfl | rfl | rfl <;> cases hc

section

variable {set : EncodeSet} (hset : LeavesEscapes set)

theorem encodeChars_cons (c : Char) (cs : List Char) :
    encodeChars set (c :: cs) = encodeChar set c ++ encodeChars set cs := rfl

theorem encodeChars_append (xs ys : List Char) :
    encodeChars set (xs ++ ys) = encodeChars set xs ++ encodeChars set ys :=
  List.flatMap_append

theorem decodePercent_encodeChar_of_ne {c : Char} (h : c ≠ '%') (rest : List Char) :
    decodePercent (encodeChar set c ++ rest) = String.utf8EncodeChar c ++ decodePercent rest := by
  unfold encodeChar
  split
  · exact decodePercent_encodeBytes _ rest
  · exact decodePercent_cons_of_ne h rest

include hset

theorem encodeChar_of_digit {c : Char} (hc : (hexDigit? c).isSome = true) :
    encodeChar set c = [c] := by
  obtain ⟨hlow, hhigh⟩ := visible_of_hexDigit? hc
  unfold encodeChar
  rw [if_neg]
  simp only [hset.2 c hc, Bool.or_false, Bool.or_eq_true, decide_eq_true_eq]
  omega

theorem encodeChar_percent : encodeChar set '%' = ['%'] := by
  unfold encodeChar
  rw [hset.1]
  rfl

omit hset in
theorem head_encodeChar {c : Char} (hc : (hexDigit? c).isSome = false) :
    ∃ d rest, encodeChar set c = d :: rest ∧ (hexDigit? d).isSome = false := by
  unfold encodeChar
  split
  · cases hbytes : String.utf8EncodeChar c with
    | nil =>
        have hpos := length_utf8EncodeChar_pos c
        rw [hbytes] at hpos
        cases hpos
    | cons b bs => exact ⟨_, _, rfl, rfl⟩
  · exact ⟨c, [], rfl, hc⟩

omit hset in
theorem startsByte_cons_of_not {a : Char} (ha : (hexDigit? a).isSome = false) (cs : List Char) :
    startsByte (a :: cs) = false := by
  cases cs with
  | nil => rfl
  | cons b cs => simp [startsByte, ha]

/-- Nothing begins to look encoded by being encoded, and nothing ceases to. -/
theorem startsByte_encodeChars (cs : List Char) :
    startsByte (encodeChars set cs) = startsByte cs := by
  cases cs with
  | nil => rfl
  | cons a cs =>
      rw [encodeChars_cons]
      cases ha : (hexDigit? a).isSome with
      | false =>
          obtain ⟨d, rest, hd, hdigit⟩ := @head_encodeChar set _ ha
          rw [hd, List.cons_append, startsByte_cons_of_not hdigit, startsByte_cons_of_not ha]
      | true =>
          rw [encodeChar_of_digit hset ha]
          cases cs with
          | nil => rfl
          | cons b cs =>
              rw [encodeChars_cons]
              cases hb : (hexDigit? b).isSome with
              | false =>
                  obtain ⟨d, rest, hd, hdigit⟩ := @head_encodeChar set _ hb
                  rw [hd]
                  simp [startsByte, hdigit, hb]
              | true =>
                  rw [encodeChar_of_digit hset hb]
                  rfl

theorem decodePercent_encodeChars (cs : List Char) :
    decodePercent (encodeChars set cs) = decodePercent cs := by
  induction cs using percent_induction with
  | nil => rfl
  | plain c cs hc ih =>
      rw [encodeChars_cons, decodePercent_encodeChar_of_ne hc, decodePercent_cons_of_ne hc, ih]
  | bare cs hstarts ih =>
      rw [encodeChars_cons, encodeChar_percent hset, List.singleton_append,
        decodePercent_percent_of_not hstarts,
        decodePercent_percent_of_not ((startsByte_encodeChars hset cs).trans hstarts), ih]
  | escape a b x y rest ha hb ih =>
      have ha' := encodeChar_of_digit hset (c := a) (by rw [ha]; rfl)
      have hb' := encodeChar_of_digit hset (c := b) (by rw [hb]; rfl)
      simp only [encodeChars_cons, encodeChar_percent hset, ha', hb', List.singleton_append]
      rw [decodePercent_percent_of_digits ha hb, decodePercent_percent_of_digits ha hb, ih]

end

end Rollout.Url
