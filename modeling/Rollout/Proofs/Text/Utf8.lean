import Rollout.Text.Utf8
/-!
# Texts as bytes

The bytes that spell a text are read as its characters again, one after the other: none of them is
stray, and no character has to be replaced.
-/

namespace Rollout.Text

/-! ## One character -/

/-- A byte that carries six bits of a code point after the first byte. -/
def continuation (n : Nat) : UInt8 := UInt8.ofNat (n % 64 + 128)

theorem toNat_continuation (n : Nat) : (continuation n).toNat = n % 64 + 128 :=
  UInt8.toNat_ofNat_of_lt' (by change _ < 256; omega)

theorem takeTail_continuation {n acc v code taken : Nat} {rest : List UInt8}
    (h : takeTail n (acc * 64 + v % 64) rest = (some code, taken)) :
    takeTail (n + 1) acc (continuation v :: rest) = (some code, taken + 1) := by
  have hrange : 0x80 ≤ (continuation v).toNat ∧ (continuation v).toNat ≤ 0xBF := by
    rw [toNat_continuation]
    omega
  have hbits : (continuation v).toNat - 0x80 = v % 64 := by
    rw [toNat_continuation]
    omega
  rw [takeTail, if_pos hrange, hbits, h]

theorem headChar_of_lead {b v code taken : Nat} {lead : Lead} {rest : List UInt8}
    (hb : 0x80 ≤ b ∧ b < 256) (hlead : leadOf b = some lead)
    (hsecond : lead.low ≤ v % 64 + 128 ∧ v % 64 + 128 ≤ lead.high)
    (htail : takeTail lead.more (lead.bits * 64 + v % 64) rest = (some code, taken)) :
    headChar (UInt8.ofNat b) (continuation v :: rest) = (some (Char.ofNat code), taken + 1) := by
  have hfirst : (UInt8.ofNat b).toNat = b := UInt8.toNat_ofNat_of_lt' hb.2
  have hbits : (continuation v).toNat - 0x80 = v % 64 := by
    rw [toNat_continuation]
    omega
  rw [← toNat_continuation] at hsecond
  unfold headChar
  rw [hfirst, if_neg (by omega), hlead]
  dsimp only
  rw [if_pos hsecond, hbits, htail]
  rfl

theorem leadOf_two {v : Nat} (hlow : 0x80 ≤ v) (hhigh : v ≤ 0x7FF) :
    leadOf (v / 64 + 192) = some ⟨0x80, 0xBF, 0, v / 64⟩ := by
  rw [leadOf, if_pos (by omega), Nat.add_sub_cancel]

theorem leadOf_three {v : Nat} (hlow : 0x800 ≤ v) (hhigh : v ≤ 0xFFFF)
    (hvalid : v < 0xD800 ∨ 0xDFFF < v) :
    ∃ low high, leadOf (v / 4096 + 224) = some ⟨low, high, 1, v / 4096⟩ ∧
      low ≤ v / 64 % 64 + 128 ∧ v / 64 % 64 + 128 ≤ high := by
  unfold leadOf
  rw [if_neg (by omega)]
  by_cases hfirst : v / 4096 = 0
  · refine ⟨0xA0, 0xBF, ?_, by omega, by omega⟩
    rw [if_pos (by omega), hfirst]
  · rw [if_neg (by omega)]
    by_cases hsurrogate : v / 4096 = 13
    · refine ⟨0x80, 0x9F, ?_, by omega, by omega⟩
      rw [if_pos (by omega), hsurrogate]
    · refine ⟨0x80, 0xBF, ?_, by omega, by omega⟩
      rw [if_neg (by omega), if_pos (by omega), Nat.add_sub_cancel]

theorem leadOf_four {v : Nat} (hlow : 0x10000 ≤ v) (hhigh : v < 0x110000) :
    ∃ low high, leadOf (v / 262144 + 240) = some ⟨low, high, 2, v / 262144⟩ ∧
      low ≤ v / 4096 % 64 + 128 ∧ v / 4096 % 64 + 128 ≤ high := by
  unfold leadOf
  rw [if_neg (by omega), if_neg (by omega), if_neg (by omega), if_neg (by omega)]
  by_cases hfirst : v / 262144 = 0
  · refine ⟨0x90, 0xBF, ?_, by omega, by omega⟩
    rw [if_pos (by omega), hfirst]
  · rw [if_neg (by omega)]
    by_cases hlast : v / 262144 = 4
    · refine ⟨0x80, 0x8F, ?_, by omega, by omega⟩
      rw [if_neg (by omega), if_pos (by omega), hlast]
    · refine ⟨0x80, 0xBF, ?_, by omega, by omega⟩
      rw [if_pos (by omega), Nat.add_sub_cancel]

theorem headChar_one {v : Nat} (hhigh : v ≤ 0x7F) (rest : List UInt8) :
    headChar (UInt8.ofNat v) rest = (some (Char.ofNat v), 0) := by
  have hbyte : (UInt8.ofNat v).toNat = v := UInt8.toNat_ofNat_of_lt' (by change v < 256; omega)
  unfold headChar
  rw [hbyte, if_pos (by omega)]

theorem headChar_two {v : Nat} (hlow : 0x80 ≤ v) (hhigh : v ≤ 0x7FF) (rest : List UInt8) :
    headChar (UInt8.ofNat (v / 64 + 192)) (continuation v :: rest) = (some (Char.ofNat v), 1) := by
  have hsecond : 0x80 ≤ v % 64 + 128 ∧ v % 64 + 128 ≤ 0xBF := by omega
  have hcode : v / 64 * 64 + v % 64 = v := by omega
  refine headChar_of_lead (by omega) (leadOf_two hlow hhigh) hsecond ?_
  rw [hcode, takeTail]

theorem headChar_three {v : Nat} (hlow : 0x800 ≤ v) (hhigh : v ≤ 0xFFFF)
    (hvalid : v < 0xD800 ∨ 0xDFFF < v) (rest : List UInt8) :
    headChar (UInt8.ofNat (v / 4096 + 224)) (continuation (v / 64) :: continuation v :: rest) =
      (some (Char.ofNat v), 2) := by
  obtain ⟨low, high, hlead, hsecond⟩ := leadOf_three hlow hhigh hvalid
  have hcode : (v / 4096 * 64 + v / 64 % 64) * 64 + v % 64 = v := by omega
  refine headChar_of_lead (by omega) hlead hsecond (takeTail_continuation ?_)
  rw [hcode, takeTail]

theorem headChar_four {v : Nat} (hlow : 0x10000 ≤ v) (hhigh : v < 0x110000) (rest : List UInt8) :
    headChar (UInt8.ofNat (v / 262144 + 240))
        (continuation (v / 4096) :: continuation (v / 64) :: continuation v :: rest) =
      (some (Char.ofNat v), 3) := by
  obtain ⟨low, high, hlead, hsecond⟩ := leadOf_four hlow hhigh
  have hcode : ((v / 262144 * 64 + v / 4096 % 64) * 64 + v / 64 % 64) * 64 + v % 64 = v := by omega
  refine headChar_of_lead (by omega) hlead hsecond
    (takeTail_continuation (takeTail_continuation ?_))
  rw [hcode, takeTail]

theorem utf8EncodeChar_eq (c : Char) :
    String.utf8EncodeChar c =
      if c.toNat ≤ 0x7F then [UInt8.ofNat c.toNat]
      else if c.toNat ≤ 0x7FF then
        [UInt8.ofNat (c.toNat / 64 % 32 + 192), continuation c.toNat]
      else if c.toNat ≤ 0xFFFF then
        [UInt8.ofNat (c.toNat / 4096 % 16 + 224), continuation (c.toNat / 64),
          continuation c.toNat]
      else
        [UInt8.ofNat (c.toNat / 262144 % 8 + 240), continuation (c.toNat / 4096),
          continuation (c.toNat / 64), continuation c.toNat] :=
  rfl

theorem headChar_utf8EncodeChar (c : Char) (rest : List UInt8) :
    ∃ b bs, String.utf8EncodeChar c = b :: bs ∧
      headChar b (bs ++ rest) = (some c, bs.length) := by
  have hvalid : c.toNat < 0xD800 ∨ (0xDFFF < c.toNat ∧ c.toNat < 0x110000) := c.valid
  have hchar : Char.ofNat c.toNat = c := Char.ofNat_toNat c
  rw [utf8EncodeChar_eq]
  generalize c.toNat = v at hvalid hchar
  subst hchar
  by_cases hone : v ≤ 0x7F
  · exact ⟨_, _, if_pos hone, headChar_one hone rest⟩
  rw [if_neg hone]
  by_cases htwo : v ≤ 0x7FF
  · have hbits : v / 64 % 32 = v / 64 := by omega
    rw [if_pos htwo, hbits]
    exact ⟨_, _, rfl, headChar_two (by omega) htwo rest⟩
  rw [if_neg htwo]
  by_cases hthree : v ≤ 0xFFFF
  · have hbits : v / 4096 % 16 = v / 4096 := by omega
    rw [if_pos hthree, hbits]
    exact ⟨_, _, rfl, headChar_three (by omega) hthree (by omega) rest⟩
  · have hbits : v / 262144 % 8 = v / 262144 := by omega
    rw [if_neg hthree, hbits]
    exact ⟨_, _, rfl, headChar_four (by omega) (by omega) rest⟩

/-! ## Whole texts -/

theorem toList_loop_eq (bytes : ByteArray) (i : Nat) (acc : List UInt8) :
    ByteArray.toList.loop bytes i acc = acc.reverse ++ bytes.data.toList.drop i := by
  fun_induction ByteArray.toList.loop bytes i acc with
  | case1 i acc h ih =>
    have hi : i < bytes.data.toList.length := by simpa using h
    have hget : bytes.get! i = bytes.data.toList[i] := by
      simp [ByteArray.get!, h]
    rw [ih, List.drop_eq_getElem_cons hi, hget, List.reverse_cons, List.append_assoc]
    rfl
  | case2 i acc h =>
    rw [List.drop_eq_nil_of_le (by simpa using Nat.le_of_not_lt h), List.append_nil]

theorem toBytes_eq_flatMap (s : String) : toBytes s = s.toList.flatMap String.utf8EncodeChar := by
  have harray : s.toUTF8 = s.toList.utf8Encode := by
    rw [← String.toByteArray_ofList, String.ofList_toList]
    rfl
  rw [toBytes, harray, ByteArray.toList, toList_loop_eq, List.reverse_nil, List.nil_append,
    List.drop_zero]
  exact List.toList_data_toByteArray

theorem symbols_flatMap (cs : List Char) :
    symbols (cs.flatMap String.utf8EncodeChar) = cs.map .char := by
  induction cs with
  | nil => rw [List.flatMap_nil, symbols, List.map_nil]
  | cons c cs ih =>
    obtain ⟨b, bs, hbytes, hhead⟩ :=
      headChar_utf8EncodeChar c (cs.flatMap String.utf8EncodeChar)
    rw [List.flatMap_cons, hbytes, List.cons_append, symbols, hhead]
    dsimp only
    rw [List.drop_left, ih, List.map_cons]

theorem lossyChars_flatMap (cs : List Char) :
    lossyChars (cs.flatMap String.utf8EncodeChar) = cs := by
  induction cs with
  | nil => rw [List.flatMap_nil, lossyChars]
  | cons c cs ih =>
    obtain ⟨b, bs, hbytes, hhead⟩ :=
      headChar_utf8EncodeChar c (cs.flatMap String.utf8EncodeChar)
    rw [List.flatMap_cons, hbytes, List.cons_append, lossyChars, hhead]
    dsimp only
    rw [List.drop_left, ih]

theorem symbols_toBytes (s : String) : symbols (toBytes s) = Symbol.ofString s := by
  rw [toBytes_eq_flatMap, symbols_flatMap, Symbol.ofString]

/-- No character of a text has to be replaced. -/
theorem lossy_toBytes (s : String) : lossy (toBytes s) = s := by
  rw [lossy, toBytes_eq_flatMap, lossyChars_flatMap, String.ofList_toList]

end Rollout.Text
