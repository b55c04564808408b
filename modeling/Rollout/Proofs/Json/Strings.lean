import Rollout.Proofs.Json.Numbers
/-!
# Reading strings

What a string literal is read from, between its opening and its closing quote.
-/

namespace Rollout.Json

open Text

/-- What a literal that was read is spelled by, or that it does not end. -/
def LiteralRead (s : List Symbol) : Literal × Rest → Prop
  | (l, some rest) => ∃ ps, l = ⟨ps, .closed⟩ ∧ LiteralText ps s rest
  | (l, none) => l.ending.fault.isSome = true

theorem LiteralRead.cons {s t : List Symbol} {l : Literal} {rest : Rest}
    (h : LiteralRead t (l, rest)) {p : Piece}
    (hp : ∀ {ps rest}, LiteralText ps t rest → LiteralText (p :: ps) s rest) :
    LiteralRead s (⟨p :: l.pieces, l.ending⟩, rest) := by
  cases rest with
  | none => exact h
  | some rest =>
      obtain ⟨ps, rfl, htext⟩ := h
      exact ⟨p :: ps, rfl, hp htext⟩

theorem hexEscape_unit {s rest : List Symbol} {u : UInt16} (h : hexEscape s = .unit u rest) :
    ∃ a b c d w x y z, s = a :: b :: c :: d :: rest ∧ hexValue? a = some w ∧
      hexValue? b = some x ∧ hexValue? c = some y ∧ hexValue? d = some z ∧
      u = UInt16.ofNat (((w * 16 + x) * 16 + y) * 16 + z) := by
  unfold hexEscape at h
  split at h
  · split at h
    · rename_i ha hb hc hd
      cases h
      exact ⟨_, _, _, _, _, _, _, _, rfl, ha, hb, hc, hd, rfl⟩
    · cases h
  · split at h <;> cases h

theorem readString_read (n : Nat) (s : List Symbol) : LiteralRead s (readString n s) := by
  fun_induction readString n s with
  | case1 => rfl
  | case2 => rfl
  | case3 => exact ⟨[], rfl, .closed⟩
  | case4 => rfl
  | case5 => rfl
  | case6 => rfl
  | case7 n _ u rest hhex l later hread ih =>
      obtain ⟨a, b, c, d, w, x, y, z, rfl, ha, hb, hc, hd, rfl⟩ := hexEscape_unit hhex
      rw [hread] at ih
      exact ih.cons fun htext => .unit ha hb hc hd htext
  | case8 => rfl
  | case9 => rfl
  | case10 n c rest _ e hescape l later hread ih =>
      rw [hread] at ih
      exact ih.cons fun htext => .escape hescape htext
  | case11 => rfl
  | case12 n rest c hcontrol l later hread hquote hcut hunit hstray hescape ih =>
      rw [hread] at ih
      refine ih.cons fun htext => .plain (fun hc => hquote (congrArg _ hc)) ?_ (by omega) htext
      -- Whatever follows a backslash starts or breaks an escape.
      rintro rfl
      cases rest with
      | nil => exact hcut rfl rfl
      | cons b rest =>
          cases b with
          | char d => exact hescape d rest rfl rfl
          | stray b => exact hstray b rest rfl rfl
  | case13 n rest b l later hread _ _ _ _ _ ih =>
      rw [hread] at ih
      exact ih.cons fun htext => .stray htext

theorem hexEscape_of_values {a b c d : Symbol} {w x y z : Nat} (ha : hexValue? a = some w)
    (hb : hexValue? b = some x) (hc : hexValue? c = some y) (hd : hexValue? d = some z)
    (rest : List Symbol) : hexEscape (a :: b :: c :: d :: rest) =
      .unit (UInt16.ofNat (((w * 16 + x) * 16 + y) * 16 + z)) rest := by
  simp only [hexEscape, ha, hb, hc, hd]

theorem readString_plain {c : Char} (quote : c ≠ '"') (backslash : c ≠ '\\')
    (control : 0x20 ≤ c.toNat) (n : Nat) (s : List Symbol) :
    readString (n + 1) (.char c :: s) =
      (⟨.plain (.char c) :: (readString n s).1.pieces, (readString n s).1.ending⟩,
        (readString n s).2) := by
  rw [readString]
  · exact if_neg (by omega)
  · simpa using quote
  · simp [backslash]
  · simp [backslash]
  · simp [backslash]
  · simp [backslash]

theorem readString_escape {c e : Char} (stands : shortEscape? c = some e) (n : Nat)
    (s : List Symbol) : readString (n + 1) (.char '\\' :: .char c :: s) =
      (⟨.escape e :: (readString n s).1.pieces, (readString n s).1.ending⟩,
        (readString n s).2) := by
  rw [readString]
  · rw [stands]
  · rintro rfl
    cases stands

theorem readString_of_text {ps : List Piece} {s rest : List Symbol} (h : LiteralText ps s rest)
    {n : Nat} (hn : s.length ≤ n) : readString n s = (⟨ps, .closed⟩, some rest) := by
  induction h generalizing n with
  | closed =>
      obtain ⟨m, rfl⟩ := Nat.exists_eq_add_of_le' (Nat.le_trans (Nat.le_add_left 1 _) hn)
      rfl
  | @plain c ps s rest quote backslash control later ih =>
      obtain ⟨m, rfl⟩ := Nat.exists_eq_add_of_le' (Nat.le_trans (Nat.le_add_left 1 _) hn)
      rw [readString_plain quote backslash control, ih (Nat.le_of_succ_le_succ hn)]
  | @stray b ps s rest later ih =>
      obtain ⟨m, rfl⟩ := Nat.exists_eq_add_of_le' (Nat.le_trans (Nat.le_add_left 1 _) hn)
      rw [readString, ih (Nat.le_of_succ_le_succ hn)]
  | @escape c e ps s rest stands later ih =>
      obtain ⟨m, rfl⟩ := Nat.exists_eq_add_of_le' (Nat.le_trans (Nat.le_add_left 1 _) hn)
      rw [readString_escape stands, ih (Nat.le_of_succ_le (Nat.le_of_succ_le_succ hn))]
  | @unit a b c d w x y z ps s rest ha hb hc hd later ih =>
      obtain ⟨m, rfl⟩ := Nat.exists_eq_add_of_le' (Nat.le_trans (Nat.le_add_left 1 _) hn)
      have hs : s.length ≤ m := by
        simp only [List.length_cons] at hn
        omega
      rw [readString, hexEscape_of_values ha hb hc hd]
      simp only [ih hs]

theorem LiteralText.length_lt {ps : List Piece} {s rest : List Symbol}
    (h : LiteralText ps s rest) : rest.length < s.length := by
  induction h with
  | closed => exact Nat.lt_succ_self _
  | plain _ _ _ _ ih => exact Nat.lt_succ_of_lt ih
  | stray _ ih => exact Nat.lt_succ_of_lt ih
  | escape _ _ ih => exact Nat.lt_succ_of_lt (Nat.lt_succ_of_lt ih)
  | unit _ _ _ _ _ ih =>
      simp only [List.length_cons]
      omega

end Rollout.Json
