import Rollout.Json.Encode
import Rollout.Proofs.Json.Flawless
import Rollout.Proofs.Json.Reading
/-!
# Writing

What the texts that are written spell, whatever stands behind them: each text, number, list and
object is written so that its tree stands for it again.
-/

namespace Rollout.Json

open Decimal Text

/-- A text that spells a tree wherever it stands. -/
def Spells (cs : List Char) (n : Node) : Prop :=
  ∀ rest, Padded n (cs.map .char ++ rest) rest

theorem Spells.of_value {cs : List Char} {n : Node}
    (h : ∀ rest, ValueText n (cs.map .char ++ rest) rest) : Spells cs n :=
  fun rest => ⟨.none, h rest, .none⟩

theorem Spells.documentText {cs : List Char} {n : Node} (h : Spells cs n) :
    DocumentText n (Symbol.ofString (String.ofList cs)) := by
  have hend := h []
  rw [List.append_nil] at hend
  rwa [Symbol.ofString, String.toList_ofList]

theorem spells_null : Spells Value.null.chars .null := .of_value fun _ => .nullWord

theorem spells_bool (b : Bool) : Spells (Value.bool b).chars (.bool b) := by
  cases b with
  | true => exact .of_value fun _ => .trueWord
  | false => exact .of_value fun _ => .falseWord

/-! ## Strings -/

/-- How a character is written in a literal. -/
def writtenPiece (c : Char) : Piece :=
  match c with
  | '"' | '\\' | '\x08' | '\x0c' | '\n' | '\r' | '\t' => .escape c
  | c => if c.toNat < 0x20 then .unit (UInt16.ofNat c.toNat) else .plain (.char c)

/-- The literal that a text is written as. -/
def literal (s : String) : Literal := ⟨s.toList.map writtenPiece, .closed⟩

theorem hexValue?_digitChar {n : Nat} (h : n < 16) :
    hexValue? (.char (Nat.digitChar n)) = some n := by
  revert n
  decide

theorem LiteralText.written {ps : List Piece} {s rest : List Symbol} (c : Char)
    (later : LiteralText ps s rest) :
    LiteralText (writtenPiece c :: ps) ((escapedChar c).map .char ++ s) rest := by
  unfold writtenPiece
  split
  case h_8 quote backslash hb hf hn hr ht =>
    rw [escapedChar.eq_8 c quote backslash hb hf hn hr ht]
    by_cases hcontrol : c.toNat < 0x20
    · have hunit := LiteralText.unit (a := .char '0') (b := .char '0') (w := 0) (x := 0) rfl rfl
        (hexValue?_digitChar (n := c.toNat / 16) (by omega))
        (hexValue?_digitChar (n := c.toNat % 16) (by omega)) later
      have hvalue : ((0 * 16 + 0) * 16 + c.toNat / 16) * 16 + c.toNat % 16 = c.toNat := by omega
      rw [hvalue] at hunit
      rw [if_pos hcontrol, if_pos hcontrol]
      exact hunit
    · rw [if_neg hcontrol, if_neg hcontrol]
      exact .plain quote backslash (Nat.not_lt.mp hcontrol) later
  all_goals exact .escape rfl later

theorem literalText_literal (s : String) (rest : List Symbol) :
    LiteralText (literal s).pieces
      ((s.toList.flatMap escapedChar).map .char ++ .char '"' :: rest) rest := by
  unfold literal
  induction s.toList with
  | nil => exact .closed
  | cons c cs ih =>
      rw [List.map_cons, List.flatMap_cons, List.map_append, List.append_assoc]
      exact ih.written c

theorem stringChars_append (s : String) (rest : List Symbol) :
    (stringChars s).map .char ++ rest =
      .char '"' :: ((s.toList.flatMap escapedChar).map .char ++ .char '"' :: rest) := by
  simp [stringChars]

theorem spells_string (s : String) : Spells (stringChars s) (.string (literal s)) := by
  refine .of_value fun rest => ?_
  rw [stringChars_append]
  exact .string (literalText_literal s rest)

theorem symbols_writtenPiece (c : Char) (ps : List Piece) :
    Literal.symbols .closed (writtenPiece c :: ps) =
      (.char c :: ·) <$> Literal.symbols .closed ps := by
  unfold writtenPiece
  split
  case h_8 =>
    split
    · rename_i hcontrol
      have hunit : (UInt16.ofNat c.toNat).toNat = c.toNat :=
        UInt16.toNat_ofNat_of_lt' (Nat.lt_trans hcontrol (by decide))
      have htrailing : isTrailing (UInt16.ofNat c.toNat) = false := by
        rw [isTrailing, hunit, Bool.and_eq_false_iff]
        exact .inl (decide_eq_false (by omega))
      have hleading : isLeading (UInt16.ofNat c.toNat) = false := by
        rw [isLeading, hunit, Bool.and_eq_false_iff]
        exact .inl (decide_eq_false (by omega))
      rw [Literal.symbols.eq_def]
      simp only [htrailing, hleading, Bool.false_eq_true, if_false, hunit, Char.ofNat_toNat]
    · rfl
  all_goals rfl

theorem text_literal (s : String) : (literal s).text = .ok s := by
  have hsymbols (cs : List Char) :
      Literal.symbols .closed (cs.map writtenPiece) = .ok (cs.map .char) := by
    induction cs with
    | nil => rfl
    | cons c cs ih =>
        rw [List.map_cons, symbols_writtenPiece, ih]
        rfl
  have hchars (cs : List Char) : charsOf? (cs.map .char) = some cs := by
    induction cs with
    | nil => rfl
    | cons c cs ih => rw [List.map_cons, charsOf?, ih]; rfl
  refine bind_eq_ok.mpr ⟨_, hsymbols s.toList, ?_⟩
  rw [hchars]
  exact congrArg _ String.ofList_toList

/-! ## Numbers -/

theorem toDigits_leading (n : Nat) (rest : List Char) (h : Nat.toDigits 10 n = '0' :: rest) :
    rest = [] := by
  induction n using Nat.strongRecOn generalizing rest with
  | ind n ih =>
      by_cases hn : n < 10
      · rw [Nat.toDigits_of_lt_base hn] at h
        exact (List.cons.inj h).2.symm
      · rw [Nat.toDigits_of_base_le (by decide) (Nat.not_lt.mp hn)] at h
        have hsome : Nat.toDigits 10 (n / 10) ≠ [] := Nat.toDigits_ne_nil
        obtain ⟨d, ds, hds⟩ := List.exists_cons_of_ne_nil hsome
        rw [hds, List.cons_append] at h
        obtain ⟨rfl, -⟩ := List.cons.inj h
        -- The digits before the last one would be a zero alone.
        have hzero := Nat.ofDigitChars_ten_toDigits (n := n / 10)
        rw [hds, ih (n / 10) (by omega) ds hds] at hzero
        change 0 = n / 10 at hzero
        omega

theorem areWhole_toDigits (n : Nat) : AreWhole (Nat.toDigits 10 n) where
  nonempty := Nat.toDigits_ne_nil
  digits _ hd := Nat.isDigit_of_mem_toDigits (by decide) (by decide) hd
  leading := toDigits_leading n

theorem le_ofDigitChars (ds : List Char) (acc : Nat) : acc ≤ Nat.ofDigitChars 10 ds acc := by
  induction ds generalizing acc with
  | nil => exact Nat.le_refl acc
  | cons d ds ih => exact Nat.le_trans (by omega) (ih (10 * acc + (d.toNat - '0'.toNat)))

theorem fitDigits_eq {ds : List Char} {acc : Nat}
    (h : Nat.ofDigitChars 10 ds acc < UInt64.size) :
    fitDigits acc ds = (Nat.ofDigitChars 10 ds acc, 0) := by
  induction ds generalizing acc with
  | nil => rfl
  | cons d ds ih =>
      have hnext : acc * 10 + (d.toNat - 48) = 10 * acc + (d.toNat - '0'.toNat) := by
        rw [Nat.mul_comm]
        rfl
      have hfits : acc * 10 + (d.toNat - 48) < UInt64.size := by
        rw [hnext]
        exact Nat.lt_of_le_of_lt (le_ofDigitChars ds _) h
      rw [fitDigits]
      simp only [if_pos hfits]
      rw [hnext]
      exact ih h

theorem fitDigits_toDigits {n : Nat} (h : n < UInt64.size) :
    fitDigits 0 (Nat.toDigits 10 n) = (n, 0) := by
  have hdigits := Nat.ofDigitChars_ten_toDigits (n := n)
  rw [fitDigits_eq (hdigits.symm ▸ h), hdigits]

/-- The numeral an integer is written as. -/
def integral (negative : Bool) (n : Nat) : Numeral := ⟨negative, Nat.toDigits 10 n, none, none⟩

theorem spells_natural (n : Nat) : Spells (Nat.toDigits 10 n) (.number (integral false n)) :=
  .of_value fun _ => .number ⟨.absent, areWhole_toDigits n, .absent, .absent⟩

theorem spells_negative (n : Nat) :
    Spells ('-' :: Nat.toDigits 10 n) (.number (integral true n)) :=
  .of_value fun _ => .number ⟨.minus, areWhole_toDigits n, .absent, .absent⟩

theorem value_natural (n : UInt64) : (integral false n.toNat).value = .ok (.natural n) := by
  unfold integral Numeral.value
  rw [fitDigits_toDigits n.toNat_lt]
  simp

theorem value_negative {n : Int64} (h : n < 0) :
    (integral true n.toInt.natAbs).value = .ok (.negative n) := by
  have hlow := n.le_toInt
  have hneg : n.toInt < 0 := Int64.lt_iff_toInt_lt.mp h
  unfold integral Numeral.value
  rw [fitDigits_toDigits (by change _ < 2 ^ 64; omega)]
  have hrange : 0 < n.toInt.natAbs ∧ n.toInt.natAbs ≤ UInt64.size / 2 := by
    change _ ∧ _ ≤ 2 ^ 64 / 2
    omega
  have habs : -(n.toInt.natAbs : Int) = n.toInt := by omega
  simp only [if_true, if_pos hrange, habs, Int64.ofInt_toInt]

theorem toList_toString_natural (n : UInt64) : (toString n).toList = Nat.toDigits 10 n.toNat :=
  Nat.toList_repr

theorem toList_toString_negative {n : Int64} (h : n < 0) :
    (toString n).toList = '-' :: Nat.toDigits 10 n.toInt.natAbs := by
  have hneg : n.toInt < 0 := Int64.lt_iff_toInt_lt.mp h
  change (Int.repr n.toInt).toList = _
  cases hn : n.toInt with
  | ofNat m => exact absurd hneg (by rw [hn]; exact Int.not_lt.mpr (Int.natCast_nonneg m))
  | negSucc m => simp [Int.repr]

/-! ## Doubles -/

/-- Reading the text of the double gives the double again. -/
def ReadsBack (x : Double) : Prop :=
  (Document.ofString (String.ofList (doubleChars x))).value = .ok (.number (.real x))

theorem Blanks.append {s t : List Symbol} (h : Blanks s t) (u : List Symbol) :
    Blanks (s ++ u) (t ++ u) := by
  induction h with
  | none => exact .none
  | more blank _ ih => exact .more blank ih

theorem FractionText.append {f : Option (List Char)} {s t : List Symbol} (h : FractionText f s t)
    (u : List Symbol) : FractionText f (s ++ u) (t ++ u) := by
  cases h with
  | absent => exact .absent
  | present digits =>
      rw [List.cons_append, List.append_assoc]
      exact .present digits

theorem ExponentText.append {e : Option (Bool × List Char)} {s t : List Symbol}
    (h : ExponentText e s t) (u : List Symbol) : ExponentText e (s ++ u) (t ++ u) := by
  cases h with
  | absent => exact .absent
  | bare mark digits =>
      rw [List.cons_append, List.append_assoc]
      exact .bare mark digits
  | plus mark digits =>
      rw [List.cons_append, List.cons_append, List.append_assoc]
      exact .plus mark digits
  | minus mark digits =>
      rw [List.cons_append, List.cons_append, List.append_assoc]
      exact .minus mark digits

theorem SignText.append {negative : Bool} {s t : List Symbol} (h : SignText negative s t)
    (u : List Symbol) : SignText negative (s ++ u) (t ++ u) := by
  cases h with
  | absent => exact .absent
  | minus => exact .minus

theorem NumberText.append {n : Numeral} {s t : List Symbol} (h : NumberText n s t)
    (u : List Symbol) : NumberText n (s ++ u) (t ++ u) := by
  obtain ⟨sign, whole, fraction, exponent⟩ := h
  have hsign := sign.append u
  rw [List.append_assoc] at hsign
  exact ⟨hsign, whole, fraction.append u, exponent.append u⟩

theorem value_of_documentText {n : Node} {cs : List Char}
    (h : DocumentText n (Symbol.ofString (String.ofList cs))) :
    (Document.ofString (String.ofList cs)).value = Value.sorted <$> n.keep depthLimit := by
  unfold Document.ofString
  rw [Document.ofSymbols_of_text h]
  unfold Document.value
  cases n.keep depthLimit <;> rfl

theorem ReadsBack.of_text {x : Double} {n : Numeral}
    (text : NumberText n ((doubleChars x).map .char) []) (value : n.value = .ok (.real x)) :
    ReadsBack x := by
  have hdocument : DocumentText (.number n) (Symbol.ofString (String.ofList (doubleChars x))) := by
    rw [Symbol.ofString, String.toList_ofList]
    exact ⟨.none, .number text, .none⟩
  rw [ReadsBack, value_of_documentText hdocument, Node.keep, value]
  rfl

theorem ReadsBack.doubleChars_eq {x : Double} (h : ReadsBack x) : doubleChars x = x.chars := by
  unfold doubleChars
  split
  · rfl
  · rename_i hinfinite
    have hnull : doubleChars x = Value.null.chars := if_neg hinfinite
    unfold ReadsBack at h
    rw [hnull, value_of_documentText spells_null.documentText] at h
    cases h

theorem Value.eq_number_of_sorted {v : Value} {x : Number} (h : v.sorted = .number x) :
    v = .number x := by
  cases v with
  | number _ => exact h
  | null | bool _ | string _ | array _ | object _ => simp [Value.sorted] at h

theorem ReadsBack.spells {x : Double} (h : ReadsBack x) :
    ∃ n : Numeral, Spells x.chars (.number n) ∧ n.value = .ok (.real x) := by
  have hread := h
  rw [ReadsBack, h.doubleChars_eq] at hread
  obtain ⟨v, hv, hend⟩ := bind_eq_ok.mp hread
  split at hend
  · cases hend
  · rename_i htrailing
    have hvalue := Value.eq_number_of_sorted (pure_eq_ok.mp hend)
    obtain ⟨n, hroot, hn⟩ := Node.eq_number_of_keep (hvalue ▸ hv)
    refine ⟨n, fun rest => ?_, hn⟩
    have hdocument : Document.ofString (String.ofList x.chars) = ⟨.number n, false⟩ := by
      cases hdoc : Document.ofString (String.ofList x.chars) with
      | mk root trailing =>
          rw [hdoc] at hroot htrailing
          cases hroot
          simpa using htrailing
    obtain ⟨before, text, after⟩ := documentText_iff.mpr ⟨hdocument, rfl⟩
    cases text with
    | number text =>
        have hbefore := before.append rest
        rw [Symbol.ofString, String.toList_ofList] at hbefore
        exact ⟨hbefore, .number (text.append rest), after.append rest⟩

/-- The text of the double is that of a number which can be read. -/
def Readable (x : Double) : Prop :=
  ∃ n : Numeral, Spells x.chars (.number n) ∧ ∃ y, n.value = .ok y

theorem ReadsBack.readable {x : Double} (h : ReadsBack x) : Readable x :=
  let ⟨n, hn, hvalue⟩ := h.spells
  ⟨n, hn, _, hvalue⟩

theorem Spells.unique {cs : List Char} {n m : Node} (hn : Spells cs n) (hm : Spells cs m) :
    n = m := by
  have hdocument := (Document.ofSymbols_of_text hn.documentText).symm.trans
    (Document.ofSymbols_of_text hm.documentText)
  exact (Document.mk.inj hdocument).1

/-! ## Lists and objects -/

theorem bracketed_append (opening closing : Char) (parts : List (List Char))
    (rest : List Symbol) : (bracketed opening closing parts).map .char ++ rest =
      .char opening :: (([','].intercalate parts).map .char ++ .char closing :: rest) := by
  simp [bracketed]

theorem itemsText_of_spells {part : List Char} {parts : List (List Char)} {item : Node}
    {items : List Node} (hitem : Spells part item) (hitems : List.Forall₂ Spells parts items)
    (rest : List Symbol) : ItemsText (item :: items)
      (([','].intercalate (part :: parts)).map .char ++ .char ']' :: rest) rest := by
  induction hitems generalizing part item with
  | nil =>
      obtain ⟨before, value, after⟩ := hitem (.char ']' :: rest)
      rw [List.intercalate_singleton]
      exact .last before value after
  | cons hnext _ ih =>
      rw [List.intercalate_cons_cons, List.append_assoc, List.map_append, List.append_assoc]
      obtain ⟨before, value, after⟩ := hitem (.char ',' :: _)
      exact .more before value after (ih hnext)

theorem Spells.array {parts : List (List Char)} {items : List Node}
    (h : List.Forall₂ Spells parts items) :
    Spells (bracketed '[' ']' parts) (.array items .closed) := by
  refine .of_value fun rest => ?_
  rw [bracketed_append]
  cases h with
  | nil => exact .emptyArray .none
  | cons hitem hitems => exact .array (itemsText_of_spells hitem hitems rest)

/-- A text that spells a member wherever it stands in an object. -/
inductive SpellsMember : List Char → Literal × Node → Prop where
  | intro (name : String) {value : List Char} {n : Node} (text : Spells value n) :
      SpellsMember (memberChars name value) (literal name, n)

theorem membersText_of_spells {part : List Char} {parts : List (List Char)} {m : Literal × Node}
    {members : List (Literal × Node)} (hm : SpellsMember part m)
    (hmembers : List.Forall₂ SpellsMember parts members) (rest : List Symbol) :
    MembersText (m :: members)
      (([','].intercalate (part :: parts)).map .char ++ .char '\x7d' :: rest) rest := by
  induction hmembers generalizing part m with
  | nil =>
      obtain ⟨name, hvalue⟩ := hm
      obtain ⟨before, text, after⟩ := hvalue (.char '\x7d' :: rest)
      rw [List.intercalate_singleton, memberChars, List.map_append, List.append_assoc,
        stringChars_append]
      exact .last .none (literalText_literal name _) .none before text after
  | cons hnext _ ih =>
      obtain ⟨name, hvalue⟩ := hm
      obtain ⟨before, text, after⟩ := hvalue (.char ',' :: _)
      rw [List.intercalate_cons_cons, List.append_assoc, List.map_append, List.append_assoc,
        memberChars, List.map_append, List.append_assoc, stringChars_append]
      exact .more .none (literalText_literal name _) .none before text after (ih hnext)

theorem Spells.object {parts : List (List Char)} {members : List (Literal × Node)}
    (h : List.Forall₂ SpellsMember parts members) :
    Spells (bracketed '\x7b' '\x7d' parts) (.object members .closed) := by
  refine .of_value fun rest => ?_
  rw [bracketed_append]
  cases h with
  | nil => exact .emptyObject .none
  | cons hm hmembers => exact .object (membersText_of_spells hm hmembers rest)

end Rollout.Json
