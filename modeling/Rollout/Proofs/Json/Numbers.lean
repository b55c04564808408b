import Rollout.Proofs.Json.Grammar
/-!
# Reading numbers

What blanks and numbers are read from. A number ends where nothing goes on with it, and a text that
starts like one and goes on otherwise is broken.
-/

namespace Rollout.Json

open Text

/-! ## Blanks -/

theorem blanks_skipSpace (s : List Symbol) : Blanks s (skipSpace s) := by
  induction s with
  | nil => exact .none
  | cons b s ih =>
      unfold skipSpace
      rw [List.dropWhile_cons]
      split
      · rename_i hb
        exact .more hb ih
      · exact .none

theorem Blanks.skipSpace_eq {s t : List Symbol} (h : Blanks s t) : skipSpace s = skipSpace t := by
  induction h with
  | none => rfl
  | more blank _ ih =>
      rw [← ih]
      exact List.dropWhile_cons_of_pos blank

theorem Blanks.trans {s t u : List Symbol} (h : Blanks s t) (h' : Blanks t u) : Blanks s u := by
  induction h with
  | none => exact h'
  | more blank _ ih => exact .more blank (ih h')

theorem Blanks.length_le {s t : List Symbol} (h : Blanks s t) : t.length ≤ s.length := by
  induction h with
  | none => exact Nat.le_refl _
  | more _ _ ih => exact Nat.le_succ_of_le ih

theorem skipSpace_cons {b : Symbol} (h : isSpace b = false) (s : List Symbol) :
    skipSpace (b :: s) = b :: s :=
  List.dropWhile_cons_of_neg (by simp [h])

theorem Blanks.skipSpace_eq_cons {s t : List Symbol} {b : Symbol} (h : Blanks s (b :: t))
    (hb : isSpace b = false) : skipSpace s = b :: t := by
  rw [h.skipSpace_eq, skipSpace_cons hb]

theorem Blanks.of_skipSpace_eq {s t : List Symbol} (h : skipSpace s = t) : Blanks s t :=
  h ▸ blanks_skipSpace s

theorem Blanks.skipSpace_eq_nil {s : List Symbol} (h : Blanks s []) : skipSpace s = [] :=
  h.skipSpace_eq

/-! ## Numbers -/

/-- Nothing at the head of a text goes on with a number. -/
def EndsNumber (s : List Symbol) : Prop :=
  ∀ c rest, s = .char c :: rest → c.isDigit = false ∧ c ≠ '.' ∧ ¬ IsExponentMark c

theorem endsNumber_nil : EndsNumber [] := nofun

theorem Blanks.endsNumber {s t : List Symbol} (h : Blanks s t) (ht : EndsNumber t) :
    EndsNumber s := by
  cases h with
  | none => exact ht
  | more blank _ =>
      rintro c rest heq
      cases heq
      unfold isSpace at blank
      split at blank <;> simp_all [IsExponentMark, Char.isDigit]

theorem takeDigits_spec (s : List Symbol) :
    s = (takeDigits s).1.map .char ++ (takeDigits s).2 ∧
      (∀ d ∈ (takeDigits s).1, d.isDigit = true) ∧
      ∀ c rest, (takeDigits s).2 = .char c :: rest → c.isDigit = false := by
  fun_induction takeDigits s with
  | case1 c rest hdigit ds rest' hrest ih =>
      rw [hrest] at ih
      obtain ⟨heq, hdigits, hend⟩ := ih
      refine ⟨by simp [← heq], ?_, hend⟩
      intro d hd
      rcases List.mem_cons.mp hd with rfl | hd
      · exact hdigit
      · exact hdigits d hd
  | case2 c rest hdigit =>
      refine ⟨rfl, nofun, ?_⟩
      intro d rest' heq
      cases heq
      simpa using hdigit
  | case3 s hs =>
      refine ⟨rfl, nofun, ?_⟩
      intro c rest heq
      exact absurd heq (hs c rest)

theorem takeDigits_append {ds : List Char} {rest : List Symbol}
    (hds : ∀ d ∈ ds, d.isDigit = true)
    (hrest : ∀ c t, rest = .char c :: t → c.isDigit = false) :
    takeDigits (ds.map .char ++ rest) = (ds, rest) := by
  induction ds with
  | nil =>
      rw [List.map_nil, List.nil_append]
      unfold takeDigits
      split
      · rename_i c t
        rw [if_neg (by simp [hrest c t rfl])]
      · rfl
  | cons d ds ih =>
      have hd := hds d List.mem_cons_self
      rw [List.map_cons, List.cons_append, takeDigits, if_pos hd,
        ih fun e he => hds e (List.mem_cons_of_mem _ he)]

/-- The sign of an exponent, if there is one, and what follows. -/
def exponentSign : List Symbol → Bool × List Symbol
  | .char '+' :: rest => (false, rest)
  | .char '-' :: rest => (true, rest)
  | rest => (false, rest)

theorem exponentSign_of_digit {c : Char} (hc : c.isDigit = true) (s : List Symbol) :
    exponentSign (.char c :: s) = (false, .char c :: s) := by
  unfold exponentSign
  split
  · rename_i heq
    cases heq
    exact absurd hc (by decide)
  · rename_i heq
    cases heq
    exact absurd hc (by decide)
  · rfl

theorem ExponentText.of_sign {c : Char} {s rest : List Symbol} {ds : List Char}
    (mark : IsExponentMark c) (digits : AreDigits ds)
    (h : (exponentSign s).2 = ds.map .char ++ rest) :
    ExponentText (some ((exponentSign s).1, ds)) (.char c :: s) rest := by
  unfold exponentSign at h ⊢
  split at h <;> simp only at h ⊢ <;> subst h
  · exact .plus mark digits
  · exact .minus mark digits
  · exact .bare mark digits

theorem readExponent_of_mark {c : Char} (mark : IsExponentMark c) (n : Numeral)
    (s : List Symbol) : readExponent n (.char c :: s) =
      let ds := takeDigits (exponentSign s).2
      if ds.1.isEmpty then (.broken (numberFlaw ds.2), none)
      else (.number { n with exponent := some ((exponentSign s).1, ds.1) }, some ds.2) := by
  unfold IsExponentMark at mark
  unfold readExponent
  simp only [if_pos mark]
  split
  · rfl
  · rfl
  · rename_i hplus hminus
    have hsign : exponentSign s = (false, s) := by
      unfold exponentSign
      split
      · exact absurd rfl (hplus _)
      · exact absurd rfl (hminus _)
      · rfl
    rw [hsign]

theorem readExponent_of_not_mark (n : Numeral) {s : List Symbol}
    (h : ∀ c rest, s = .char c :: rest → ¬ IsExponentMark c) :
    readExponent n s = (.number n, some s) := by
  unfold readExponent
  split
  · rename_i c rest
    have hc := h c rest rfl
    unfold IsExponentMark at hc
    rw [if_neg hc]
  · rfl

theorem readExponent_some {n : Numeral} {s rest : List Symbol} {node : Node}
    (hn : n.exponent = none) (h : readExponent n s = (node, some rest)) :
    ∃ e, node = .number { n with exponent := e } ∧ ExponentText e s rest := by
  by_cases hmark : ∃ c t, s = .char c :: t ∧ IsExponentMark c
  · obtain ⟨c, t, rfl, mark⟩ := hmark
    rw [readExponent_of_mark mark] at h
    have hspec := takeDigits_spec (exponentSign t).2
    simp only at h
    split at h
    · cases h
    · rename_i hsome
      cases h
      exact ⟨_, rfl, .of_sign mark ⟨by simpa using hsome, hspec.2.1⟩ hspec.1⟩
  · rw [readExponent_of_not_mark n fun c t hs mark => hmark ⟨c, t, hs, mark⟩] at h
    cases h
    exact ⟨none, by rw [← hn], .absent⟩

theorem readExponent_none {n : Numeral} {s : List Symbol} {node : Node}
    (h : readExponent n s = (node, none)) : ∃ flaw, node = .broken flaw := by
  by_cases hmark : ∃ c t, s = .char c :: t ∧ IsExponentMark c
  · obtain ⟨c, t, rfl, mark⟩ := hmark
    rw [readExponent_of_mark mark] at h
    simp only at h
    split at h <;> cases h
    exact ⟨_, rfl⟩
  · rw [readExponent_of_not_mark n fun c t hs mark => hmark ⟨c, t, hs, mark⟩] at h
    cases h

theorem readExponent_of_text {n : Numeral} {e : Option (Bool × List Char)} {s rest : List Symbol}
    (hn : n.exponent = none) (h : ExponentText e s rest) (hends : EndsNumber rest) :
    readExponent n s = (.number { n with exponent := e }, some rest) := by
  have hmarked {c : Char} {t : List Symbol} {negative : Bool} {ds : List Char}
      (mark : IsExponentMark c) (digits : AreDigits ds)
      (hsign : exponentSign t = (negative, ds.map .char ++ rest)) :
      readExponent n (.char c :: t) =
        (.number { n with exponent := some (negative, ds) }, some rest) := by
    rw [readExponent_of_mark mark, hsign]
    simp only [takeDigits_append digits.digits fun c t heq => (hends c t heq).1]
    rw [if_neg (by simpa using digits.nonempty)]
  cases h with
  | absent =>
      rw [readExponent_of_not_mark n fun c t heq => (hends c t heq).2.2, ← hn]
  | bare mark digits =>
      refine hmarked mark digits ?_
      obtain ⟨d, ds, rfl⟩ := List.exists_cons_of_ne_nil digits.nonempty
      exact exponentSign_of_digit (digits.digits d List.mem_cons_self) _
  | plus mark digits => exact hmarked mark digits rfl
  | minus mark digits => exact hmarked mark digits rfl

theorem readFraction_some {n : Numeral} {s rest : List Symbol} {node : Node}
    (hn : n.fraction = none) (hn' : n.exponent = none)
    (h : readFraction n s = (node, some rest)) :
    ∃ f e t, node = .number { n with fraction := f, exponent := e } ∧ FractionText f s t ∧
      ExponentText e t rest := by
  unfold readFraction at h
  split at h
  · rename_i u
    have hspec := takeDigits_spec u
    simp only at h
    split at h
    · cases h
    · rename_i hsome
      obtain ⟨e, hnode, htext⟩ := readExponent_some (by exact hn') h
      have hdigits : AreDigits (takeDigits u).1 := ⟨by simpa using hsome, hspec.2.1⟩
      have hfraction : FractionText (some (takeDigits u).1) (.char '.' :: u) (takeDigits u).2 := by
        have hpresent := @FractionText.present _ (takeDigits u).2 hdigits
        rwa [← hspec.1] at hpresent
      exact ⟨_, e, _, hnode, hfraction, htext⟩
  · obtain ⟨e, hnode, htext⟩ := readExponent_some hn' h
    exact ⟨none, e, s, by rw [hnode, ← hn], .absent, htext⟩

theorem readFraction_none {n : Numeral} {s : List Symbol} {node : Node}
    (h : readFraction n s = (node, none)) : ∃ flaw, node = .broken flaw := by
  unfold readFraction at h
  split at h
  · simp only at h
    split at h
    · cases h
      exact ⟨_, rfl⟩
    · exact readExponent_none h
  · exact readExponent_none h

theorem ExponentText.not_digit {e : Option (Bool × List Char)} {s rest : List Symbol}
    (h : ExponentText e s rest) (hends : EndsNumber rest) :
    ∀ c t, s = .char c :: t → c.isDigit = false ∧ c ≠ '.' := by
  have hmark {c : Char} (hc : IsExponentMark c) : c.isDigit = false ∧ c ≠ '.' := by
    rcases hc with rfl | rfl <;> decide
  cases h with
  | absent => exact fun c t heq => ⟨(hends c t heq).1, (hends c t heq).2.1⟩
  | bare mark _ => rintro c t heq; cases heq; exact hmark mark
  | plus mark _ => rintro c t heq; cases heq; exact hmark mark
  | minus mark _ => rintro c t heq; cases heq; exact hmark mark

theorem FractionText.not_digit {f : Option (List Char)} {e : Option (Bool × List Char)}
    {s t rest : List Symbol} (hf : FractionText f s t) (he : ExponentText e t rest)
    (hends : EndsNumber rest) : ∀ c u, s = .char c :: u → c.isDigit = false := by
  cases hf with
  | absent => exact fun c u heq => (he.not_digit hends c u heq).1
  | present _ => rintro c u heq; cases heq; decide

theorem readFraction_of_text {n : Numeral} {f : Option (List Char)}
    {e : Option (Bool × List Char)} {s t rest : List Symbol} (hn : n.fraction = none)
    (hn' : n.exponent = none) (hf : FractionText f s t) (he : ExponentText e t rest)
    (hends : EndsNumber rest) :
    readFraction n s = (.number { n with fraction := f, exponent := e }, some rest) := by
  have hstop := he.not_digit hends
  cases hf with
  | absent =>
      unfold readFraction
      split
      · exact absurd rfl (hstop _ _ rfl).2
      · rw [readExponent_of_text hn' he hends, ← hn]
  | @present ds _ digits =>
      unfold readFraction
      simp only [takeDigits_append digits.digits fun c u heq => (hstop c u heq).1]
      have hexponent := readExponent_of_text (n := { n with fraction := some ds }) hn' he hends
      rw [if_neg (by simpa using digits.nonempty), hexponent]

theorem readNumber_some {negative : Bool} {s rest : List Symbol} {node : Node}
    (h : readNumber negative s = (node, some rest)) :
    ∃ n t u, node = .number n ∧ n.negative = negative ∧ s = n.whole.map .char ++ t ∧
      AreWhole n.whole ∧ FractionText n.fraction t u ∧ ExponentText n.exponent u rest := by
  have hspec := takeDigits_spec s
  unfold readNumber at h
  rcases htake : takeDigits s with ⟨whole, t⟩
  rw [htake] at h hspec
  split at h
  · cases h
  · cases h
  · rename_i whole' t' hempty hzero heq
    cases heq
    obtain ⟨f, e, u, rfl, hfraction, hexponent⟩ := readFraction_some rfl rfl h
    refine ⟨_, t, u, rfl, rfl, hspec.1, ⟨⟨hempty, hspec.2.1⟩, ?_⟩, hfraction, hexponent⟩
    intro ds hds
    cases ds with
    | nil => rfl
    | cons d ds => exact absurd hds (hzero d ds)

theorem readNumber_none {negative : Bool} {s : List Symbol} {node : Node}
    (h : readNumber negative s = (node, none)) : ∃ flaw, node = .broken flaw := by
  unfold readNumber at h
  split at h
  · cases h
    exact ⟨_, rfl⟩
  · cases h
    exact ⟨_, rfl⟩
  · exact readFraction_none h

theorem readNumber_of_text {n : Numeral} {t u rest : List Symbol} (whole : AreWhole n.whole)
    (hf : FractionText n.fraction t u) (he : ExponentText n.exponent u rest)
    (hends : EndsNumber rest) :
    readNumber n.negative (n.whole.map .char ++ t) = (.number n, some rest) := by
  obtain ⟨negative, ds, f, e⟩ := n
  have htake := takeDigits_append whole.digits (hf.not_digit he hends)
  unfold readNumber
  rw [htake]
  split
  · rename_i heq
    cases heq
    exact absurd rfl whole.nonempty
  · rename_i d ds v heq
    cases heq
    exact absurd (whole.leading _ rfl) (List.cons_ne_nil _ _)
  · rename_i heq
    cases heq
    rw [readFraction_of_text rfl rfl hf he hends]

end Rollout.Json
