import Rollout.Json.Value
import Rollout.Proofs.Json.Strings
/-!
# Reading values

A text is read as the tree that it spells, and a text that spells none is read as a tree with a
flaw. So a tree without a flaw is one that was spelled, and there is no other.
-/

namespace Rollout.Json

open Text

/-! ## What is read was spelled -/

/-- What a value that was read is spelled by, or that it has a flaw. -/
def ValueRead (s : List Symbol) : Node × Rest → Prop
  | (n, some rest) => ∃ t, Blanks s t ∧ ValueText n t rest
  | (n, none) => n.skipped.isSome = true

def ItemsRead (s : List Symbol) : List Node × Ending × Rest → Prop
  | (items, ending, some rest) => ending = .closed ∧ ItemsText items s rest
  | (items, ending, none) => (skippedItems items <|> ending.skippedInArray).isSome = true

def MembersRead (s : List Symbol) : List (Literal × Node) × Ending × Rest → Prop
  | (members, ending, some rest) => ending = .closed ∧ MembersText members s rest
  | (members, ending, none) => (skippedMembers members <|> ending.skippedInObject).isSome = true

theorem readWord_some {value node : Node} {word : List Char} {s rest : List Symbol}
    (h : readWord value word s = (node, some rest)) :
    node = value ∧ s = word.map .char ++ rest := by
  induction word generalizing s with
  | nil =>
      cases h
      exact ⟨rfl, rfl⟩
  | cons c word ih =>
      cases s with
      | nil => cases h
      | cons b s =>
          unfold readWord at h
          split at h
          · rename_i hb
            obtain ⟨hnode, hs⟩ := ih h
            exact ⟨hnode, by rw [hb, hs]; rfl⟩
          · cases h

theorem readWord_none {value node : Node} {word : List Char} {s : List Symbol}
    (h : readWord value word s = (node, none)) : ∃ flaw, node = .broken flaw := by
  induction word generalizing s with
  | nil => cases h
  | cons c word ih =>
      cases s with
      | nil =>
          cases h
          exact ⟨_, rfl⟩
      | cons b s =>
          unfold readWord at h
          split at h
          · exact ih h
          · cases h
            exact ⟨_, rfl⟩

theorem readWord_read {value : Node} {word : List Char} {c : Char} {s t : List Symbol}
    (hs : Blanks s (.char c :: t))
    (hvalue : ∀ rest, ValueText value (.char c :: (word.map .char ++ rest)) rest) :
    ValueRead s (readWord value word t) := by
  rcases hread : readWord value word t with ⟨node, _ | rest⟩
  · obtain ⟨flaw, rfl⟩ := readWord_none hread
    rfl
  · obtain ⟨rfl, rfl⟩ := readWord_some hread
    exact ⟨_, hs, hvalue rest⟩

theorem readNumber_read {negative : Bool} {s t u : List Symbol} (hs : Blanks s t)
    (hsign : SignText negative t u) : ValueRead s (readNumber negative u) := by
  rcases hread : readNumber negative u with ⟨node, _ | rest⟩
  · obtain ⟨flaw, rfl⟩ := readNumber_none hread
    rfl
  · obtain ⟨n, v, w, rfl, rfl, rfl, hwhole, hfraction, hexponent⟩ := readNumber_some hread
    exact ⟨t, hs, .number ⟨hsign, hwhole, hfraction, hexponent⟩⟩

theorem ItemsText.blanks {items : List Node} {s t rest : List Symbol} (hs : Blanks s t)
    (h : ItemsText items t rest) : ItemsText items s rest := by
  cases h with
  | last before value after => exact .last (hs.trans before) value after
  | more before value after later => exact .more (hs.trans before) value after later

theorem MembersText.blanks {members : List (Literal × Node)} {s t rest : List Symbol}
    (hs : Blanks s t) (h : MembersText members t rest) : MembersText members s rest := by
  cases h with
  | last start key colon before text after =>
      exact .last (hs.trans start) key colon before text after
  | more start key colon before text after later =>
      exact .more (hs.trans start) key colon before text after later

theorem isSome_orElse_left {α : Type} {x y : Option α} (h : x.isSome = true) :
    (x <|> y).isSome = true := by
  cases x with
  | none => cases h
  | some a => rfl

theorem isSome_orElse_right {α : Type} {x y : Option α} (h : y.isSome = true) :
    (x <|> y).isSome = true := by
  cases x with
  | none => exact h
  | some a => rfl

theorem isSome_cons_items {item : Node} {items : List Node} {ending : Option SyntaxFault}
    (h : (skippedItems items <|> ending).isSome = true) :
    (skippedItems (item :: items) <|> ending).isSome = true := by
  unfold skippedItems
  cases item.skipped with
  | none => exact h
  | some _ => rfl

theorem isSome_cons_members {key : Literal} {value : Node} {members : List (Literal × Node)}
    {ending : Option SyntaxFault} (h : (skippedMembers members <|> ending).isSome = true) :
    (skippedMembers ((key, value) :: members) <|> ending).isSome = true := by
  unfold skippedMembers
  cases key.ending.fault with
  | none =>
      cases value.skipped with
      | none => exact h
      | some _ => rfl
  | some _ => rfl

section

variable {n : Nat} (values : ∀ s, ValueRead s (readValue n s))
  (lists : ∀ s, ItemsRead s (readItems n s)) (objects : ∀ s, MembersRead s (readMembers n s))

include lists objects in
theorem readValue_succ_read (s : List Symbol) : ValueRead s (readValue (n + 1) s) := by
  have hblanks := blanks_skipSpace s
  unfold readValue
  split
  · rfl
  · rfl
  · rename_i c rest hskip
    rw [hskip] at hblanks
    split
    · rename_i hc
      subst hc
      exact readWord_read hblanks fun _ => .nullWord
    split
    · rename_i hc
      subst hc
      exact readWord_read hblanks fun _ => .trueWord
    split
    · rename_i hc
      subst hc
      exact readWord_read hblanks fun _ => .falseWord
    split
    · rename_i hc
      subst hc
      exact readNumber_read hblanks .minus
    split
    · exact readNumber_read hblanks .absent
    split
    · rename_i hc
      subst hc
      have hread := readString_read (rest.length + 1) rest
      rcases hl : readString (rest.length + 1) rest with ⟨l, _ | later⟩ <;> rw [hl] at hread
      · exact hread
      · obtain ⟨ps, rfl, htext⟩ := hread
        exact ⟨_, hblanks, .string htext⟩
    split
    · rename_i hc
      subst hc
      have hinner := blanks_skipSpace rest
      split
      · rfl
      · rename_i hclosed
        rw [hclosed] at hinner
        exact ⟨_, hblanks, .emptyArray hinner⟩
      · have hread := lists (skipSpace rest)
        rcases hl : readItems n (skipSpace rest) with ⟨items, ending, _ | later⟩ <;>
          rw [hl] at hread
        · exact hread
        · obtain ⟨rfl, htext⟩ := hread
          exact ⟨_, hblanks, .array (htext.blanks hinner)⟩
    split
    · rename_i hc
      subst hc
      have hinner := blanks_skipSpace rest
      split
      · rfl
      · rename_i hclosed
        rw [hclosed] at hinner
        exact ⟨_, hblanks, .emptyObject hinner⟩
      · have hread := objects (skipSpace rest)
        rcases hl : readMembers n (skipSpace rest) with ⟨members, ending, _ | later⟩ <;>
          rw [hl] at hread
        · exact hread
        · obtain ⟨rfl, htext⟩ := hread
          exact ⟨_, hblanks, .object (htext.blanks hinner)⟩
    · rfl

include values lists in
theorem readItems_succ_read (s : List Symbol) : ItemsRead s (readItems (n + 1) s) := by
  have hvalue := values s
  unfold readItems
  rcases hv : readValue n s with ⟨item, _ | rest⟩ <;> rw [hv] at hvalue
  · exact isSome_orElse_left (isSome_orElse_left hvalue)
  · obtain ⟨t, hbefore, htext⟩ := hvalue
    have hafter := blanks_skipSpace rest
    simp only
    split
    · exact isSome_orElse_right rfl
    · rename_i hclosed
      rw [hclosed] at hafter
      exact ⟨rfl, .last hbefore htext hafter⟩
    · rename_i later hcomma
      rw [hcomma] at hafter
      have hnext := blanks_skipSpace later
      split
      · exact isSome_orElse_right rfl
      · exact isSome_orElse_right rfl
      · have hread := lists (skipSpace later)
        rcases hl : readItems n (skipSpace later) with ⟨items, ending, _ | rest⟩ <;>
          rw [hl] at hread
        · exact isSome_cons_items hread
        · obtain ⟨rfl, hitems⟩ := hread
          exact ⟨rfl, .more hbefore htext hafter (hitems.blanks hnext)⟩
    · exact isSome_orElse_right rfl

include values objects in
theorem readMembers_succ_read (s : List Symbol) : MembersRead s (readMembers (n + 1) s) := by
  unfold readMembers
  split
  · cases ‹n + 1 = 0›
  · rename_i m rest hm
    cases hm
    have hkey := readString_read (rest.length + 1) rest
    rcases hk : readString (rest.length + 1) rest with ⟨key, _ | afterKey⟩ <;> rw [hk] at hkey
    · exact isSome_orElse_left (isSome_orElse_left hkey)
    · obtain ⟨ps, rfl, hkey⟩ := hkey
      have hcolon := blanks_skipSpace afterKey
      simp only
      split
      · exact isSome_orElse_left (isSome_orElse_right rfl)
      · rename_i afterColon hc
        rw [hc] at hcolon
        have hvalue := values afterColon
        rcases hv : readValue n afterColon with ⟨value, _ | afterValue⟩ <;> rw [hv] at hvalue
        · exact isSome_orElse_left (isSome_orElse_right (isSome_orElse_left hvalue))
        · obtain ⟨t, hbefore, htext⟩ := hvalue
          have hafter := blanks_skipSpace afterValue
          simp only
          split
          · exact isSome_orElse_right rfl
          · rename_i hclosed
            rw [hclosed] at hafter
            exact ⟨rfl, .last .none hkey hcolon hbefore htext hafter⟩
          · rename_i later hcomma
            rw [hcomma] at hafter
            have hnext := blanks_skipSpace later
            split
            · exact isSome_orElse_right rfl
            · exact isSome_orElse_right rfl
            · have hread := objects (skipSpace later)
              rcases hl : readMembers n (skipSpace later) with ⟨members, ending, _ | rest⟩ <;>
                rw [hl] at hread
              · exact isSome_cons_members hread
              · obtain ⟨rfl, hmembers⟩ := hread
                exact ⟨rfl, .more .none hkey hcolon hbefore htext hafter
                  (hmembers.blanks hnext)⟩
          · exact isSome_orElse_right rfl
      · exact isSome_orElse_left (isSome_orElse_right rfl)
  · exact isSome_orElse_right rfl

end

theorem text_of_read (n : Nat) : (∀ s, ValueRead s (readValue n s)) ∧
    (∀ s, ItemsRead s (readItems n s)) ∧ ∀ s, MembersRead s (readMembers n s) := by
  -- All three at once, by the fuel: each reads its parts with one less.
  induction n with
  | zero => exact ⟨fun _ => rfl, fun _ => rfl, fun _ => rfl⟩
  | succ n ih =>
      obtain ⟨values, lists, objects⟩ := ih
      exact ⟨readValue_succ_read lists objects, readItems_succ_read values lists,
        readMembers_succ_read values objects⟩

/-! ## What is spelled is read -/

mutual

theorem ValueText.skipped_eq_none {n : Node} {s rest : List Symbol} :
    ValueText n s rest → n.skipped = none
  | .nullWord | .trueWord | .falseWord | .number _ | .string _ => rfl
  | .emptyArray _ | .emptyObject _ => rfl
  | .array h => by
      unfold Node.skipped
      rw [h.skipped_eq_none]
      rfl
  | .object h => by
      unfold Node.skipped
      rw [h.skipped_eq_none]
      rfl

theorem ItemsText.skipped_eq_none {items : List Node} {s rest : List Symbol} :
    ItemsText items s rest → skippedItems items = none
  | .last _ value _ => by
      unfold skippedItems
      rw [value.skipped_eq_none]
      rfl
  | .more _ value _ later => by
      unfold skippedItems
      rw [value.skipped_eq_none, later.skipped_eq_none]
      rfl

theorem MembersText.skipped_eq_none {members : List (Literal × Node)} {s rest : List Symbol} :
    MembersText members s rest → skippedMembers members = none
  | .last _ _ _ _ value _ => by
      unfold skippedMembers
      rw [value.skipped_eq_none]
      rfl
  | .more _ _ _ _ value _ later => by
      unfold skippedMembers
      rw [value.skipped_eq_none, later.skipped_eq_none]
      rfl

end

theorem SignText.length_le {negative : Bool} {s rest : List Symbol}
    (h : SignText negative s rest) : rest.length ≤ s.length := by
  cases h <;> simp

theorem FractionText.length_le {f : Option (List Char)} {s rest : List Symbol}
    (h : FractionText f s rest) : rest.length ≤ s.length := by
  cases h with
  | absent => exact Nat.le_refl _
  | present =>
      simp only [List.length_cons, List.length_append]
      omega

theorem ExponentText.length_le {e : Option (Bool × List Char)} {s rest : List Symbol}
    (h : ExponentText e s rest) : rest.length ≤ s.length := by
  cases h with
  | absent => exact Nat.le_refl _
  | bare | plus | minus =>
      simp only [List.length_cons, List.length_append]
      omega

theorem NumberText.length_lt {n : Numeral} {s rest : List Symbol} (h : NumberText n s rest) :
    rest.length < s.length := by
  obtain ⟨sign, whole, fraction, exponent⟩ := h
  have hwhole := List.length_pos_iff.mpr whole.nonempty
  have hsign := sign.length_le
  have hfraction := fraction.length_le
  have hexponent := exponent.length_le
  simp only [List.length_append, List.length_map] at hsign
  omega

mutual

theorem ValueText.length_lt {n : Node} {s rest : List Symbol} :
    ValueText n s rest → rest.length < s.length
  | .nullWord | .trueWord | .falseWord => by
      simp only [List.length_cons, List.length_append]
      omega
  | .number h => h.length_lt
  | .string h => Nat.lt_succ_of_lt h.length_lt
  | .emptyArray h | .emptyObject h => Nat.lt_succ_of_lt h.length_le
  | .array h => Nat.lt_succ_of_lt h.length_lt
  | .object h => Nat.lt_succ_of_lt h.length_lt

theorem ItemsText.length_lt {items : List Node} {s rest : List Symbol} :
    ItemsText items s rest → rest.length < s.length
  | .last before value after => by
      have h := before.length_le
      have h' := value.length_lt
      have h'' := after.length_le
      simp only [List.length_cons] at h''
      omega
  | .more before value after later => by
      have h := before.length_le
      have h' := value.length_lt
      have h'' := after.length_le
      have hlater := later.length_lt
      simp only [List.length_cons] at h''
      omega

theorem MembersText.length_lt {members : List (Literal × Node)} {s rest : List Symbol} :
    MembersText members s rest → rest.length < s.length
  | .last start key colon before value after => by
      have h := start.length_le
      have hkey := key.length_lt
      have hcolon := colon.length_le
      have hbefore := before.length_le
      have hvalue := value.length_lt
      have hafter := after.length_le
      simp only [List.length_cons] at h hcolon hafter
      omega
  | .more start key colon before value after later => by
      have h := start.length_le
      have hkey := key.length_lt
      have hcolon := colon.length_le
      have hbefore := before.length_le
      have hvalue := value.length_lt
      have hafter := after.length_le
      have hlater := later.length_lt
      simp only [List.length_cons] at h hcolon hafter
      omega

end

theorem endsNumber_cons {c : Char} (digit : c.isDigit = false) (point : c ≠ '.')
    (mark : ¬ IsExponentMark c) (s : List Symbol) : EndsNumber (.char c :: s) := by
  rintro d rest heq
  cases heq
  exact ⟨digit, point, mark⟩

theorem endsNumber_of_separator {c : Char} (h : c ∈ [',', ']', '\x7d']) (s : List Symbol) :
    EndsNumber (.char c :: s) := by
  simp only [List.mem_cons, List.not_mem_nil, or_false] at h
  rcases h with rfl | rfl | rfl <;>
    exact endsNumber_cons (by decide) (by decide) (by unfold IsExponentMark; decide) s

theorem readWord_append (value : Node) (word : List Char) (rest : List Symbol) :
    readWord value word (word.map .char ++ rest) = (value, some rest) := by
  induction word with
  | nil => rfl
  | cons c word ih =>
      rw [List.map_cons, List.cons_append, readWord, if_pos rfl, ih]

theorem readValue_blanks {s t : List Symbol} (h : Blanks s t) (n : Nat) :
    readValue n s = readValue n t := by
  cases n with
  | zero => rfl
  | succ n => rw [readValue, readValue, h.skipSpace_eq]

theorem isSpace_of_isDigit {c : Char} (hc : c.isDigit = true) : isSpace (.char c) = false := by
  unfold isSpace
  split
  all_goals first
    | rfl
    | (rename_i heq; cases heq; exact absurd hc (by decide))

theorem readValue_number {n : Numeral} {s rest : List Symbol} (h : NumberText n s rest)
    (hends : EndsNumber rest) (m : Nat) : readValue (m + 1) s = (.number n, some rest) := by
  obtain ⟨sign, whole, fraction, exponent⟩ := h
  have hread := readNumber_of_text whole fraction exponent hends
  obtain ⟨negative, ds, f, e⟩ := n
  simp only at sign whole hread ⊢
  cases sign with
  | minus =>
      rw [readValue, skipSpace_cons rfl]
      simp [hread]
  | absent =>
      obtain ⟨d, ds, rfl⟩ := List.exists_cons_of_ne_nil whole.nonempty
      have hdigit := whole.digits d List.mem_cons_self
      have hother {c : Char} (hc : c.isDigit = false) : d ≠ c := by
        rintro rfl
        rw [hdigit] at hc
        cases hc
      rw [List.map_cons, List.cons_append] at hread ⊢
      rw [readValue, skipSpace_cons (isSpace_of_isDigit hdigit)]
      simp only [if_neg (hother (c := 'n') rfl), if_neg (hother (c := 't') rfl),
        if_neg (hother (c := 'f') rfl), if_neg (hother (c := '-') rfl), if_pos hdigit, hread]

theorem ValueText.skipSpace_eq {n : Node} {s rest : List Symbol} (h : ValueText n s rest) :
    skipSpace s = s ∧ ∃ c t, s = .char c :: t ∧ c ≠ ']' := by
  cases h with
  | number h =>
      obtain ⟨sign, whole, -, -⟩ := h
      rename_i n t u
      generalize n.negative = negative at sign
      cases sign with
      | minus => exact ⟨rfl, _, _, rfl, by decide⟩
      | absent =>
          obtain ⟨d, ds, hds⟩ := List.exists_cons_of_ne_nil whole.nonempty
          have hdigit := whole.digits d (hds ▸ List.mem_cons_self)
          rw [hds]
          refine ⟨skipSpace_cons (isSpace_of_isDigit hdigit) _, d, _, rfl, ?_⟩
          rintro rfl
          cases hdigit
  | nullWord | trueWord | falseWord | string | emptyArray | array | emptyObject | object =>
      exact ⟨rfl, _, _, rfl, by decide⟩

theorem ItemsText.skipSpace_eq {items : List Node} {s rest : List Symbol}
    (h : ItemsText items s rest) : ∃ c t, skipSpace s = .char c :: t ∧ c ≠ ']' := by
  cases h with
  | last before value _ | more before value _ _ =>
      obtain ⟨hskip, c, t, rfl, hc⟩ := value.skipSpace_eq
      exact ⟨c, t, by rw [before.skipSpace_eq, hskip], hc⟩

theorem MembersText.skipSpace_eq {members : List (Literal × Node)} {s rest : List Symbol}
    (h : MembersText members s rest) : ∃ t, skipSpace s = .char '"' :: t := by
  cases h with
  | last start _ _ _ _ _ | more start _ _ _ _ _ _ => exact ⟨_, start.skipSpace_eq_cons rfl⟩

section

variable {s t rest : List Symbol} (n : Nat)

theorem readValue_emptyArray (h : skipSpace s = .char ']' :: rest) :
    readValue (n + 1) (.char '[' :: s) = (.array [] .closed, some rest) := by
  rw [readValue, skipSpace_cons rfl]
  simp only [Char.reduceEq, if_false, if_true, h]
  rfl

theorem readValue_emptyObject (h : skipSpace s = .char '\x7d' :: rest) :
    readValue (n + 1) (.char '\x7b' :: s) = (.object [] .closed, some rest) := by
  rw [readValue, skipSpace_cons rfl]
  simp only [Char.reduceEq, if_false, if_true, h]
  rfl

theorem readValue_array {c : Char} (h : skipSpace s = .char c :: t) (hc : c ≠ ']') :
    readValue (n + 1) (.char '[' :: s) =
      (.array (readItems n (skipSpace s)).1 (readItems n (skipSpace s)).2.1,
        (readItems n (skipSpace s)).2.2) := by
  rw [readValue, skipSpace_cons rfl]
  have hdigit : '['.isDigit = false := rfl
  simp only [Char.reduceEq, if_false, if_true, hdigit, Bool.false_eq_true, h]
  split
  · rename_i heq
    cases heq
  · rename_i heq
    cases heq
    exact absurd rfl hc
  · rfl

theorem readValue_object (h : skipSpace s = .char '"' :: t) :
    readValue (n + 1) (.char '\x7b' :: s) =
      (.object (readMembers n (skipSpace s)).1 (readMembers n (skipSpace s)).2.1,
        (readMembers n (skipSpace s)).2.2) := by
  rw [readValue, skipSpace_cons rfl]
  simp only [Char.reduceEq, if_false, if_true, h]
  rfl

theorem readItems_last {item : Node} {u : List Symbol} (hitem : readValue n s = (item, some t))
    (h : skipSpace t = .char ']' :: u) : readItems (n + 1) s = ([item], .closed, some u) := by
  rw [readItems, hitem]
  simp only [h]

theorem readItems_more {item : Node} {u v : List Symbol} {c : Char}
    (hitem : readValue n s = (item, some t)) (h : skipSpace t = .char ',' :: u)
    (hnext : skipSpace u = .char c :: v) (hc : c ≠ ']') : readItems (n + 1) s =
      (item :: (readItems n (skipSpace u)).1, (readItems n (skipSpace u)).2) := by
  rw [readItems, hitem]
  simp only [h, hnext]
  split
  · rename_i heq
    cases heq
  · rename_i heq
    cases heq
    exact absurd rfl hc
  · rfl

end

/-! A key and its value, as members start. -/

section

variable {k l t u v w : List Symbol} {ps : List Piece} {value : Node} (n : Nat)
  (key : LiteralText ps k l) (colon : Blanks l (.char ':' :: t))
  (hvalue : readValue n t = (value, some u))
include key colon hvalue

theorem readMembers_last (h : skipSpace u = .char '\x7d' :: v) :
    readMembers (n + 1) (.char '"' :: k) = ([(⟨ps, .closed⟩, value)], .closed, some v) := by
  rw [readMembers, readString_of_text key (Nat.le_succ _)]
  simp only [colon.skipSpace_eq_cons (b := .char ':') rfl, hvalue, h]

theorem readMembers_more (h : skipSpace u = .char ',' :: v)
    (hnext : skipSpace v = .char '"' :: w) :
    readMembers (n + 1) (.char '"' :: k) =
      ((⟨ps, .closed⟩, value) :: (readMembers n (skipSpace v)).1,
        (readMembers n (skipSpace v)).2) := by
  rw [readMembers, readString_of_text key (Nat.le_succ _)]
  simp only [colon.skipSpace_eq_cons (b := .char ':') rfl, hvalue, h, hnext]
  rfl

end

mutual

theorem readValue_of_text {n : Node} {s rest : List Symbol} {m : Nat} :
    ValueText n s rest → EndsNumber rest → 2 * s.length ≤ m + 2 * rest.length →
    readValue m s = (n, some rest)
  | .number h, hends, hm => by
      have hlt := h.length_lt
      obtain ⟨k, rfl⟩ : ∃ k, m = k + 1 := ⟨m - 1, by omega⟩
      exact readValue_number h hends k
  | .nullWord, _, hm | .trueWord, _, hm | .falseWord, _, hm => by
      simp only [List.length_cons, List.length_append] at hm
      obtain ⟨k, rfl⟩ : ∃ k, m = k + 1 := ⟨m - 1, by omega⟩
      rw [readValue, skipSpace_cons rfl]
      exact readWord_append _ _ _
  | @ValueText.string _ s _ h, _, hm => by
      have hlt := h.length_lt
      simp only [List.length_cons] at hm
      obtain ⟨k, rfl⟩ : ∃ k, m = k + 1 := ⟨m - 1, by omega⟩
      rw [readValue, skipSpace_cons rfl]
      simp [readString_of_text h (Nat.le_succ s.length)]
  | .emptyArray h, _, hm => by
      have hle := h.length_le
      simp only [List.length_cons] at hm hle
      obtain ⟨k, rfl⟩ : ∃ k, m = k + 1 := ⟨m - 1, by omega⟩
      exact readValue_emptyArray k (h.skipSpace_eq_cons rfl)
  | .emptyObject h, _, hm => by
      have hle := h.length_le
      simp only [List.length_cons] at hm hle
      obtain ⟨k, rfl⟩ : ∃ k, m = k + 1 := ⟨m - 1, by omega⟩
      exact readValue_emptyObject k (h.skipSpace_eq_cons rfl)
  | .array h, _, hm => by
      have hlt := h.length_lt
      simp only [List.length_cons] at hm
      obtain ⟨k, rfl⟩ : ∃ k, m = k + 1 := ⟨m - 1, by omega⟩
      obtain ⟨c, t, hskip, hc⟩ := h.skipSpace_eq
      rw [readValue_array k hskip hc, readItems_of_text h (by omega)]
  | .object h, _, hm => by
      have hlt := h.length_lt
      simp only [List.length_cons] at hm
      obtain ⟨k, rfl⟩ : ∃ k, m = k + 1 := ⟨m - 1, by omega⟩
      obtain ⟨t, hskip⟩ := h.skipSpace_eq
      rw [readValue_object k hskip, readMembers_of_text h (by omega)]

theorem readItems_of_text {items : List Node} {s rest : List Symbol} {m : Nat} :
    ItemsText items s rest → 2 * s.length < m + 2 * rest.length →
    readItems m (skipSpace s) = (items, .closed, some rest)
  | .last before value after, hm => by
      have hbefore := before.length_le
      have hvalue := value.length_lt
      have hafter := after.length_le
      simp only [List.length_cons] at hafter
      obtain ⟨k, rfl⟩ : ∃ k, m = k + 1 := ⟨m - 1, by omega⟩
      have hends := after.endsNumber (endsNumber_of_separator (by decide) rest)
      have hread := readValue_of_text value hends (m := k) (by omega)
      rw [← readValue_blanks before, readValue_blanks (blanks_skipSpace _)] at hread
      exact readItems_last k hread (after.skipSpace_eq_cons rfl)
  | @ItemsText.more _ _ _ _ _ v _ before value after later, hm => by
      have hbefore := before.length_le
      have hvalue := value.length_lt
      have hafter := after.length_le
      have hlater := later.length_lt
      simp only [List.length_cons] at hafter
      obtain ⟨k, rfl⟩ : ∃ k, m = k + 1 := ⟨m - 1, by omega⟩
      have hends := after.endsNumber (endsNumber_of_separator (by decide) v)
      have hread := readValue_of_text value hends (m := k) (by omega)
      rw [← readValue_blanks before, readValue_blanks (blanks_skipSpace _)] at hread
      obtain ⟨c, t, hskip, hc⟩ := later.skipSpace_eq
      rw [readItems_more k hread (after.skipSpace_eq_cons rfl) hskip hc,
        readItems_of_text later (by omega)]

theorem readMembers_of_text {members : List (Literal × Node)} {s rest : List Symbol} {m : Nat} :
    MembersText members s rest → 2 * s.length < m + 2 * rest.length →
    readMembers m (skipSpace s) = (members, .closed, some rest)
  | .last start key colon before value after, hm => by
      have hstart := start.length_le
      have hkey := key.length_lt
      have hcolon := colon.length_le
      have hbefore := before.length_le
      have hvalue := value.length_lt
      have hafter := after.length_le
      simp only [List.length_cons] at hstart hcolon hafter
      obtain ⟨k, rfl⟩ : ∃ k, m = k + 1 := ⟨m - 1, by omega⟩
      have hends := after.endsNumber (endsNumber_of_separator (by decide) rest)
      have hread := readValue_of_text value hends (m := k) (by omega)
      rw [← readValue_blanks before] at hread
      rw [start.skipSpace_eq_cons rfl]
      exact readMembers_last k key colon hread (after.skipSpace_eq_cons rfl)
  | @MembersText.more _ _ _ _ _ _ _ _ _ w _ start key colon before value after later, hm => by
      have hstart := start.length_le
      have hkey := key.length_lt
      have hcolon := colon.length_le
      have hbefore := before.length_le
      have hvalue := value.length_lt
      have hafter := after.length_le
      have hlater := later.length_lt
      simp only [List.length_cons] at hstart hcolon hafter
      obtain ⟨k, rfl⟩ : ∃ k, m = k + 1 := ⟨m - 1, by omega⟩
      have hends := after.endsNumber (endsNumber_of_separator (by decide) w)
      have hread := readValue_of_text value hends (m := k) (by omega)
      rw [← readValue_blanks before] at hread
      obtain ⟨t, hskip⟩ := later.skipSpace_eq
      rw [start.skipSpace_eq_cons rfl,
        readMembers_more k key colon hread (after.skipSpace_eq_cons rfl) hskip,
        readMembers_of_text later (by omega)]

end

/-! ## Whole texts -/

theorem Document.ofSymbols_of_text {n : Node} {s : List Symbol} (h : DocumentText n s) :
    Document.ofSymbols s = ⟨n, false⟩ := by
  obtain ⟨before, value, after⟩ := h
  have hbefore := before.length_le
  have hread := readValue_of_text value (after.endsNumber endsNumber_nil) (m := 2 * s.length + 2)
    (by omega)
  rw [← readValue_blanks before] at hread
  unfold Document.ofSymbols
  rw [hread]
  simp [after.skipSpace_eq_nil]

/-- A text spells a tree if and only if it is read as that tree, the tree has no flaw, and nothing
follows it. -/
theorem documentText_iff {n : Node} {s : List Symbol} :
    DocumentText n s ↔ Document.ofSymbols s = ⟨n, false⟩ ∧ n.skipped = none := by
  constructor
  · intro h
    refine ⟨Document.ofSymbols_of_text h, ?_⟩
    obtain ⟨-, value, -⟩ := h
    exact value.skipped_eq_none
  · rintro ⟨hread, hskipped⟩
    have hvalue := (text_of_read (2 * s.length + 2)).1 s
    unfold Document.ofSymbols at hread
    rcases hr : readValue (2 * s.length + 2) s with ⟨node, _ | rest⟩ <;> rw [hr] at hvalue hread
    · cases hread
      change n.skipped.isSome = true at hvalue
      rw [hskipped] at hvalue
      cases hvalue
    · obtain ⟨t, hbefore, htext⟩ := hvalue
      simp only [Document.mk.injEq, Bool.not_eq_false', List.isEmpty_iff] at hread
      obtain ⟨rfl, hend⟩ := hread
      exact ⟨hbefore, htext, .of_skipSpace_eq hend⟩

end Rollout.Json
