import Rollout.Proofs.Json.Writing
/-!
# Values of any kind

What is kept of a text is a value, and the value is written so that it is kept again: with its keys
in order, its negative numbers below zero, and no more brackets than a text may nest.
-/

namespace Rollout.Json

open Decimal

mutual

/-- The doubles in a value. -/
def Value.doubles : Value → List Double
  | .number (.real x) => [x]
  | .array items => doublesOfItems items
  | .object members => doublesOfMembers members
  | _ => []

def doublesOfItems : List Value → List Double
  | [] => []
  | item :: items => item.doubles ++ doublesOfItems items

def doublesOfMembers : List (String × Value) → List Double
  | [] => []
  | (_, value) :: members => value.doubles ++ doublesOfMembers members

end

/-- A value in the form in which values are held, of at most so many levels of brackets. -/
inductive Value.Within : Nat → Value → Prop where
  | null {levels : Nat} : Within levels .null
  | bool {levels : Nat} (b : Bool) : Within levels (.bool b)
  | natural {levels : Nat} (n : UInt64) : Within levels (.number (.natural n))
  | negative {levels : Nat} {n : Int64} (below : n < 0) : Within levels (.number (.negative n))
  | real {levels : Nat} (x : Double) : Within levels (.number (.real x))
  | string {levels : Nat} (s : String) : Within levels (.string s)
  | array {levels : Nat} {items : List Value} (each : ∀ item ∈ items, Within levels item) :
      Within (levels + 1) (.array items)
  | object {levels : Nat} {members : List (String × Value)} (order : InKeyOrder members)
      (each : ∀ m ∈ members, Within levels m.2) : Within (levels + 1) (.object members)

/-! ## Keys in order -/

section

variable {α : Type}

theorem insertEntry_before {key : String} {value : α} {entries : List (String × α)}
    (h : ∀ e ∈ entries, key < e.1) :
    insertEntry key value entries = (key, value) :: entries := by
  cases entries with
  | nil => rfl
  | cons e entries =>
      obtain ⟨k, v⟩ := e
      rw [insertEntry, if_pos (h (k, v) List.mem_cons_self)]

theorem insertEntry_behind {key : String} {value : α} {entries : List (String × α)}
    (h : ∀ e ∈ entries, e.1 < key) :
    insertEntry key value entries = entries ++ [(key, value)] := by
  induction entries with
  | nil => rfl
  | cons e entries ih =>
      obtain ⟨k, v⟩ := e
      have hk : k < key := h (k, v) List.mem_cons_self
      have hne : key ≠ k := fun heq => String.lt_irrefl k (heq ▸ hk)
      rw [insertEntry, if_neg (String.lt_asymm hk), if_neg hne,
        ih fun e he => h e (List.mem_cons_of_mem _ he)]
      rfl

theorem lookup_eq_none_of_lt {key : String} {entries : List (String × α)}
    (h : ∀ e ∈ entries, key < e.1) : entries.lookup key = none := by
  induction entries with
  | nil => rfl
  | cons e entries ih =>
      obtain ⟨k, v⟩ := e
      have hne : key ≠ k := fun heq => String.lt_irrefl k (heq ▸ h (k, v) List.mem_cons_self)
      rw [lookup_cons_of_ne hne, ih fun e he => h e (List.mem_cons_of_mem _ he)]

end

theorem sortedItems_eq {items : List Value} (h : ∀ item ∈ items, item.sorted = item) :
    sortedItems items = items := by
  induction items with
  | nil => rfl
  | cons item items ih =>
      obtain ⟨hitem, hitems⟩ := List.forall_mem_cons.mp h
      rw [sortedItems, hitem, ih hitems]

theorem sortedMembers_eq {members : List (String × Value)} (order : InKeyOrder members)
    (h : ∀ m ∈ members, m.2.sorted = m.2) : (sortedMembers members).entries = members := by
  induction members with
  | nil => rfl
  | cons m members ih =>
      obtain ⟨key, value⟩ := m
      obtain ⟨hvalue, hmembers⟩ := List.forall_mem_cons.mp h
      obtain ⟨hfirst, hlater⟩ := List.pairwise_cons.mp order
      have hentries := ih hlater hmembers
      have hlookup : (sortedMembers members).get? key = none := by
        rw [Dict.get?, hentries]
        exact lookup_eq_none_of_lt hfirst
      rw [sortedMembers]
      simp only [hlookup, Option.isSome_none, Bool.false_eq_true, if_false, Dict.insert, hentries]
      rw [hvalue, insertEntry_before hfirst]

theorem Value.Within.sorted_eq {levels : Nat} {v : Value} (h : v.Within levels) :
    v.sorted = v := by
  induction h with
  | null | bool | natural | negative | real | string => rfl
  | array _ ih => rw [Value.sorted, sortedItems_eq ih]
  | object order _ ih => rw [Value.sorted, sortedMembers_eq order ih]

/-! ## Written values are kept -/

theorem enter_of_lt {levels depth : Nat} (h : levels + 1 < depth) :
    ∃ inner, enter depth = .ok inner ∧ levels < inner := by
  obtain ⟨inner, rfl⟩ : ∃ inner, depth = inner + 1 := ⟨depth - 1, by omega⟩
  exact ⟨inner, enter_eq_ok.mpr ⟨rfl, by omega⟩, by omega⟩

theorem keepItems_of_spells {P : Value → Value → Prop} {depth : Nat} {items : List Value}
    (h : ∀ item ∈ items, ∃ n v, Spells item.chars n ∧ n.keep depth = .ok v ∧ P item v) :
    ∃ ns vs, List.Forall₂ Spells (itemChars items) ns ∧ keepItems depth ns = .ok vs ∧
      List.Forall₂ P items vs := by
  induction items with
  | nil => exact ⟨[], [], .nil, rfl, .nil⟩
  | cons item items ih =>
      obtain ⟨⟨n, v, hn, hkeep, hv⟩, hitems⟩ := List.forall_mem_cons.mp h
      obtain ⟨ns, vs, hns, hlater, hvs⟩ := ih hitems
      exact ⟨n :: ns, v :: vs, .cons hn hns,
        keepItems_eq_ok.mpr (.cons hkeep (keepItems_eq_ok.mp hlater)), .cons hv hvs⟩

theorem keepMembers_of_spells {P : Value → Value → Prop} {depth : Nat}
    {members : List (String × Value)}
    (h : ∀ m ∈ members, ∃ n v, Spells m.2.chars n ∧ n.keep depth = .ok v ∧ P m.2 v) :
    ∃ ns vs, List.Forall₂ SpellsMember (objectChars members) ns ∧
      keepMembers depth ns = .ok vs ∧
      List.Forall₂ (fun m v => v.1 = m.1 ∧ P m.2 v.2) members vs := by
  induction members with
  | nil => exact ⟨[], [], .nil, rfl, .nil⟩
  | cons m members ih =>
      obtain ⟨key, value⟩ := m
      obtain ⟨⟨n, v, hn, hkeep, hv⟩, hmembers⟩ := List.forall_mem_cons.mp h
      obtain ⟨ns, vs, hns, hlater, hvs⟩ := ih hmembers
      exact ⟨(literal key, n) :: ns, (key, v) :: vs, .cons (.intro key hn) hns,
        keepMembers_eq_ok.mpr (.cons ⟨text_literal key, hkeep⟩ (keepMembers_eq_ok.mp hlater)),
        .cons ⟨rfl, hv⟩ hvs⟩

section

variable {P : Double → Prop}

theorem forall_doublesOfItems {items : List Value} (h : ∀ x ∈ doublesOfItems items, P x) :
    ∀ item ∈ items, ∀ x ∈ item.doubles, P x := by
  induction items with
  | nil => exact nofun
  | cons item items ih =>
      rw [doublesOfItems, List.forall_mem_append] at h
      exact List.forall_mem_cons.mpr ⟨h.1, ih h.2⟩

theorem forall_doublesOfMembers {members : List (String × Value)}
    (h : ∀ x ∈ doublesOfMembers members, P x) :
    ∀ m ∈ members, ∀ x ∈ m.2.doubles, P x := by
  induction members with
  | nil => exact nofun
  | cons m members ih =>
      obtain ⟨key, value⟩ := m
      rw [doublesOfMembers, List.forall_mem_append] at h
      exact List.forall_mem_cons.mpr ⟨h.1, ih h.2⟩

end

/-- What is kept of a value that was written is the value, unless a double is read as another
number. -/
def Value.Survives (v w : Value) : Prop := (∀ x ∈ v.doubles, ReadsBack x) → w = v

theorem Value.Survives.array {items vs : List Value} (h : List.Forall₂ Value.Survives items vs) :
    Value.Survives (.array items) (.array vs) := by
  intro hdoubles
  have hitems := forall_doublesOfItems hdoubles
  clear hdoubles
  induction h with
  | nil => rfl
  | cons first _ ih =>
      obtain ⟨hfirst, hlater⟩ := List.forall_mem_cons.mp hitems
      rw [first hfirst, Value.array.inj (ih hlater)]

theorem Value.Survives.object {members vs : List (String × Value)}
    (h : List.Forall₂ (fun m v => v.1 = m.1 ∧ Value.Survives m.2 v.2) members vs) :
    Value.Survives (.object members) (.object vs) := by
  intro hdoubles
  have hmembers := forall_doublesOfMembers hdoubles
  clear hdoubles
  induction h with
  | nil => rfl
  | @cons m v _ _ first _ ih =>
      obtain ⟨hfirst, hlater⟩ := List.forall_mem_cons.mp hmembers
      have hmember : v = m := Prod.ext first.1 (first.2 hfirst)
      rw [hmember, Value.object.inj (ih hlater)]

/-- A written value spells a tree of which a value is kept, and it is that value if its doubles are
read again. -/
theorem Value.Within.spells_of_readable {levels : Nat} {v : Value} (h : v.Within levels)
    (hdoubles : ∀ x ∈ v.doubles, Readable x) {depth : Nat} (hdepth : levels < depth) :
    ∃ n w, Spells v.chars n ∧ n.keep depth = .ok w ∧ v.Survives w := by
  -- By the nesting of the value. Each bracket takes one off the depth that is left for its parts.
  induction h generalizing depth with
  | null => exact ⟨_, _, spells_null, rfl, fun _ => rfl⟩
  | bool b => exact ⟨_, _, spells_bool b, rfl, fun _ => rfl⟩
  | natural n =>
      refine ⟨_, _, ?_, keep_number.mpr ⟨_, value_natural n, rfl⟩, fun _ => rfl⟩
      rw [Value.chars, Number.text, toList_toString_natural]
      exact spells_natural n.toNat
  | negative below =>
      refine ⟨_, _, ?_, keep_number.mpr ⟨_, value_negative below, rfl⟩, fun _ => rfl⟩
      rw [Value.chars, Number.text, toList_toString_negative below]
      exact spells_negative _
  | real x =>
      obtain ⟨n, hn, y, hy⟩ := hdoubles x List.mem_cons_self
      refine ⟨_, _, hn, keep_number.mpr ⟨_, hy, rfl⟩, fun hback => ?_⟩
      obtain ⟨m, hm, hx⟩ := (hback x List.mem_cons_self).spells
      obtain rfl := Node.number.inj (hn.unique hm)
      rw [ok_unique hy hx]
  | string s =>
      exact ⟨_, _, spells_string s, keep_string.mpr ⟨s, text_literal s, rfl⟩, fun _ => rfl⟩
  | array _ ih =>
      obtain ⟨inner, hinner, hlevels⟩ := enter_of_lt hdepth
      obtain ⟨ns, vs, hns, hkeep, hvs⟩ := keepItems_of_spells fun item hitem =>
        ih item hitem (forall_doublesOfItems hdoubles item hitem) hlevels
      exact ⟨_, _, .array hns, keep_array.mpr ⟨inner, _, hinner, hkeep, rfl, rfl⟩,
        .array hvs⟩
  | object _ _ ih =>
      obtain ⟨inner, hinner, hlevels⟩ := enter_of_lt hdepth
      obtain ⟨ns, vs, hns, hkeep, hvs⟩ := keepMembers_of_spells fun m hm =>
        ih m hm (forall_doublesOfMembers hdoubles m hm) hlevels
      exact ⟨_, _, .object hns, keep_object.mpr ⟨inner, _, hinner, hkeep, rfl, rfl⟩,
        .object hvs⟩

theorem Value.Within.spells {levels : Nat} {v : Value} (h : v.Within levels)
    (hdoubles : ∀ x ∈ v.doubles, ReadsBack x) {depth : Nat} (hdepth : levels < depth) :
    ∃ n, Spells v.chars n ∧ n.keep depth = .ok v := by
  obtain ⟨n, w, hn, hkeep, hsurvives⟩ :=
    h.spells_of_readable (fun x hx => (hdoubles x hx).readable) hdepth
  obtain rfl := hsurvives hdoubles
  exact ⟨n, hn, hkeep⟩

/-! ## Kept values are in the form in which values are held -/

theorem Numeral.negative_of_value {n : Numeral} {m : Int64} (h : n.value = .ok (.negative m)) :
    m < 0 := by
  unfold Numeral.value at h
  split at h
  · split at h
    · split at h
      · rename_i hrange
        cases h
        have hhigh : UInt64.size / 2 = 2 ^ 63 := by decide
        rw [Int64.lt_iff_toInt_lt, Int64.toInt_ofInt_of_le (by omega) (by omega)]
        exact Int.neg_neg_of_pos (by omega)
      · cases h
    · cases h
  · unfold Numeral.real at h
    simp only at h
    split at h <;> cases h

theorem Value.Within.of_sortedItems {levels : Nat} {items : List Value}
    (h : ∀ item ∈ items, item.sorted.Within levels) :
    ∀ item ∈ sortedItems items, item.Within levels := by
  induction items with
  | nil => exact nofun
  | cons item items ih =>
      obtain ⟨hitem, hitems⟩ := List.forall_mem_cons.mp h
      exact List.forall_mem_cons.mpr ⟨hitem, ih hitems⟩

theorem Value.Within.of_sortedMembers {levels : Nat} {members : List (String × Value)}
    (h : ∀ m ∈ members, m.2.sorted.Within levels) :
    ∀ m ∈ (sortedMembers members).entries, m.2.Within levels := by
  induction members with
  | nil => exact nofun
  | cons m members ih =>
      obtain ⟨key, value⟩ := m
      obtain ⟨hvalue, hmembers⟩ := List.forall_mem_cons.mp h
      rw [sortedMembers]
      split
      · exact ih hmembers
      · intro m hm
        rcases mem_insertEntry hm with rfl | hm
        · exact hvalue
        · exact ih hmembers m hm

mutual

theorem Value.Within.of_keep {depth : Nat} {v : Value} :
    (n : Node) → n.keep depth = .ok v → v.sorted.Within (depth - 1)
  | .null, h => by
      cases h
      exact .null
  | .bool b, h => by
      cases h
      exact .bool b
  | .number n, h => by
      obtain ⟨x, hx, rfl⟩ := keep_number.mp h
      cases x with
      | natural n => exact .natural n
      | negative n => exact .negative (Numeral.negative_of_value hx)
      | real x => exact .real x
  | .string l, h => by
      obtain ⟨s, -, rfl⟩ := keep_string.mp h
      exact .string s
  | .array items ending, h => by
      obtain ⟨inner, vs, hinner, hvs, -, rfl⟩ := keep_array.mp h
      obtain ⟨rfl, hpos⟩ := enter_eq_ok.mp hinner
      obtain ⟨levels, rfl⟩ := Nat.exists_eq_add_of_le' hpos
      exact .array (.of_sortedItems (within_of_keepItems items hvs))
  | .object members ending, h => by
      obtain ⟨inner, vs, hinner, hvs, -, rfl⟩ := keep_object.mp h
      obtain ⟨rfl, hpos⟩ := enter_eq_ok.mp hinner
      obtain ⟨levels, rfl⟩ := Nat.exists_eq_add_of_le' hpos
      have hmembers := within_of_keepMembers members hvs
      exact .object (sortedMembers vs).ordered (.of_sortedMembers hmembers)
  | .broken _, h => nomatch h

theorem within_of_keepItems {depth : Nat} {vs : List Value} :
    (items : List Node) → keepItems depth items = .ok vs →
      ∀ v ∈ vs, v.sorted.Within (depth - 1)
  | [], h => by
      cases h
      exact nofun
  | item :: items, h => by
      simp only [keepItems, bind_eq_ok, pure_eq_ok] at h
      obtain ⟨v, hv, later, hlater, rfl⟩ := h
      exact List.forall_mem_cons.mpr ⟨.of_keep item hv, within_of_keepItems items hlater⟩

theorem within_of_keepMembers {depth : Nat} {vs : List (String × Value)} :
    (members : List (Literal × Node)) → keepMembers depth members = .ok vs →
      ∀ m ∈ vs, m.2.sorted.Within (depth - 1)
  | [], h => by
      cases h
      exact nofun
  | (key, value) :: members, h => by
      simp only [keepMembers, bind_eq_ok, pure_eq_ok] at h
      obtain ⟨k, -, v, hv, later, hlater, rfl⟩ := h
      exact List.forall_mem_cons.mpr ⟨.of_keep value hv, within_of_keepMembers members hlater⟩

end

end Rollout.Json
