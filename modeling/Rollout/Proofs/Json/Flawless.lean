import Rollout.Proofs.Json.Success
/-!
# What is decoded has no flaw

A tree that is kept or read through a shape has no flaw anywhere, also in the members that are
passed over. So only texts that spell a tree are decoded.
-/

namespace Rollout.Json

/-! ## Flaws of the parts -/

theorem orElse_eq_none {α : Type} {x y : Option α} :
    (x <|> y) = none ↔ x = none ∧ y = none := by
  cases x <;> simp

theorem skippedItems_eq_none {items : List Node} :
    skippedItems items = none ↔ ∀ item ∈ items, item.skipped = none := by
  induction items with
  | nil => exact ⟨fun _ => nofun, fun _ => rfl⟩
  | cons item items ih =>
      unfold skippedItems
      rw [orElse_eq_none, ih, List.forall_mem_cons]

theorem skippedMembers_eq_none {members : List (Literal × Node)} :
    skippedMembers members = none ↔
      ∀ m ∈ members, m.1.ending.fault = none ∧ m.2.skipped = none := by
  induction members with
  | nil => exact ⟨fun _ => nofun, fun _ => rfl⟩
  | cons m members ih =>
      obtain ⟨key, value⟩ := m
      unfold skippedMembers
      rw [orElse_eq_none, orElse_eq_none, ih, List.forall_mem_cons]
      exact and_assoc.symm

theorem skipped_array {items : List Node} :
    (Node.array items .closed).skipped = none ↔ ∀ item ∈ items, item.skipped = none := by
  rw [Node.skipped, orElse_eq_none, skippedItems_eq_none]
  exact ⟨And.left, fun h => ⟨h, rfl⟩⟩

theorem skipped_object {members : List (Literal × Node)} :
    (Node.object members .closed).skipped = none ↔
      ∀ m ∈ members, m.1.ending.fault = none ∧ m.2.skipped = none := by
  rw [Node.skipped, orElse_eq_none, skippedMembers_eq_none]
  exact ⟨And.left, fun h => ⟨h, rfl⟩⟩

theorem fault_eq_none_of_symbols {ending : StringEnd} {pieces : List Piece}
    {symbols : List Text.Symbol} (h : Literal.symbols ending pieces = .ok symbols) :
    ending.fault = none := by
  fun_induction Literal.symbols ending pieces generalizing symbols with
  | case1 => cases h
  | case2 hfault => exact hfault
  | case5 | case6 | case8 | case9 => cases h
  | case3 _ _ ih | case4 _ _ ih | case7 _ _ _ _ _ _ ih | case10 _ _ _ _ ih =>
      obtain ⟨later, hlater, -⟩ := map_eq_ok.mp h
      exact ih hlater

theorem Literal.fault_eq_none {l : Literal} {s : String} (h : l.text = .ok s) :
    l.ending.fault = none := by
  obtain ⟨symbols, hsymbols, -⟩ := bind_eq_ok.mp h
  exact fault_eq_none_of_symbols hsymbols

theorem skipped_of_readMembersWith {σ : Type} {step : σ → String → Node → Except Fault σ}
    (hstep : ∀ {st k value mid}, step st k value = .ok mid → value.skipped = none) {st out : σ}
    {members : List (Literal × Node)} (h : readMembersWith step st members = .ok out) :
    (Node.object members .closed).skipped = none := by
  rw [skipped_object]
  induction members generalizing st with
  | nil => exact nofun
  | cons m members ih =>
      obtain ⟨key, value⟩ := m
      obtain ⟨k, mid, hkey, hmid, hlater⟩ := readMembersWith_cons.mp h
      rw [List.forall_mem_cons]
      exact ⟨⟨Literal.fault_eq_none hkey, hstep hmid⟩, ih hlater⟩

/-! ## Trees that are kept -/

mutual

theorem Node.skipped_of_keep {depth : Nat} {v : Value} :
    (n : Node) → n.keep depth = .ok v → n.skipped = none
  | .null, _ | .bool _, _ | .number _, _ => rfl
  | .string l, h => by
      obtain ⟨s, hs, -⟩ := keep_string.mp h
      exact Literal.fault_eq_none hs
  | .array items ending, h => by
      obtain ⟨inner, values, -, hvalues, rfl, -⟩ := keep_array.mp h
      exact skipped_array.mpr (skipped_of_keepItems items hvalues)
  | .object members ending, h => by
      obtain ⟨inner, values, -, hvalues, rfl, -⟩ := keep_object.mp h
      exact skipped_object.mpr (skipped_of_keepMembers members hvalues)
  | .broken _, h => nomatch h

theorem skipped_of_keepItems {depth : Nat} {vs : List Value} :
    (items : List Node) → keepItems depth items = .ok vs →
      ∀ item ∈ items, item.skipped = none
  | [], _ => nofun
  | item :: items, h => by
      simp only [keepItems, bind_eq_ok] at h
      obtain ⟨v, hv, later, hlater, -⟩ := h
      exact List.forall_mem_cons.mpr
        ⟨item.skipped_of_keep hv, skipped_of_keepItems items hlater⟩

theorem skipped_of_keepMembers {depth : Nat} {vs : List (String × Value)} :
    (members : List (Literal × Node)) → keepMembers depth members = .ok vs →
      ∀ m ∈ members, m.1.ending.fault = none ∧ m.2.skipped = none
  | [], _ => nofun
  | (key, value) :: members, h => by
      simp only [keepMembers, bind_eq_ok, orMalformed_eq_ok] at h
      obtain ⟨k, hk, v, hv, later, hlater, -⟩ := h
      exact List.forall_mem_cons.mpr ⟨⟨Literal.fault_eq_none hk, value.skipped_of_keep hv⟩,
        skipped_of_keepMembers members hlater⟩

end

/-! ## Trees that are read through a shape -/

theorem skipped_of_putLabel {labels out : Dict String} {key : String} {n : Node}
    (h : putLabel labels key n = .ok out) : n.skipped = none := by
  unfold putLabel at h
  split at h
  · obtain ⟨s, hs, -⟩ := map_eq_ok.mp h
    exact Literal.fault_eq_none (orMalformed_eq_ok.mp hs)
  · exact absurd h mismatch_ne_ok

theorem skipped_of_variantOfNode {names : List (String × String)} {depth : Nat} {n : Node}
    {d : Datum} (h : variantOfNode names depth n = .ok d) : n.skipped = none := by
  unfold variantOfNode at h
  split at h
  · simp only [bind_eq_ok, orMalformed_eq_ok] at h
    obtain ⟨s, hs, -⟩ := h
    exact Literal.fault_eq_none hs
  · simp [bind_eq_ok] at h
  · rename_i key value members ending
    simp only [bind_eq_ok, orMalformed_eq_ok, reject_eq_ok, expectNull_eq_ok,
      endOfVariant_eq_none] at h
    obtain ⟨_, -, k, hk, d, -, _, rfl, _, ⟨rfl, rfl⟩, -⟩ := h
    rw [skipped_object, List.forall_mem_cons]
    exact ⟨⟨Literal.fault_eq_none hk, rfl⟩, nofun⟩
  all_goals cases h

mutual

theorem Shape.skipped_of_ofNode {depth : Nat} {n : Node} {d : Datum} :
    (shape : Shape) → shape.ofNode depth n = .ok d → n.skipped = none
  | .text, h => by
      obtain ⟨l, s, rfl, hs, -⟩ := ofNode_text.mp h
      exact Literal.fault_eq_none hs
  | .bool, h => by
      obtain ⟨b, rfl, -⟩ := ofNode_bool.mp h
      rfl
  | .natural _, h => by
      obtain ⟨m, v, rfl, -⟩ := ofNode_natural.mp h
      rfl
  | .double, h => by
      obtain ⟨m, v, rfl, -⟩ := ofNode_double.mp h
      rfl
  | .optional shape, h => by
      rcases ofNode_optional.mp h with ⟨rfl, -⟩ | ⟨-, h⟩
      · rfl
      · exact shape.skipped_of_ofNode h
  | .list shape, h => by
      obtain ⟨inner, items, ds, -, rfl, hitems, -⟩ := ofNode_list.mp h
      have hboth := hitems.imp fun _ _ hd => And.intro (shape.skipped_of_ofNode hd) hd
      exact skipped_array.mpr ((List.forall₂_and_left items ds).mp hboth).1
  | .labels, h => by
      obtain ⟨inner, members, labels, -, rfl, hlabels, -⟩ := ofNode_labels.mp h
      exact skipped_of_readMembersWith skipped_of_putLabel hlabels
  | .any, h => by
      obtain ⟨v, hv, -⟩ := ofNode_any.mp h
      exact n.skipped_of_keep hv
  | .variant names, h => skipped_of_variantOfNode h
  | .record name row, h => by
      obtain ⟨inner, fields, -, -,
        ⟨members, slots, rfl, hslots, -⟩ | ⟨items, rfl, hfields⟩⟩ :=
        ofNode_record.mp h
      · exact skipped_of_readMembersWith row.skipped_of_putNode hslots
      · exact skipped_array.mpr (row.skipped_of_nodesInOrder hfields)
  | .flattened name inner innerRow row, h => by
      cases n
      case object members ending =>
        simp only [Shape.ofNode, bind_eq_ok, reject_eq_ok, Ending.keptInObject_eq_none] at h
        obtain ⟨_, -, ⟨slots, kept⟩, hslots, _, rfl, -⟩ := h
        refine skipped_of_readMembersWith (fun {_ _ value _} hstep => ?_) hslots
        split at hstep
        · obtain ⟨mid, hmid, -⟩ := bind_eq_ok.mp hstep
          exact row.skipped_of_putNode hmid
        · obtain ⟨v, hv, -⟩ := bind_eq_ok.mp hstep
          exact value.skipped_of_keep hv
      all_goals exact absurd h (by simp [Shape.ofNode, mismatch_ne_ok])

theorem Row.skipped_of_putNode {depth : Nat} {key : String} {n : Node}
    {slots out : List (Option Datum)} :
    (row : Row) → row.putNode depth key n slots = .ok out → n.skipped = none
  | .nil, h => by
      obtain ⟨_, hskipped, -⟩ := bind_eq_ok.mp h
      exact reject_eq_ok.mp hskipped
  | .cons name shape fallback sparse row, h => by
      cases slots with
      | nil =>
          obtain ⟨_, hskipped, -⟩ := bind_eq_ok.mp h
          exact reject_eq_ok.mp hskipped
      | cons slot slots =>
          unfold Row.putNode at h
          split at h
          · split at h
            · cases h
            · obtain ⟨d, hd, -⟩ := map_eq_ok.mp h
              exact shape.skipped_of_ofNode hd
          · obtain ⟨later, hlater, -⟩ := map_eq_ok.mp h
            exact row.skipped_of_putNode hlater

theorem Row.skipped_of_nodesInOrder {depth k : Nat} {described : String} {items : List Node}
    {fields : List Datum} :
    (row : Row) → row.nodesInOrder depth described .closed k items = .ok (fields, []) →
      ∀ item ∈ items, item.skipped = none
  | .nil, h => by
      cases h
      exact nofun
  | .cons name shape fallback sparse row, h => by
      cases items with
      | nil => exact nofun
      | cons item items =>
          simp only [Row.nodesInOrder, bind_eq_ok] at h
          obtain ⟨d, hd, ⟨later, rest⟩, hlater, hfields⟩ := h
          cases hfields
          exact List.forall_mem_cons.mpr
            ⟨shape.skipped_of_ofNode hd, row.skipped_of_nodesInOrder hlater⟩

end

end Rollout.Json
