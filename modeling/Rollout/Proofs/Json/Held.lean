import Rollout.Proofs.Json.RoundTrip
/-!
# Members that are held back

A record that holds the members of another one reads its own members as they come and keeps the
others. The other record is read from what was kept when all members have been seen. A datum is read
from a tree that can be kept just if it is read from the value that is kept of it, so in an object
that can be kept as a whole it makes no difference to the other record that it is read later.
-/

namespace Rollout.Json

open Decimal

/-! ## Reading from the tree what is read from the value -/

theorem ofValue_optional_eq_ok {shape : Shape} {v : Value} {d : Datum}
    (h : (Shape.optional shape).ofValue v = .ok d) :
    (v = .null ∧ d = .absent) ∨ (v ≠ .null ∧ shape.ofValue v = .ok d) := by
  by_cases hv : v = .null
  · subst hv
    cases h
    exact .inl ⟨rfl, rfl⟩
  · rw [ofValue_optional hv] at h
    exact .inr ⟨hv, h⟩

theorem readLabels_of_values {depth : Nat} {members : List (Literal × Node)}
    {vs : List (String × Value)} {labels out : Dict String}
    (hkeep : keepMembers depth members = .ok vs) (hread : labelsOfMembers labels vs = .ok out) :
    readMembersWith putLabel labels members = .ok out := by
  rw [keepMembers_eq_ok] at hkeep
  induction hkeep generalizing labels with
  | nil =>
      cases hread
      rfl
  | @cons m kv _ _ first _ ih =>
      obtain ⟨key, n⟩ := m
      obtain ⟨name, v⟩ := kv
      obtain ⟨hname, hv⟩ := first
      cases v with
      | string s =>
          obtain ⟨l, rfl, hs⟩ := Node.eq_string_of_keep hv
          refine readMembersWith_cons.mpr ⟨name, labels.insert name s, hname, ?_, ih hread⟩
          exact map_eq_ok.mpr ⟨s, orMalformed_eq_ok.mpr hs, rfl⟩
      | _ => cases hread

theorem variantOfNode_of_value {names : List (String × String)} {depth : Nat} {n : Node}
    {v : Value} {d : Datum} (hkeep : n.keep depth = .ok v)
    (hread : variantOfValue names v = .ok d) : variantOfNode names depth n = .ok d := by
  unfold variantOfValue at hread
  split at hread
  · obtain ⟨l, rfl, hs⟩ := Node.eq_string_of_keep hkeep
    exact bind_eq_ok.mpr ⟨_, orMalformed_eq_ok.mpr hs, hread⟩
  · obtain ⟨inner, members, rfl, hinner, hmembers⟩ := Node.eq_object_of_keep hkeep
    cases keepMembers_eq_ok.mp hmembers with
    | @cons m _ _ _ first later =>
        cases later
        obtain ⟨key, value⟩ := m
        obtain ⟨hkey, hvalue⟩ := first
        obtain ⟨d', hd, hnull⟩ := bind_eq_ok.mp hread
        split at hnull
        · cases hnull
          obtain rfl := Node.eq_null_of_keep hvalue
          simp only [variantOfNode, bind_eq_ok, orMalformed_eq_ok, reject_eq_ok, pure_eq_ok]
          exact ⟨inner, hinner, _, hkey, _, hd, (), rfl, (), rfl, rfl⟩
        · cases hnull
  all_goals cases hread

theorem Row.putNode_of_not_mem {depth : Nat} {key : String} {n : Node}
    (hskipped : n.skipped = none) (row : Row) (hkey : key ∉ row.names)
    (slots : List (Option Datum)) : row.putNode depth key n slots = .ok slots := by
  induction row using Row.rec (motive_1 := fun _ => True) generalizing slots with
  | nil =>
      rw [Row.putNode, hskipped]
      · rfl
      · simp
  | cons name shape fallback sparse row _ ih =>
      have hne : key ≠ name := fun heq => hkey (heq ▸ List.mem_cons_self)
      have hlater : key ∉ row.names := fun hmem => hkey (List.mem_cons_of_mem name hmem)
      cases slots with
      | nil =>
          rw [Row.putNode, hskipped]
          · rfl
          · simp
      | cons slot slots =>
          rw [Row.putNode, if_neg hne, ih hlater]
          rfl
  | _ => trivial

theorem readMembersWith_of_values {row : Row} {depth : Nat}
    (hput : ∀ {key n v slots out}, n.keep depth = .ok v → row.putValue key v slots = .ok out →
      row.putNode depth key n slots = .ok out)
    {members : List (Literal × Node)} {vs : List (String × Value)}
    {slots out : List (Option Datum)} (hkeep : keepMembers depth members = .ok vs)
    (hread : vs.foldlM (fun slots m => row.putValue m.1 m.2 slots) slots = .ok out) :
    readMembersWith (fun slots key n => row.putNode depth key n slots) slots members =
      .ok out := by
  rw [keepMembers_eq_ok] at hkeep
  induction hkeep generalizing slots with
  | nil =>
      cases hread
      rfl
  | @cons m kv _ _ first _ ih =>
      obtain ⟨key, n⟩ := m
      obtain ⟨name, v⟩ := kv
      obtain ⟨hname, hv⟩ := first
      rw [List.foldlM_cons] at hread
      obtain ⟨mid, hmid, hlater⟩ := bind_eq_ok.mp hread
      exact readMembersWith_cons.mpr ⟨name, mid, hname, hput hv hmid, ih hlater⟩

mutual

theorem Shape.ofNode_of_value {depth : Nat} {n : Node} {v : Value} {d : Datum} :
    (shape : Shape) → shape.plain = true → n.keep depth = .ok v → shape.ofValue v = .ok d →
      shape.ofNode depth n = .ok d
  | .text, _, hkeep, hread => by
      cases v with
      | string s =>
          obtain ⟨l, rfl, hs⟩ := Node.eq_string_of_keep hkeep
          cases hread
          exact ofNode_text.mpr ⟨l, s, rfl, hs, rfl⟩
      | _ => cases hread
  | .bool, _, hkeep, hread => by
      cases v with
      | bool b =>
          obtain rfl := Node.eq_bool_of_keep hkeep
          exact hread
      | _ => cases hread
  | .natural w, _, hkeep, hread => by
      cases v with
      | number x =>
          obtain ⟨m, rfl, hx⟩ := Node.eq_number_of_keep hkeep
          exact ofNode_natural.mpr ⟨m, x, rfl, hx, hread⟩
      | _ => cases hread
  | .double, _, hkeep, hread => by
      cases v with
      | number x =>
          obtain ⟨m, rfl, hx⟩ := Node.eq_number_of_keep hkeep
          cases hread
          exact ofNode_double.mpr ⟨m, x, rfl, hx, rfl⟩
      | _ => cases hread
  | .optional shape, hplain, hkeep, hread => by
      rcases ofValue_optional_eq_ok hread with ⟨rfl, rfl⟩ | ⟨hv, hd⟩
      · exact ofNode_optional.mpr (.inl ⟨Node.eq_null_of_keep hkeep, rfl⟩)
      · refine ofNode_optional.mpr (.inr ⟨?_, shape.ofNode_of_value hplain hkeep hd⟩)
        rintro rfl
        cases hkeep
        exact hv rfl
  | .list shape, hplain, hkeep, hread => by
      cases v with
      | array vs =>
          obtain ⟨inner, items, rfl, hinner, hitems⟩ := Node.eq_array_of_keep hkeep
          obtain ⟨ds, hds, rfl⟩ := map_eq_ok.mp hread
          refine ofNode_list.mpr ⟨inner, items, ds, hinner, rfl, ?_, rfl⟩
          refine forall₂_of_common ?_ hitems.flip (readEach_eq_ok.mp hds)
          exact fun hv hd => shape.ofNode_of_value hplain hv hd
      | _ => cases hread
  | .labels, _, hkeep, hread => by
      cases v with
      | object vs =>
          obtain ⟨inner, members, rfl, hinner, hmembers⟩ := Node.eq_object_of_keep hkeep
          obtain ⟨labels, hlabels, rfl⟩ := map_eq_ok.mp hread
          exact ofNode_labels.mpr
            ⟨inner, members, labels, hinner, rfl, readLabels_of_values hmembers hlabels, rfl⟩
      | _ => cases hread
  | .any, _, hkeep, hread => by
      cases hread
      exact ofNode_any.mpr ⟨v, hkeep, rfl⟩
  | .variant names, _, hkeep, hread => variantOfNode_of_value hkeep hread
  | .record name row, hplain, hkeep, hread => by
      cases v with
      | object vs =>
          obtain ⟨inner, members, rfl, hinner, hmembers⟩ := Node.eq_object_of_keep hkeep
          obtain ⟨slots, hslots, hfinish⟩ := bind_eq_ok.mp hread
          obtain ⟨fields, hfields, rfl⟩ := map_eq_ok.mp hfinish
          have hnodes := readMembersWith_of_values
            (fun hv hput => row.putNode_of_value hplain hv hput) hmembers hslots
          exact ofNode_record.mpr
            ⟨inner, fields, hinner, rfl, .inl ⟨members, slots, rfl, hnodes, hfields⟩⟩
      | array vs =>
          obtain ⟨inner, items, rfl, hinner, hitems⟩ := Node.eq_array_of_keep hkeep
          obtain ⟨⟨fields, rest⟩, hfields, hend⟩ := bind_eq_ok.mp hread
          simp only at hend
          split at hend
          · rename_i hnone
            cases hend
            obtain ⟨left, hnodes, hleft⟩ := row.nodesInOrder_of_values hplain hitems hfields
            obtain rfl : left = [] := List.eq_nil_of_length_eq_zero (hleft.trans hnone)
            exact ofNode_record.mpr ⟨inner, fields, hinner, rfl, .inr ⟨items, rfl, hnodes⟩⟩
          · cases hend
      | _ => cases hread
  | .flattened _ _ _ _, hplain, _, _ => by cases hplain

theorem Row.putNode_of_value {depth : Nat} {key : String} {n : Node} {v : Value}
    {slots out : List (Option Datum)} :
    (row : Row) → row.plain = true → n.keep depth = .ok v →
      row.putValue key v slots = .ok out → row.putNode depth key n slots = .ok out
  | .nil, _, hkeep, hput => by
      rw [Row.putNode, n.skipped_of_keep hkeep]
      · exact hput
      · nofun
  | .cons name shape fallback sparse row, hplain, hkeep, hput => by
      obtain ⟨hshape, hrow⟩ := Row.plain_cons.mp hplain
      cases slots with
      | nil =>
          rw [Row.putNode, n.skipped_of_keep hkeep]
          · exact hput
          · nofun
      | cons slot slots =>
          unfold Row.putValue at hput
          unfold Row.putNode
          split at hput
          · rename_i hname
            rw [if_pos hname]
            split at hput
            · cases hput
            · rename_i hslot
              obtain ⟨d, hd, rfl⟩ := map_eq_ok.mp hput
              rw [if_neg hslot]
              exact map_eq_ok.mpr ⟨d, shape.ofNode_of_value hshape hkeep hd, rfl⟩
          · rename_i hname
            obtain ⟨later, hlater, rfl⟩ := map_eq_ok.mp hput
            rw [if_neg hname]
            exact map_eq_ok.mpr ⟨later, row.putNode_of_value hrow hkeep hlater, rfl⟩

theorem Row.nodesInOrder_of_values {depth k left : Nat} {described : String} {items : List Node}
    {vs : List Value} {fields : List Datum} :
    (row : Row) → row.plain = true →
      List.Forall₂ (fun (n : Node) v => n.keep depth = .ok v) items vs →
      row.valuesInOrder described k vs = .ok (fields, left) →
      ∃ rest, row.nodesInOrder depth described .closed k items = .ok (fields, rest) ∧
        rest.length = left
  | .nil, _, hkeep, hread => by
      cases hread
      exact ⟨items, rfl, hkeep.length_eq⟩
  | .cons name shape fallback sparse row, hplain, hkeep, hread => by
      obtain ⟨hshape, hrow⟩ := Row.plain_cons.mp hplain
      cases hkeep with
      | nil =>
          cases fallback with
          | none => cases hread
          | some d =>
              obtain ⟨⟨later, left'⟩, hlater, heq⟩ := bind_eq_ok.mp hread
              cases heq
              obtain ⟨rest, hrest, hleft⟩ := row.nodesInOrder_of_values hrow .nil hlater
              exact ⟨rest, bind_eq_ok.mpr
                ⟨(), rfl, bind_eq_ok.mpr ⟨_, hrest, rfl⟩⟩, hleft⟩
      | cons first hitems =>
          simp only [Row.valuesInOrder, bind_eq_ok] at hread
          obtain ⟨d, hd, ⟨later, left'⟩, hlater, heq⟩ := hread
          cases heq
          obtain ⟨rest, hrest, hleft⟩ := row.nodesInOrder_of_values hrow hitems hlater
          refine ⟨rest, ?_, hleft⟩
          simp only [Row.nodesInOrder, bind_eq_ok]
          exact ⟨d, shape.ofNode_of_value hshape first hd, _, hrest, rfl⟩

end

/-- A datum is read from a tree that can be kept just if it is read from the kept value. -/
theorem Shape.ofNode_iff_ofValue {depth : Nat} {n : Node} {v : Value} (shape : Shape)
    (hplain : shape.plain = true) (hkeep : n.keep depth = .ok v) {d : Datum} :
    shape.ofNode depth n = .ok d ↔ shape.ofValue v = .ok d :=
  ⟨fun hread => shape.ofValue_of_keep hplain hread hkeep,
    fun hread => shape.ofNode_of_value hplain hkeep hread⟩

/-! ## The two records -/

theorem Row.putValue_of_not_mem {key : String} {v : Value} (row : Row) (hkey : key ∉ row.names)
    (slots : List (Option Datum)) : row.putValue key v slots = .ok slots := by
  induction row using Row.rec (motive_1 := fun _ => True) generalizing slots with
  | nil => rfl
  | cons name shape fallback sparse row _ ih =>
      have hne : key ≠ name := fun heq => hkey (heq ▸ List.mem_cons_self)
      have hlater : key ∉ row.names := fun hmem => hkey (List.mem_cons_of_mem name hmem)
      cases slots with
      | nil => rfl
      | cons slot slots =>
          rw [Row.putValue, if_neg hne, ih hlater]
          rfl
  | _ => trivial

theorem foldlM_putValue_filter {innerRow row : Row}
    (hapart : ∀ k ∈ innerRow.names, k ∉ row.names)
    (vs : List (String × Value)) (slots : List (Option Datum)) :
    (vs.filter fun v => v.1 ∉ row.names).foldlM
        (fun slots m => innerRow.putValue m.1 m.2 slots) slots =
      vs.foldlM (fun slots m => innerRow.putValue m.1 m.2 slots) slots := by
  induction vs generalizing slots with
  | nil => rfl
  | cons v vs ih =>
      by_cases hname : v.1 ∈ row.names
      · have hother : v.1 ∉ innerRow.names := fun hinner => hapart v.1 hinner hname
        rw [List.filter_cons_of_neg (by simpa using hname), ih, List.foldlM_cons,
          innerRow.putValue_of_not_mem hother]
        rfl
      · rw [List.filter_cons_of_pos (by simpa using hname), List.foldlM_cons, List.foldlM_cons]
        exact bind_congr fun mid => ih mid

section

variable {row : Row} {depth : Nat} {members : List (Literal × Node)} {vs : List (String × Value)}

theorem flawless_of_keepMembers (hkeep : keepMembers depth members = .ok vs) :
    ∀ m ∈ members, (∃ k, m.1.text = .ok k) ∧ m.2.skipped = none := by
  rw [keepMembers_eq_ok] at hkeep
  induction hkeep with
  | nil => exact List.forall_mem_nil _
  | @cons m v _ _ first _ ih =>
      exact List.forall_mem_cons.mpr ⟨⟨⟨v.1, first.1⟩, m.2.skipped_of_keep first.2⟩, ih⟩

/-- In an object that can be kept, the own members fill the slots as if there were no others, and
the others are kept in order. -/
theorem readMembersWith_putOrKeep_iff (hkeep : keepMembers depth members = .ok vs)
    {slots : List (Option Datum)} {kept : List (String × Value)}
    {after : List (Option Datum) × List (String × Value)} :
    readMembersWith (putOrKeep row depth) (slots, kept) members = .ok after ↔
      readMembersWith (fun slots key n => row.putNode depth key n slots) slots members =
          .ok after.1 ∧
        after.2 = kept ++ vs.filter fun v => v.1 ∉ row.names := by
  rw [keepMembers_eq_ok] at hkeep
  -- Member by member: it is put into a slot if the record has a field of its name, and else kept.
  induction hkeep generalizing slots kept with
  | nil =>
      obtain ⟨out, held⟩ := after
      rw [List.filter_nil, List.append_nil]
      constructor
      · intro hread
        cases hread
        exact ⟨rfl, rfl⟩
      · rintro ⟨hslots, rfl⟩
        cases hslots
        rfl
  | @cons m kv _ _ first _ ih =>
      obtain ⟨key, n⟩ := m
      obtain ⟨name, v⟩ := kv
      obtain ⟨hname, hv⟩ := first
      rw [readMembersWith_cons, readMembersWith_cons]
      by_cases hown : name ∈ row.names
      · rw [List.filter_cons_of_neg (by simpa using hown)]
        constructor
        · rintro ⟨k, mid, hk, hput, hlater⟩
          obtain rfl : name = k := ok_unique hname hk
          rw [putOrKeep, if_pos hown] at hput
          obtain ⟨filled, hfilled, heq⟩ := bind_eq_ok.mp hput
          cases heq
          obtain ⟨hslots, hheld⟩ := ih.mp hlater
          exact ⟨⟨name, filled, hname, hfilled, hslots⟩, hheld⟩
        · rintro ⟨⟨k, mid, hk, hput, hlater⟩, hheld⟩
          obtain rfl : name = k := ok_unique hname hk
          refine ⟨name, (mid, kept), hname, ?_, ih.mpr ⟨hlater, hheld⟩⟩
          rw [putOrKeep, if_pos hown, hput]
          rfl
      · have hput : ∀ slots, row.putNode depth name n slots = .ok slots :=
          row.putNode_of_not_mem (n.skipped_of_keep hv) hown
        rw [List.filter_cons_of_pos (by simpa using hown), List.append_cons]
        constructor
        · rintro ⟨k, mid, hk, hmid, hlater⟩
          obtain rfl : name = k := ok_unique hname hk
          rw [putOrKeep, if_neg hown, hv] at hmid
          cases hmid
          obtain ⟨hslots, hheld⟩ := ih.mp hlater
          exact ⟨⟨name, slots, hname, hput slots, hslots⟩, hheld⟩
        · rintro ⟨⟨k, mid, hk, hmid, hlater⟩, hheld⟩
          obtain rfl : name = k := ok_unique hname hk
          obtain rfl : mid = slots := ok_unique hmid (hput slots)
          refine ⟨name, (mid, kept ++ [(name, v)]), hname, ?_, ih.mpr ⟨hlater, hheld⟩⟩
          rw [putOrKeep, if_neg hown, hv]
          rfl

theorem ofNode_flattened {name inner : String} {innerRow : Row} {outer : Nat} {d : Datum} :
    (Shape.flattened name inner innerRow row).ofNode outer (.object members .closed) = .ok d ↔
      ∃ depth slots kept own held, enter outer = .ok depth ∧
        readMembersWith (putOrKeep row depth) (row.unfilled, []) members = .ok (slots, kept) ∧
        row.finish slots = .ok own ∧
        (Shape.record inner innerRow).ofValue (.object kept) = .ok held ∧
        d = .record (held :: own) := by
  rw [Shape.ofNode]
  simp only [bind_eq_ok, reject_eq_ok, pure_eq_ok]
  constructor
  · rintro ⟨depth, hdepth, ⟨slots, kept⟩, hread, _, -, own, hfinish, held, hvalue, rfl⟩
    exact ⟨depth, slots, kept, own, held, hdepth, hread, hfinish, hvalue, rfl⟩
  · rintro ⟨depth, slots, kept, own, held, hdepth, hread, hfinish, hvalue, rfl⟩
    exact ⟨depth, hdepth, (slots, kept), hread, (), rfl, own, hfinish, held, hvalue, rfl⟩

/-- An object that can be kept is read as a record that holds the members of another one just if it
is read as the other one and has the own members. -/
theorem ofNode_flattened_iff {name inner : String} {innerRow : Row} {outer : Nat} {v : Value}
    (hplain : innerRow.plain = true)
    (hdistinct : (Shape.flattened name inner innerRow row).distinct = true)
    (houter : enter outer = .ok depth)
    (hkeep : (Node.object members .closed).keep outer = .ok v) {d : Datum} :
    (Shape.flattened name inner innerRow row).ofNode outer (.object members .closed) = .ok d ↔
      ∃ held own, d = .record (held :: own) ∧
        (Shape.record inner innerRow).ofNode outer (.object members .closed) = .ok held ∧
        row.FieldsOf depth members own := by
  obtain ⟨-, hrow, hapart⟩ := Shape.distinct_flattened.mp hdistinct
  obtain ⟨depth', vs, hdepth, hvs, -, rfl⟩ := keep_object.mp hkeep
  obtain rfl : depth' = depth := ok_unique hdepth houter
  have hheld : ∀ {held}, (Shape.record inner innerRow).ofValue
      (.object (vs.filter fun v => v.1 ∉ row.names)) = .ok held ↔
      (Shape.record inner innerRow).ofNode outer (.object members .closed) = .ok held := by
    intro held
    rw [(Shape.record inner innerRow).ofNode_iff_ofValue hplain hkeep, Shape.ofValue, Shape.ofValue,
      foldlM_putValue_filter hapart]
  rw [ofNode_flattened]
  constructor
  · rintro ⟨_, slots, kept, own, held, hdepth', hread, hfinish, hvalue, rfl⟩
    obtain rfl := ok_unique hdepth' houter
    obtain ⟨hslots, rfl⟩ := (readMembersWith_putOrKeep_iff hvs).mp hread
    have hfilled := ((readMembersWith_putNode hrow row.filled_unfilled).mp hslots).2
    exact ⟨held, own, rfl, hheld.mp hvalue,
      fieldsOf_iff_finish.mpr ⟨slots, hfilled, hfinish⟩⟩
  · rintro ⟨held, own, rfl, hrecord, hown⟩
    obtain ⟨slots, hfilled, hfinish⟩ := fieldsOf_iff_finish.mp hown
    have hslots := (readMembersWith_putNode hrow row.filled_unfilled).mpr
      ⟨flawless_of_keepMembers hvs, hfilled⟩
    exact ⟨depth', slots, _, own, held, houter,
      (readMembersWith_putOrKeep_iff hvs).mpr ⟨hslots, (List.nil_append _).symm⟩, hfinish,
      hheld.mpr hrecord, rfl⟩

end

end Rollout.Json
