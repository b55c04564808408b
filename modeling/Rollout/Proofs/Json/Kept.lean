import Rollout.Proofs.Json.Success
/-!
# Reading what was kept

A datum that is read from a tree is also read from the value that is kept of the tree. Only a record
that holds the members of another one is never read from a value.
-/

namespace Rollout.Json

mutual

/-- No record holds the members of another one. -/
def Shape.plain : Shape → Bool
  | .optional shape | .list shape => shape.plain
  | .record _ row => row.plain
  | .flattened _ _ _ _ => false
  | .text | .bool | .natural _ | .double | .labels | .any | .variant _ => true

def Row.plain : Row → Bool
  | .nil => true
  | .cons _ shape _ _ row => shape.plain && row.plain

end

theorem Row.plain_cons {name : String} {shape : Shape} {fallback : Option Datum} {sparse : Bool}
    {row : Row} : (Row.cons name shape fallback sparse row).plain = true ↔
      shape.plain = true ∧ row.plain = true := by
  simp [Row.plain]

theorem Value.eq_null_of_sorted {v : Value} (h : v.sorted = .null) : v = .null := by
  cases v with
  | null => rfl
  | bool _ | number _ | string _ | array _ | object _ => simp [Value.sorted] at h

theorem ofValue_optional {shape : Shape} {v : Value} (h : v ≠ .null) :
    (Shape.optional shape).ofValue v = shape.ofValue v := by
  cases v with
  | null => exact absurd rfl h
  | _ => rw [Shape.ofValue]; nofun

theorem labelsOfMembers_of_kept {depth : Nat} {members : List (Literal × Node)}
    {vs : List (String × Value)} {labels out : Dict String}
    (hread : readMembersWith putLabel labels members = .ok out)
    (hkeep : keepMembers depth members = .ok vs) : labelsOfMembers labels vs = .ok out := by
  rw [keepMembers_eq_ok] at hkeep
  induction hkeep generalizing labels with
  | nil =>
      cases hread
      rfl
  | @cons m kv _ _ first _ ih =>
      obtain ⟨key, n⟩ := m
      obtain ⟨name, v⟩ := kv
      obtain ⟨k, mid, hk, hmid, hlater⟩ := readMembersWith_cons.mp hread
      obtain ⟨hname, hv⟩ := first
      obtain rfl : name = k := ok_unique hname hk
      unfold putLabel at hmid
      split at hmid
      · obtain ⟨s, hs, rfl⟩ := map_eq_ok.mp hmid
        obtain ⟨s', hs', hv'⟩ := keep_string.mp hv
        obtain rfl : s' = s := ok_unique hs' (orMalformed_eq_ok.mp hs)
        cases hv'
        exact ih hlater
      · exact absurd hmid mismatch_ne_ok

theorem variantOfValue_of_kept {names : List (String × String)} {depth : Nat} {n : Node}
    {v : Value} {d : Datum} (hread : variantOfNode names depth n = .ok d)
    (hkeep : n.keep depth = .ok v) : variantOfValue names v = .ok d := by
  unfold variantOfNode at hread
  split at hread
  · obtain ⟨s, hs, hd⟩ := bind_eq_ok.mp hread
    obtain ⟨s', hs', rfl⟩ := keep_string.mp hkeep
    obtain rfl : s' = s := ok_unique hs' (orMalformed_eq_ok.mp hs)
    exact hd
  · simp [bind_eq_ok] at hread
  · simp only [bind_eq_ok, orMalformed_eq_ok, reject_eq_ok, pure_eq_ok, expectNull_eq_ok,
      endOfVariant_eq_none] at hread
    obtain ⟨_, -, k, hk, d', hd, _, rfl, _, ⟨rfl, rfl⟩, rfl⟩ := hread
    obtain ⟨inner, vs, -, hvs, -, rfl⟩ := keep_object.mp hkeep
    cases keepMembers_eq_ok.mp hvs with
    | @cons _ kv _ _ first later =>
        cases later
        obtain ⟨name, v⟩ := kv
        obtain ⟨hname, hv⟩ := first
        obtain rfl : name = k := ok_unique hname hk
        cases hv
        exact bind_eq_ok.mpr ⟨_, hd, rfl⟩
  all_goals cases hread

theorem foldlM_putValue_of_kept {row : Row} {depth : Nat}
    (hput : ∀ {key n v slots out}, row.putNode depth key n slots = .ok out →
      n.keep depth = .ok v → row.putValue key v slots = .ok out)
    {members : List (Literal × Node)} {vs : List (String × Value)}
    {slots out : List (Option Datum)}
    (hread : readMembersWith (fun slots key n => row.putNode depth key n slots) slots members =
      .ok out)
    (hkeep : keepMembers depth members = .ok vs) :
    vs.foldlM (fun slots m => row.putValue m.1 m.2 slots) slots = .ok out := by
  rw [keepMembers_eq_ok] at hkeep
  induction hkeep generalizing slots with
  | nil =>
      cases hread
      rfl
  | @cons m kv _ _ first _ ih =>
      obtain ⟨key, n⟩ := m
      obtain ⟨name, v⟩ := kv
      obtain ⟨k, mid, hk, hmid, hlater⟩ := readMembersWith_cons.mp hread
      obtain ⟨hname, hv⟩ := first
      obtain rfl : name = k := ok_unique hname hk
      rw [List.foldlM_cons]
      exact bind_eq_ok.mpr ⟨mid, hput hmid hv, ih hlater⟩

theorem forall₂_of_common {α β γ : Type} {R : α → β → Prop} {S : α → γ → Prop}
    {T : β → γ → Prop} (h : ∀ {a b c}, R a b → S a c → T b c) {as : List α}
    {bs : List β}
    {cs : List γ} (hr : List.Forall₂ R as bs) (hs : List.Forall₂ S as cs) :
    List.Forall₂ T bs cs := by
  induction hr generalizing cs with
  | nil =>
      cases hs
      exact .nil
  | cons first _ ih =>
      cases hs with
      | cons first' later' => exact .cons (h first first') (ih later')

mutual

theorem Shape.ofValue_of_keep {depth : Nat} {n : Node} {v : Value} {d : Datum} :
    (shape : Shape) → shape.plain = true → shape.ofNode depth n = .ok d →
      n.keep depth = .ok v → shape.ofValue v = .ok d
  | .text, _, hread, hkeep => by
      obtain ⟨l, s, rfl, hs, rfl⟩ := ofNode_text.mp hread
      obtain ⟨s', hs', rfl⟩ := keep_string.mp hkeep
      rw [ok_unique hs' hs]
      rfl
  | .bool, _, hread, hkeep => by
      obtain ⟨b, rfl, rfl⟩ := ofNode_bool.mp hread
      cases hkeep
      rfl
  | .natural w, _, hread, hkeep => by
      obtain ⟨m, x, rfl, hx, hd⟩ := ofNode_natural.mp hread
      obtain ⟨x', hx', rfl⟩ := keep_number.mp hkeep
      rw [ok_unique hx' hx]
      exact hd
  | .double, _, hread, hkeep => by
      obtain ⟨m, x, rfl, hx, rfl⟩ := ofNode_double.mp hread
      obtain ⟨x', hx', rfl⟩ := keep_number.mp hkeep
      rw [ok_unique hx' hx]
      rfl
  | .optional shape, hplain, hread, hkeep => by
      rcases ofNode_optional.mp hread with ⟨rfl, rfl⟩ | ⟨hn, hd⟩
      · cases hkeep
        rfl
      · have hv : v ≠ .null := by
          rintro rfl
          exact hn (Node.eq_null_of_keep hkeep)
        rw [ofValue_optional hv]
        exact shape.ofValue_of_keep hplain hd hkeep
  | .list shape, hplain, hread, hkeep => by
      obtain ⟨inner, items, ds, hinner, rfl, hds, rfl⟩ := ofNode_list.mp hread
      obtain ⟨inner', vs, hinner', hvs, -, rfl⟩ := keep_array.mp hkeep
      obtain rfl : inner' = inner := ok_unique hinner' hinner
      have hvalues : List.Forall₂ (fun v d => shape.ofValue v = .ok d) vs ds := by
        refine forall₂_of_common ?_ (keepItems_eq_ok.mp hvs) hds
        exact fun hv hd => shape.ofValue_of_keep hplain hd hv
      exact map_eq_ok.mpr ⟨ds, readEach_eq_ok.mpr hvalues, rfl⟩
  | .labels, _, hread, hkeep => by
      obtain ⟨_, members, labels, -, rfl, hlabels, rfl⟩ := ofNode_labels.mp hread
      obtain ⟨_, vs, -, hvs, -, rfl⟩ := keep_object.mp hkeep
      exact map_eq_ok.mpr ⟨labels, labelsOfMembers_of_kept hlabels hvs, rfl⟩
  | .any, _, hread, hkeep => by
      obtain ⟨v', hv', rfl⟩ := ofNode_any.mp hread
      rw [ok_unique hkeep hv']
      rfl
  | .variant names, _, hread, hkeep => variantOfValue_of_kept hread hkeep
  | .record name row, hplain, hread, hkeep => by
      obtain ⟨inner, fields, hinner, rfl, ⟨members, slots, rfl, hslots, hfinish⟩ |
        ⟨items, rfl, hfields⟩⟩ := ofNode_record.mp hread
      · obtain ⟨inner', vs, hinner', hvs, -, rfl⟩ := keep_object.mp hkeep
        obtain rfl : inner' = inner := ok_unique hinner' hinner
        have hslots := foldlM_putValue_of_kept
          (fun hput hv => row.putValue_of_keep hplain hput hv) hslots hvs
        exact bind_eq_ok.mpr ⟨slots, hslots, map_eq_ok.mpr ⟨fields, hfinish, rfl⟩⟩
      · obtain ⟨inner', vs, hinner', hvs, -, rfl⟩ := keep_array.mp hkeep
        obtain rfl : inner' = inner := ok_unique hinner' hinner
        have hvalues := row.valuesInOrder_of_keep hplain hfields (keepItems_eq_ok.mp hvs)
        exact bind_eq_ok.mpr ⟨(fields, 0), hvalues, rfl⟩
  | .flattened _ _ _ _, hplain, _, _ => by cases hplain

theorem Row.putValue_of_keep {depth : Nat} {key : String} {n : Node} {v : Value}
    {slots out : List (Option Datum)} :
    (row : Row) → row.plain = true → row.putNode depth key n slots = .ok out →
      n.keep depth = .ok v → row.putValue key v slots = .ok out
  | .nil, _, hput, hkeep => by
      obtain ⟨_, -, hslots⟩ := bind_eq_ok.mp hput
      exact hslots
  | .cons name shape fallback sparse row, hplain, hput, hkeep => by
      obtain ⟨hshape, hrow⟩ := Row.plain_cons.mp hplain
      cases slots with
      | nil =>
          obtain ⟨_, -, hslots⟩ := bind_eq_ok.mp hput
          exact hslots
      | cons slot slots =>
          unfold Row.putNode at hput
          unfold Row.putValue
          split at hput
          · rename_i hname
            rw [if_pos hname]
            split at hput
            · cases hput
            · rename_i hslot
              obtain ⟨d, hd, rfl⟩ := map_eq_ok.mp hput
              rw [if_neg hslot]
              exact map_eq_ok.mpr ⟨d, shape.ofValue_of_keep hshape hd hkeep, rfl⟩
          · rename_i hname
            obtain ⟨later, hlater, rfl⟩ := map_eq_ok.mp hput
            rw [if_neg hname]
            exact map_eq_ok.mpr ⟨later, row.putValue_of_keep hrow hlater hkeep, rfl⟩

theorem Row.valuesInOrder_of_keep {depth k : Nat} {described : String} {items rest : List Node}
    {vs : List Value} {fields : List Datum} :
    (row : Row) → row.plain = true →
      row.nodesInOrder depth described .closed k items = .ok (fields, rest) →
      List.Forall₂ (fun (n : Node) v => n.keep depth = .ok v) items vs →
      row.valuesInOrder described k vs = .ok (fields, rest.length)
  | .nil, _, hread, hkeep => by
      cases hread
      rw [Row.valuesInOrder, hkeep.length_eq]
  | .cons name shape fallback sparse row, hplain, hread, hkeep => by
      obtain ⟨hshape, hrow⟩ := Row.plain_cons.mp hplain
      cases hkeep with
      | nil =>
          obtain ⟨_, -, hread⟩ := bind_eq_ok.mp hread
          cases fallback with
          | none => cases hread
          | some d =>
              obtain ⟨⟨later, rest'⟩, hlater, heq⟩ := bind_eq_ok.mp hread
              cases heq
              exact bind_eq_ok.mpr ⟨_, row.valuesInOrder_of_keep hrow hlater .nil, rfl⟩
      | cons first hitems =>
          simp only [Row.nodesInOrder, bind_eq_ok] at hread
          obtain ⟨d, hd, ⟨later, rest'⟩, hlater, heq⟩ := hread
          cases heq
          simp only [Row.valuesInOrder, bind_eq_ok]
          exact ⟨d, shape.ofValue_of_keep hshape hd first, _,
            row.valuesInOrder_of_keep hrow hlater hitems, rfl⟩

end

end Rollout.Json
