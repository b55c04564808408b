import Rollout.Proofs.Json.Description
import Rollout.Proofs.Json.Kept
import Rollout.Proofs.Json.Members
/-!
# Written data are read again

The text of a datum that a shape describes spells a tree from which the shape reads the datum. A
member that is left out is the one that stands for a missing one, and what is written for nothing is
read as nothing.
-/

namespace Rollout.Json

open Decimal

/-! ## Labels -/

theorem readMembersWith_putLabel {entries : List (String × String)} {labels : Dict String}
    (order : InKeyOrder (labels.entries ++ entries)) :
    ∃ out, readMembersWith putLabel labels
        (entries.map fun e => (literal e.1, .string (literal e.2))) = .ok out ∧
      out.entries = labels.entries ++ entries := by
  induction entries generalizing labels with
  | nil => exact ⟨labels, rfl, (List.append_nil _).symm⟩
  | cons e entries ih =>
      obtain ⟨key, value⟩ := e
      have hbehind : (labels.insert key value).entries = labels.entries ++ [(key, value)] :=
        insertEntry_behind fun e he => (List.pairwise_append.mp order).2.2 e he _ List.mem_cons_self
      have happend : labels.entries ++ (key, value) :: entries =
          (labels.insert key value).entries ++ entries := by
        rw [hbehind, List.append_assoc]
        rfl
      rw [happend] at order ⊢
      obtain ⟨out, hread, hout⟩ := ih order
      refine ⟨out, readMembersWith_cons.mpr ⟨key, _, text_literal key, ?_, hread⟩, hout⟩
      rw [putLabel, text_literal]
      rfl

theorem Dict.eq_of_entries {α : Type} {a b : Dict α} (h : a.entries = b.entries) : a = b := by
  cases a
  cases b
  cases h
  rfl

theorem spells_labels (labels : Dict String) (depth : Nat) : ∃ members vs,
    Spells (labelChars labels) (.object members .closed) ∧
      readMembersWith putLabel .empty members = .ok labels ∧
      keepMembers depth members = .ok vs := by
  have order : InKeyOrder (Dict.empty.entries ++ labels.entries) := labels.ordered
  obtain ⟨out, hread, hout⟩ := readMembersWith_putLabel order
  obtain rfl : out = labels := Dict.eq_of_entries hout
  refine ⟨_, out.entries.map fun e => (e.1, .string e.2), .object ?_, hread, ?_⟩
  · rw [List.forall₂_map_left_iff, List.forall₂_map_right_iff, List.forall₂_same]
    exact fun e _ => .intro e.1 (spells_string e.2)
  · rw [keepMembers_eq_ok, List.forall₂_map_left_iff, List.forall₂_map_right_iff,
      List.forall₂_same]
    exact fun e _ => ⟨text_literal e.1, keep_string.mpr ⟨e.2, text_literal e.2, rfl⟩⟩

/-! ## Shapes -/

/-- A tree that the text of a datum spells, and that the datum is read from. -/
structure Shape.WrittenAs (shape : Shape) (depth : Nat) (d : Datum) (n : Node) : Prop where
  text : Spells (shape.chars d) n
  read : shape.ofNode depth n = .ok d
  kept : ∃ v, n.keep depth = .ok v

/-- Members that the text of the fields of a record spells, and that the fields are read from. -/
structure Row.WrittenAs (row : Row) (depth : Nat) (fields : List Datum)
    (members : List (Literal × Node)) : Prop where
  text : List.Forall₂ SpellsMember (row.parts fields) members
  names : ∀ m ∈ members, ∃ k ∈ row.names, m.1.text = .ok k
  read : row.FieldsOf depth members fields
  kept : ∃ vs, keepMembers depth members = .ok vs

theorem ofNode_null {shape : Shape} {depth : Nat} {d : Datum}
    (h : shape.ofNode depth .null = .ok d) : d = .absent ∨ d = .any .null := by
  cases shape with
  | optional shape =>
      cases h
      exact .inl rfl
  | any =>
      cases h
      exact .inr rfl
  | variant names => cases h
  | _ => simp [Shape.ofNode, mismatch_ne_ok] at h

theorem chars_optional {shape : Shape} {d : Datum} (h : d ≠ .absent) :
    (Shape.optional shape).chars d = shape.chars d := by
  cases d with
  | absent => exact absurd rfl h
  | _ => rw [Shape.chars]; nofun

theorem Shape.WrittenAs.optional {shape : Shape} {depth : Nat} {d : Datum} {n : Node}
    (h : shape.WrittenAs depth d n) (null : d ≠ .any .null) :
    ∃ n, (Shape.optional shape).WrittenAs depth d n := by
  by_cases habsent : d = .absent
  · subst habsent
    exact ⟨.null, spells_null, rfl, .null, rfl⟩
  · have hn : n ≠ .null := by
      rintro rfl
      exact (ofNode_null h.read).elim habsent null
    exact ⟨n, (chars_optional habsent).symm ▸ h.text,
      ofNode_optional.mpr (.inr ⟨hn, h.read⟩),
      h.kept⟩

theorem Shape.WrittenAs.list {shape : Shape} {depth inner : Nat} (hinner : enter depth = .ok inner)
    {items : List Datum} (h : ∀ d ∈ items, ∃ n, shape.WrittenAs inner d n) :
    ∃ n, (Shape.list shape).WrittenAs depth (.list items) n := by
  have hitems : ∃ ns vs, List.Forall₂ Spells (items.map shape.chars) ns ∧
      List.Forall₂ (fun n d => shape.ofNode inner n = .ok d) ns items ∧
      keepItems inner ns = .ok vs := by
    induction items with
    | nil => exact ⟨[], [], .nil, .nil, rfl⟩
    | cons d items ih =>
        obtain ⟨⟨n, hn⟩, hitems⟩ := List.forall_mem_cons.mp h
        obtain ⟨ns, vs, htext, hread, hkeep⟩ := ih hitems
        obtain ⟨v, hv⟩ := hn.kept
        exact ⟨n :: ns, v :: vs, .cons hn.text htext, .cons hn.read hread,
          keepItems_eq_ok.mpr (.cons hv (keepItems_eq_ok.mp hkeep))⟩
  obtain ⟨ns, vs, htext, hread, hkeep⟩ := hitems
  refine ⟨.array ns .closed, ?_, ofNode_list.mpr ⟨inner, ns, items, hinner, rfl, hread, rfl⟩,
    .array vs, keep_array.mpr ⟨inner, vs, hinner, hkeep, rfl, rfl⟩⟩
  rw [Shape.chars]
  exact .array htext

theorem valuesNamed_eq_nil {name : String} {names : List String} {members : List (Literal × Node)}
    (h : ∀ m ∈ members, ∃ k ∈ names, m.1.text = .ok k) (hname : name ∉ names) :
    valuesNamed name members = [] := by
  induction members with
  | nil => rfl
  | cons m members ih =>
      obtain ⟨key, n⟩ := m
      obtain ⟨⟨k, hk, htext⟩, hmembers⟩ := List.forall_mem_cons.mp h
      have hne : k ≠ name := fun heq => hname (heq ▸ hk)
      rw [valuesNamed_cons_of_ne htext hne, ih hmembers]

section

variable {depth : Nat} {name : String} {shape : Shape} {fallback : Option Datum} {sparse : Bool}
  {row : Row} {d : Datum} {fields : List Datum} {members : List (Literal × Node)}

theorem Row.WrittenAs.skip (h : row.WrittenAs depth fields members) (hname : name ∉ row.names)
    (hempty : (sparse && d.isEmpty) = true) (hfallback : fallback = some d) :
    (Row.cons name shape fallback sparse row).WrittenAs depth (d :: fields) members where
  text := by
    rw [Row.parts, if_pos hempty]
    exact h.text
  names m hm :=
    let ⟨k, hk, htext⟩ := h.names m hm
    ⟨k, List.mem_cons_of_mem _ hk, htext⟩
  read := .cons (valuesNamed_eq_nil h.names hname ▸ .missing hfallback) h.read
  kept := h.kept

theorem Row.WrittenAs.put (h : row.WrittenAs depth fields members) (hname : name ∉ row.names)
    (hwritten : ¬(sparse && d.isEmpty) = true) {n : Node} (hn : shape.WrittenAs depth d n) :
    (Row.cons name shape fallback sparse row).WrittenAs depth (d :: fields)
      ((literal name, n) :: members) where
  text := by
    rw [Row.parts, if_neg hwritten]
    exact .cons (.intro name hn.text) h.text
  names := List.forall_mem_cons.mpr
    ⟨⟨name, List.mem_cons_self, text_literal name⟩, fun m hm =>
    let ⟨k, hk, htext⟩ := h.names m hm
    ⟨k, List.mem_cons_of_mem _ hk, htext⟩⟩
  read := by
    refine .cons ?_ (h.read.congr fun other hother => ?_)
    · rw [valuesNamed_cons_self (text_literal name), valuesNamed_eq_nil h.names hname]
      exact .found hn.read
    · have hne : name ≠ other := fun heq => hname (heq ▸ hother)
      exact (valuesNamed_cons_of_ne (text_literal name) hne n members).symm
  kept := by
    obtain ⟨v, hv⟩ := hn.kept
    obtain ⟨vs, hvs⟩ := h.kept
    exact ⟨(name, v) :: vs,
      keepMembers_eq_ok.mpr (.cons ⟨text_literal name, hv⟩ (keepMembers_eq_ok.mp hvs))⟩

theorem Row.WrittenAs.flawless (h : row.WrittenAs depth fields members) :
    ∀ m ∈ members, (∃ k, m.1.text = .ok k) ∧ m.2.skipped = none := by
  obtain ⟨vs, hvs⟩ := h.kept
  intro m hm
  exact ⟨(h.names m hm).imp fun _ hk => hk.2, (skipped_of_keepMembers members hvs m hm).2⟩

theorem Row.WrittenAs.record (h : row.WrittenAs depth fields members)
    (hdistinct : row.distinct = true) {outer : Nat} (houter : enter outer = .ok depth) :
    (Shape.record name row).WrittenAs outer (.record fields) (.object members .closed) := by
  obtain ⟨vs, hvs⟩ := h.kept
  refine ⟨?_, (ofNode_record_object hdistinct).mpr
    ⟨depth, fields, houter, rfl, h.flawless, h.read⟩,
    .object vs, keep_object.mpr ⟨depth, vs, houter, hvs, rfl, rfl⟩⟩
  rw [Shape.chars]
  exact .object h.text

end

-- By recursion on the shape. The depth that is left bounds the brackets of the parts, and the
-- values of any kind among them by what the datum says.

mutual

theorem Shape.writtenAs {depth : Nat} {d : Datum} :
    (shape : Shape) → shape.plain = true → shape.distinct = true → shape.levels < depth →
      shape.Describes depth d → (∀ x ∈ d.doubles, ReadsBack x) →
        ∃ n, shape.WrittenAs depth d n
  | .text, _, _, _, .text s, _ =>
      ⟨_, spells_string s, ofNode_text.mpr ⟨_, s, rfl, text_literal s, rfl⟩, .string s,
        keep_string.mpr ⟨s, text_literal s, rfl⟩⟩
  | .bool, _, _, _, .bool b, _ => ⟨_, spells_bool b, rfl, .bool b, rfl⟩
  | .natural w, _, _, _, .natural (n := n) fits, _ => by
      have hread : (Shape.natural w).ofNode depth (.number (integral false n.toNat)) =
          .ok (.natural n) :=
        ofNode_natural.mpr ⟨_, _, rfl, value_natural n, by rw [Width.read, if_pos fits]⟩
      refine ⟨_, ?_, hread, _, keep_number.mpr ⟨_, value_natural n, rfl⟩⟩
      rw [Shape.chars, Datum.asNatural, toList_toString_natural]
      exact spells_natural n.toNat
  | .double, _, _, _, .double x, hdoubles => by
      have hx := hdoubles x List.mem_cons_self
      obtain ⟨n, htext, hvalue⟩ := hx.spells
      refine ⟨_, ?_, ofNode_double.mpr ⟨n, _, rfl, hvalue, rfl⟩, _,
        keep_number.mpr ⟨_, hvalue, rfl⟩⟩
      rw [Shape.chars, Datum.asDouble, hx.doubleChars_eq]
      exact htext
  | .optional shape, hplain, hdistinct, hlevels, hd, hdoubles => by
      cases hd with
      | absent => exact ⟨.null, spells_null, rfl, .null, rfl⟩
      | present hd null =>
          obtain ⟨n, hn⟩ := shape.writtenAs hplain hdistinct hlevels hd hdoubles
          exact hn.optional null
  | .list shape, hplain, hdistinct, hlevels, .list each, hdoubles => by
      obtain ⟨inner, hinner, hlt⟩ := enter_of_lt hlevels
      obtain ⟨rfl, -⟩ := enter_eq_ok.mp hinner
      exact Shape.WrittenAs.list hinner fun d hd => shape.writtenAs hplain hdistinct hlt (each d hd)
        (readsBack_data hdoubles d hd)
  | .labels, _, _, hlevels, .labels entries, _ => by
      obtain ⟨inner, hinner, -⟩ := enter_of_lt hlevels
      obtain ⟨members, vs, htext, hread, hkeep⟩ := spells_labels entries inner
      exact ⟨_, htext, ofNode_labels.mpr ⟨inner, members, entries, hinner, rfl, hread, rfl⟩,
        .object vs, keep_object.mpr ⟨inner, vs, hinner, hkeep, rfl, rfl⟩⟩
  | .any, _, _, hlevels, .any (v := v) within, hdoubles => by
      obtain ⟨n, htext, hkeep⟩ := within.spells hdoubles (Nat.sub_one_lt (Nat.ne_of_gt hlevels))
      exact ⟨n, htext, ofNode_any.mpr ⟨v, hkeep, by rw [within.sorted_eq]⟩, v, hkeep⟩
  | .variant names, _, _, _, .variant (s := s) known, _ => by
      refine ⟨_, spells_string s, ?_, .string s, keep_string.mpr ⟨s, text_literal s, rfl⟩⟩
      rw [Shape.ofNode, variantOfNode, text_literal]
      exact bind_eq_ok.mpr ⟨s, rfl, by rw [readVariant, known]⟩
  | .record name row, hplain, hdistinct, hlevels, .record each, hdoubles => by
      obtain ⟨inner, hinner, hlt⟩ := enter_of_lt hlevels
      obtain ⟨rfl, -⟩ := enter_eq_ok.mp hinner
      obtain ⟨members, hmembers⟩ :=
        row.writtenAs hplain hdistinct hlt each (readsBack_data hdoubles)
      exact ⟨_, hmembers.record hdistinct hinner⟩
  | .flattened _ _ _ _, hplain, _, _, _, _ => by cases hplain

theorem Row.writtenAs {depth : Nat} {fields : List Datum} :
    (row : Row) → row.plain = true → row.distinct = true → row.levels < depth →
      row.Describes depth fields → (∀ d ∈ fields, ∀ x ∈ d.doubles, ReadsBack x) →
      ∃ members, row.WrittenAs depth fields members
  | .nil, _, _, _, .nil, _ => ⟨[], .nil, nofun, .nil, [], rfl⟩
  | .cons name shape fallback sparse row, hplain, hdistinct, hlevels,
      .cons (d := d) first empty later, hdoubles => by
      obtain ⟨hshape, hrow⟩ := Row.plain_cons.mp hplain
      obtain ⟨hname, hshape', hrow'⟩ := Row.distinct_cons.mp hdistinct
      obtain ⟨hfirst, hlater⟩ := List.forall_mem_cons.mp hdoubles
      obtain ⟨members, hmembers⟩ := row.writtenAs hrow hrow'
        (Nat.lt_of_le_of_lt (Nat.le_max_right _ _) hlevels) later hlater
      by_cases hempty : (sparse && d.isEmpty) = true
      · obtain ⟨hsparse, hisEmpty⟩ := Bool.and_eq_true_iff.mp hempty
        exact ⟨members, hmembers.skip hname hempty (empty hsparse hisEmpty)⟩
      · obtain ⟨n, hn⟩ := shape.writtenAs hshape hshape'
          (Nat.lt_of_le_of_lt (Nat.le_max_left _ _) hlevels) first hfirst
        exact ⟨_, hmembers.put hname hempty hn⟩

end

/-! ## Records that hold the members of others -/

/-- One member of a record that holds the members of another one. -/
abbrev putOrKeep (row : Row) (depth : Nat) (state : List (Option Datum) × List (String × Value))
    (key : String) (n : Node) : Except Fault (List (Option Datum) × List (String × Value)) :=
  match state with
  | (slots, kept) =>
    if key ∈ row.names then do return (← row.putNode depth key n slots, kept)
    else do return (slots, kept ++ [(key, ← n.keep depth)])

section

variable {row : Row} {depth : Nat} {slots out : List (Option Datum)}
  {kept vs : List (String × Value)} {members later : List (Literal × Node)}

theorem readMembersWith_putOrKeep_held
    (hnames : ∀ m ∈ members, ∀ k, m.1.text = .ok k → k ∉ row.names)
    (hkeep : keepMembers depth members = .ok vs)
    {after : List (Option Datum) × List (String × Value)}
    (hread : readMembersWith (putOrKeep row depth) (slots, kept ++ vs) later = .ok after) :
    readMembersWith (putOrKeep row depth) (slots, kept) (members ++ later) = .ok after := by
  rw [keepMembers_eq_ok] at hkeep
  induction hkeep generalizing kept with
  | nil => rwa [List.append_nil] at hread
  | @cons m v members vs first _ ih =>
      obtain ⟨key, n⟩ := m
      obtain ⟨k, v⟩ := v
      obtain ⟨hkey, hv⟩ := first
      obtain ⟨hname, hmembers⟩ := List.forall_mem_cons.mp hnames
      refine readMembersWith_cons.mpr ⟨k, (slots, kept ++ [(k, v)]), hkey, ?_, ih hmembers ?_⟩
      · rw [putOrKeep, if_neg (hname k hkey), hv]
        rfl
      · rwa [List.append_assoc]

theorem readMembersWith_putOrKeep_own
    (hnames : ∀ m ∈ members, ∃ k ∈ row.names, m.1.text = .ok k)
    (hread : readMembersWith (fun slots key n => row.putNode depth key n slots) slots members =
      .ok out) :
    readMembersWith (putOrKeep row depth) (slots, kept) members = .ok (out, kept) := by
  induction members generalizing slots with
  | nil =>
      cases hread
      rfl
  | cons m members ih =>
      obtain ⟨key, n⟩ := m
      obtain ⟨k, mid, hkey, hput, hlater⟩ := readMembersWith_cons.mp hread
      obtain ⟨⟨k', hk', hkey'⟩, hmembers⟩ := List.forall_mem_cons.mp hnames
      obtain rfl : k' = k := ok_unique hkey' hkey
      refine readMembersWith_cons.mpr ⟨k', (mid, kept), hkey, ?_, ih hmembers hlater⟩
      rw [putOrKeep, if_pos hk', hput]
      rfl

theorem Row.WrittenAs.flattened {name inner : String} {innerRow : Row} {fields own : List Datum}
    {held : List (Literal × Node)} (hheld : innerRow.WrittenAs depth fields held)
    (hown : row.WrittenAs depth own members) (hplain : innerRow.plain = true)
    (hdistinct : (Shape.flattened name inner innerRow row).distinct = true) {outer : Nat}
    (houter : enter outer = .ok depth) :
    (Shape.flattened name inner innerRow row).WrittenAs outer (.record (.record fields :: own))
      (.object (held ++ members) .closed) := by
  obtain ⟨hinner, hrow, hapart⟩ := Shape.distinct_flattened.mp hdistinct
  obtain ⟨vs, hvs⟩ := hheld.kept
  obtain ⟨ws, hws⟩ := hown.kept
  obtain ⟨slots, hslots, hfinish⟩ := fieldsOf_iff_finish.mp hown.read
  have hput := (readMembersWith_putNode hrow row.filled_unfilled).mpr ⟨hown.flawless, hslots⟩
  have hothers (m) (hm : m ∈ held) (k) (hk : m.1.text = .ok k) : k ∉ row.names := by
    obtain ⟨k', hk', htext⟩ := hheld.names m hm
    rw [ok_unique hk htext]
    exact hapart k' hk'
  have hread : readMembersWith (putOrKeep row depth) (row.unfilled, []) (held ++ members) =
      .ok (slots, vs) :=
    readMembersWith_putOrKeep_held hothers hvs (readMembersWith_putOrKeep_own hown.names hput)
  -- The members that are kept are the object that the other record would be on its own.
  have hrecord : (Shape.record inner innerRow).WrittenAs outer (.record fields)
      (.object held .closed) := hheld.record hinner houter
  have hvalue := Shape.ofValue_of_keep (.record inner innerRow) hplain hrecord.read
    (keep_object.mpr ⟨depth, vs, houter, hvs, rfl, rfl⟩)
  refine ⟨?_, ?_, .object (vs ++ ws), keep_object.mpr ⟨depth, _, houter, ?_, rfl, rfl⟩⟩
  · rw [Shape.chars]
    exact .object (List.rel_append hheld.text hown.text)
  · simp only [Shape.ofNode, bind_eq_ok, reject_eq_ok, pure_eq_ok]
    exact ⟨depth, houter, (slots, vs), hread, (), rfl, own, hfinish, .record fields,
      hvalue, rfl⟩
  · exact keepMembers_eq_ok.mpr
      (List.rel_append (keepMembers_eq_ok.mp hvs) (keepMembers_eq_ok.mp hws))

end

/-- No record holds the members of another one inside, or of one that does. -/
def Shape.legible : Shape → Bool
  | .flattened _ _ innerRow row => innerRow.plain && row.plain
  | shape => shape.plain

/-- A datum that a shape describes is written so that it is read again. -/
theorem Shape.Describes.written {shape : Shape} {depth : Nat} {d : Datum}
    (h : shape.Describes depth d) (hlegible : shape.legible = true)
    (hdistinct : shape.distinct = true) (hlevels : shape.levels < depth)
    (hdoubles : ∀ x ∈ d.doubles, ReadsBack x) : ∃ n, shape.WrittenAs depth d n := by
  by_cases hplain : shape.plain = true
  · exact shape.writtenAs hplain hdistinct hlevels h hdoubles
  · cases h with
    | @flattened _ _ _ innerRow row fields own held each =>
        obtain ⟨hinner, hrow⟩ := Bool.and_eq_true_iff.mp hlegible
        obtain ⟨hinner', hrow', -⟩ := Shape.distinct_flattened.mp hdistinct
        obtain ⟨inner, henter, hlt⟩ := enter_of_lt hlevels
        obtain ⟨rfl, -⟩ := enter_eq_ok.mp henter
        obtain ⟨hheld, hown⟩ := List.forall_mem_cons.mp (readsBack_data hdoubles)
        obtain ⟨members, hmembers⟩ := innerRow.writtenAs hinner hinner'
          (Nat.lt_of_le_of_lt (Nat.le_max_left _ _) hlt) held (readsBack_data hheld)
        obtain ⟨others, hothers⟩ := row.writtenAs hrow hrow'
          (Nat.lt_of_le_of_lt (Nat.le_max_right _ _) hlt) each hown
        exact ⟨_, hmembers.flattened hothers hinner hdistinct henter⟩
    | _ => exact absurd hlegible hplain

/-! ## Values of any kind that were read -/

theorem within_of_any {depth : Nat} {n : Node} {d : Datum}
    (h : Shape.any.ofNode depth n = .ok d) : ∃ v, d = .any v ∧ v.Within (depth - 1) := by
  obtain ⟨v, hv, rfl⟩ := ofNode_any.mp h
  exact ⟨v.sorted, rfl, .of_keep n hv⟩

theorem within_of_optionalAny {depth : Nat} {n : Node} {d : Datum}
    (h : (Shape.optional .any).ofNode depth n = .ok d) :
    d = .absent ∨ ∃ v, d = .any v ∧ v ≠ .null ∧ v.Within (depth - 1) := by
  rcases ofNode_optional.mp h with ⟨-, rfl⟩ | ⟨hn, hany⟩
  · exact .inl rfl
  · obtain ⟨v, hv, rfl⟩ := ofNode_any.mp hany
    refine .inr ⟨v.sorted, rfl, fun hnull => hn ?_, .of_keep n hv⟩
    exact Node.eq_null_of_keep (Value.eq_null_of_sorted hnull ▸ hv)

end Rollout.Json
