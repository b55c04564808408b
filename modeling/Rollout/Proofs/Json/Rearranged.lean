import Rollout.Proofs.Json.Members
/-!
# Rearranged members

Objects that stand for a record may be written in many ways: the members in any order, and with
members that the record does not have. The same goes for the objects inside of it. All these ways
are read alike.
-/

namespace Rollout.Json

/-- The names and shapes of the fields of a record. -/
def Row.fields : Row → List (String × Shape)
  | .nil => []
  | .cons name shape _ _ row => (name, shape) :: row.fields

/-- Trees of a shape that differ in the order of members and in members without a field. -/
inductive Rearranged : Shape → Node → Node → Prop where
  | same (shape : Shape) (n : Node) : Rearranged shape n n
  | trans {shape : Shape} {n mid later : Node} (h : Rearranged shape n mid)
      (h' : Rearranged shape mid later) : Rearranged shape n later
  | reordered {name : String} {row : Row} {members others : List (Literal × Node)}
      (h : members.Perm others) :
      Rearranged (.record name row) (.object members .closed) (.object others .closed)
  | added {name : String} {row : Row} {members : List (Literal × Node)} {key : Literal}
      {k : String} {value : Node} (text : key.text = .ok k) (unknown : k ∉ row.names)
      (flawless : value.skipped = none) :
      Rearranged (.record name row) (.object members .closed)
        (.object ((key, value) :: members) .closed)
  | removed {name : String} {row : Row} {members : List (Literal × Node)} {key : Literal}
      {k : String} {value : Node} (text : key.text = .ok k) (unknown : k ∉ row.names) :
      Rearranged (.record name row) (.object ((key, value) :: members) .closed)
        (.object members .closed)
  | member {name : String} {row : Row} {before after : List (Literal × Node)} {key : Literal}
      {k : String} {shape : Shape} {value other : Node} (text : key.text = .ok k)
      (known : (k, shape) ∈ row.fields) (h : Rearranged shape value other) :
      Rearranged (.record name row) (.object (before ++ (key, value) :: after) .closed)
        (.object (before ++ (key, other) :: after) .closed)
  | field {name k : String} {row : Row} {before after : List Node} {shape : Shape}
      {value other : Node} (known : row.fields[before.length]? = some (k, shape))
      (h : Rearranged shape value other) :
      Rearranged (.record name row) (.array (before ++ value :: after) .closed)
        (.array (before ++ other :: after) .closed)
  | item {shape : Shape} {before after : List Node} {value other : Node}
      (h : Rearranged shape value other) :
      Rearranged (.list shape) (.array (before ++ value :: after) .closed)
        (.array (before ++ other :: after) .closed)
  | optional {shape : Shape} {value other : Node} (h : Rearranged shape value other) :
      Rearranged (.optional shape) value other

theorem Rearranged.null_iff {shape : Shape} {n other : Node} (h : Rearranged shape n other) :
    n = .null ↔ other = .null := by
  induction h with
  | same => exact Iff.rfl
  | trans _ _ ih ih' => exact ih.trans ih'
  | optional _ ih => exact ih
  | reordered | added | removed | member | field | item => exact ⟨nofun, nofun⟩

theorem Row.name_mem_of_fields {row : Row} {k : String} {shape : Shape}
    (h : (k, shape) ∈ row.fields) : k ∈ row.names := by
  induction row using Row.rec (motive_1 := fun _ => True) with
  | nil => cases h
  | cons name s fallback sparse row _ ih =>
      rcases List.mem_cons.mp h with heq | hlater
      · cases heq
        exact List.mem_cons_self
      · exact List.mem_cons_of_mem _ (ih hlater)
  | _ => trivial

theorem Row.distinct_of_fields {row : Row} (hrow : row.distinct = true) {k : String}
    {shape : Shape} (h : (k, shape) ∈ row.fields) : shape.distinct = true := by
  induction row using Row.rec (motive_1 := fun _ => True) with
  | nil => cases h
  | cons name s fallback sparse row _ ih =>
      obtain ⟨-, hshape, hlater⟩ := Row.distinct_cons.mp hrow
      rcases List.mem_cons.mp h with heq | hmem
      · cases heq
        exact hshape
      · exact ih hlater hmem
  | _ => trivial

variable {depth : Nat} {members others : List (Literal × Node)} {row : Row}

theorem FieldOf.perm {shape : Shape} {fallback : Option Datum} {values values' : List Node}
    {d : Datum} (hperm : values.Perm values') (h : FieldOf depth shape fallback values d) :
    FieldOf depth shape fallback values' d := by
  cases h with
  | found read =>
      rw [List.perm_singleton.mp hperm.symm]
      exact .found read
  | missing default =>
      rw [List.perm_nil.mp hperm.symm]
      exact .missing default

theorem Row.FieldsOf.perm (hperm : members.Perm others) {fields : List Datum}
    (h : row.FieldsOf depth members fields) : row.FieldsOf depth others fields := by
  induction h with
  | nil => exact .nil
  | cons field later ih => exact .cons (field.perm (hperm.filterMap _)) ih

theorem Row.FieldsOf.replace {before after : List (Literal × Node)} {key : Literal} {k : String}
    {shape : Shape} {value other : Node} (text : key.text = .ok k) (hrow : row.distinct = true)
    (known : (k, shape) ∈ row.fields)
    (hread : ∀ {d}, shape.ofNode depth value = .ok d → shape.ofNode depth other = .ok d)
    {fields : List Datum} (h : row.FieldsOf depth (before ++ (key, value) :: after) fields) :
    row.FieldsOf depth (before ++ (key, other) :: after) fields ∧
      ∃ d, shape.ofNode depth other = .ok d := by
  have hself (n : Node) : valuesNamed k (before ++ (key, n) :: after) =
      valuesNamed k before ++ n :: valuesNamed k after := by
    rw [valuesNamed_append, valuesNamed_cons_self text]
  have hothers {name : String} (hne : k ≠ name) :
      valuesNamed name (before ++ (key, value) :: after) =
        valuesNamed name (before ++ (key, other) :: after) := by
    rw [valuesNamed_append, valuesNamed_append, valuesNamed_cons_of_ne text hne,
      valuesNamed_cons_of_ne text hne]
  induction h with
  | nil => cases known
  | @cons name s fallback sparse row d fields field later ih =>
      obtain ⟨hname, -, hlater⟩ := Row.distinct_cons.mp hrow
      rcases List.mem_cons.mp known with heq | hmem
      · cases heq
        have hrest := later.congr fun name hmem => hothers fun heq => hname (heq ▸ hmem)
        rw [hself] at field
        generalize hvalues : valuesNamed k before ++ value :: valuesNamed k after = values at field
        cases field with
        | missing => simp at hvalues
        | found read =>
            -- The value is the only one with its name.
            obtain ⟨hbefore, hcons⟩ : valuesNamed k before = [] ∧
                value :: valuesNamed k after = [_] := by
              rcases List.append_eq_singleton_iff.mp hvalues with h | ⟨-, hcons⟩
              · exact h
              · cases hcons
            obtain ⟨rfl, hafter⟩ := List.cons.inj hcons
            refine ⟨.cons ?_ hrest, d, hread read⟩
            rw [hself, hbefore, hafter]
            exact .found (hread read)
      · have hne : k ≠ name := fun heq => hname (heq ▸ Row.name_mem_of_fields hmem)
        obtain ⟨hrest, hd⟩ := ih hlater hmem
        exact ⟨.cons (hothers hne ▸ field) hrest, hd⟩

theorem Row.nodesInOrder_replace {described k : String} {ending : Ending} {m : Nat}
    {before after : List Node} {shape : Shape} {value other : Node}
    (known : row.fields[before.length]? = some (k, shape))
    (hread : ∀ {d}, shape.ofNode depth value = .ok d → shape.ofNode depth other = .ok d)
    {fields : List Datum × List Node}
    (h : row.nodesInOrder depth described ending m (before ++ value :: after) = .ok fields) :
    row.nodesInOrder depth described ending m (before ++ other :: after) = .ok fields := by
  induction before generalizing row m fields with
  | nil =>
      cases row with
      | nil => cases known
      | cons name s fallback sparse row =>
          cases known
          simp only [List.nil_append, Row.nodesInOrder, bind_eq_ok] at h ⊢
          obtain ⟨d, hd, hlater⟩ := h
          exact ⟨d, hread hd, hlater⟩
  | cons item before ih =>
      cases row with
      | nil => cases known
      | cons name s fallback sparse row =>
          simp only [List.cons_append, Row.nodesInOrder, bind_eq_ok] at h ⊢
          obtain ⟨d, hd, later, hlater, hfields⟩ := h
          exact ⟨d, hd, later, ih known hlater, hfields⟩

theorem forall₂_replace {α β : Type} {R : α → β → Prop} {before after : List α}
    {a a' : α} {bs : List β} (h : ∀ {b}, R a b → R a' b)
    (hs : List.Forall₂ R (before ++ a :: after) bs) :
    List.Forall₂ R (before ++ a' :: after) bs := by
  induction before generalizing bs with
  | nil =>
      cases hs with
      | cons first later => exact .cons (h first) later
  | cons b before ih =>
      cases hs with
      | cons first later => exact .cons first (ih later)

theorem ofNode_record_of_fields {name : String} {d : Datum} (hrow : row.distinct = true)
    (himp : ∀ {inner fields},
      (∀ m ∈ members, (∃ k, m.1.text = .ok k) ∧ m.2.skipped = none) →
      row.FieldsOf inner members fields →
      (∀ m ∈ others, (∃ k, m.1.text = .ok k) ∧ m.2.skipped = none) ∧
        row.FieldsOf inner others fields)
    (h : (Shape.record name row).ofNode depth (.object members .closed) = .ok d) :
    (Shape.record name row).ofNode depth (.object others .closed) = .ok d := by
  obtain ⟨inner, fields, hinner, rfl, hmembers, hfields⟩ := (ofNode_record_object hrow).mp h
  obtain ⟨hothers, hfields⟩ := himp hmembers hfields
  exact (ofNode_record_object hrow).mpr ⟨inner, fields, hinner, rfl, hothers, hfields⟩

/-- Rearranged members are read alike. -/
theorem Rearranged.ofNode_eq_ok {shape : Shape} {n other : Node} (h : Rearranged shape n other)
    (hshape : shape.distinct = true) {d : Datum} (hread : shape.ofNode depth n = .ok d) :
    shape.ofNode depth other = .ok d := by
  induction h generalizing depth d with
  | same => exact hread
  | trans _ _ ih ih' => exact ih' hshape (ih hshape hread)
  | reordered hperm =>
      refine ofNode_record_of_fields hshape (fun hmembers hfields => ?_) hread
      exact ⟨fun m hm => hmembers m (hperm.mem_iff.mpr hm), hfields.perm hperm⟩
  | @added name row members key k value text unknown flawless =>
      refine ofNode_record_of_fields hshape (fun hmembers hfields => ?_) hread
      refine ⟨List.forall_mem_cons.mpr ⟨⟨⟨k, text⟩, flawless⟩, hmembers⟩,
        hfields.congr fun name hmem => ?_⟩
      have hne : k ≠ name := fun heq => unknown (heq ▸ hmem)
      exact (valuesNamed_cons_of_ne text hne value members).symm
  | @removed name row members key k value text unknown =>
      refine ofNode_record_of_fields hshape (fun hmembers hfields => ?_) hread
      refine ⟨(List.forall_mem_cons.mp hmembers).2, hfields.congr fun name hmem => ?_⟩
      have hne : k ≠ name := fun heq => unknown (heq ▸ hmem)
      exact valuesNamed_cons_of_ne text hne value members
  | @member name row before after key k shape value other text known h ih =>
      refine ofNode_record_of_fields hshape (fun hmembers hfields => ?_) hread
      obtain ⟨hfields, d, hd⟩ := hfields.replace text hshape known
        (ih (Row.distinct_of_fields hshape known))
      simp only [List.forall_mem_append, List.forall_mem_cons] at hmembers ⊢
      exact ⟨⟨hmembers.1, ⟨⟨k, text⟩, shape.skipped_of_ofNode hd⟩, hmembers.2.2⟩,
        hfields⟩
  | @field name k row before after shape value other known h ih =>
      obtain ⟨inner, fields, hinner, rfl, ⟨_, _, hn, -⟩ | ⟨_, hn, hfields⟩⟩ :=
        ofNode_record.mp hread
      · cases hn
      · cases hn
        have hknown := List.mem_of_getElem? known
        exact ofNode_record.mpr ⟨inner, fields, hinner, rfl, .inr ⟨_, rfl,
          Row.nodesInOrder_replace known (ih (Row.distinct_of_fields hshape hknown)) hfields⟩⟩
  | @item shape before after value other h ih =>
      obtain ⟨inner, items, ds, hinner, hn, hds, rfl⟩ := ofNode_list.mp hread
      cases hn
      exact ofNode_list.mpr ⟨inner, _, ds, hinner, rfl, forall₂_replace (ih hshape) hds, rfl⟩
  | @optional shape value other h ih =>
      rcases ofNode_optional.mp hread with ⟨hnull, rfl⟩ | ⟨hnull, hread⟩
      · exact ofNode_optional.mpr (.inl ⟨h.null_iff.mp hnull, rfl⟩)
      · have hother : other ≠ .null := fun hother => hnull (h.null_iff.mpr hother)
        exact ofNode_optional.mpr (.inr ⟨hother, ih hshape hread⟩)

end Rollout.Json
